import Mathlib.Data.List.Basic
import Mathlib.Logic.Function.Basic
import RadioLink.Modem
import RadioLink.Proofs.Framing

set_option autoImplicit false

/-! # What a modem owes, and what it has said

A modem keeps what has arrived, what it holds, and what it is still to say in lists of their own. A
`Docket` keeps one list of all commands, each with its `Fate`: an acknowledgment is never answered,
a command is answered as it arrives or is held, and what is held is answered later, the oldest
first. Beside that it keeps everything that was ever queued, in order, answers with the number of
their command.

After any steps whatever the lists of the modem are those that its docket says (`Modem.Follows`),
and on the docket every command has exactly the answer that its fate names (`Docket.IsSettled`). -/

namespace RadioLink

/-! ## Steps of a modem -/

/-- What can be done with a modem. -/
inductive ModemStep
  | setRule (request : RequestId) (rule : ModemRule)
  | clearRule (request : RequestId)
  | process (bytes : Bytes)
  | answerNext (rule : ModemRule)
  | respond (kind : FrameKind) (token : Token) (request : RequestId) (status : Status)
    (payload : Bytes)
  | indicate (indication : IndicationId) (payload : Bytes) (ackExpected : Bool)
  | queueFrame (frame : Frame)
  | queueRaw (bytes : Bytes)
  | takeOutput

/-- What the modem is given to read. -/
def ModemStep.fed : ModemStep → Bytes
  | .process bytes => bytes
  | _ => []

namespace Modem

def step (m : Modem) : ModemStep → Modem
  | .setRule request rule => m.setRule request rule
  | .clearRule request => m.clearRule request
  | .process bytes => (m.process bytes).1
  | .answerNext rule => (m.answerNext rule).1
  | .respond kind token request status payload => m.respond kind token request status payload
  | .indicate indication payload ackExpected => m.indicate indication payload ackExpected
  | .queueFrame frame => m.queueFrame frame
  | .queueRaw bytes => m.queueRaw bytes
  | .takeOutput => m.takeOutput.1

def run (m : Modem) (steps : List ModemStep) : Modem :=
  steps.foldl step m

/-- What is taken away in a step. -/
def takes (m : Modem) : ModemStep → List Bytes
  | .takeOutput => m.takeOutput.2.toList
  | _ => []

/-- What is taken away in steps one after the other. -/
def taken (m : Modem) : List ModemStep → List Bytes
  | [] => []
  | step :: steps => m.takes step ++ (m.step step).taken steps

end Modem

/-! ## Reading commands -/

/-- The command that a body says, if it says one. -/
def Command.ofBody? (body : Bytes) : Option Command :=
  (Command.decodeBody body).toOption

/-- Reading cuts bodies off, and goes on until it has cut off one that says nothing or no complete
body is left. -/
theorem Framer.drain_parseWhole (f : Framer) :
    ∃ bodies, (f.drain Command.decodeBody).1.limit = f.limit
      ∧ (∀ more, parseWhole f.limit.toNat (f.buffer ++ more)
          = (parseWhole f.limit.toNat ((f.drain Command.decodeBody).1.buffer ++ more)).prepend
              bodies)
      ∧ (f.drain Command.decodeBody).2.1 = bodies.filterMap Command.ofBody?
      ∧ ((parseWhole f.limit.toNat (f.drain Command.decodeBody).1.buffer).bodies = []
        ∨ ∃ body ∈ bodies.getLast?, Command.ofBody? body = none) := by
  fun_induction Framer.drain Command.decodeBody f with
  | case1 f hfront =>
    refine ⟨[], rfl, fun _ => rfl, rfl, .inl ?_⟩
    rw [Front.parseWhole_eq, hfront]
  | case2 f length hfront =>
    refine ⟨[], rfl, fun _ => rfl, rfl, .inl ?_⟩
    rw [Front.parseWhole_eq, hfront]
  | case3 f body rest hfront e hdecode =>
    refine ⟨[body], rfl, fun more => ?_, ?_, .inr ⟨body, rfl, ?_⟩⟩
    · rw [Front.parseWhole_eq, Front.of_append_of_complete hfront]
    · simp [Command.ofBody?, hdecode, Except.toOption]
    · rw [Command.ofBody?, hdecode]
      rfl
  | case4 f body rest hfront command hdecode next commands ending hnext ih =>
    obtain ⟨bodies, hlimit, hparse, hcommands, hleft⟩ := ih
    rw [hnext] at hlimit hparse hcommands hleft
    refine ⟨body :: bodies, hlimit, fun more => ?_, ?_, ?_⟩
    · rw [Front.parseWhole_eq, Front.of_append_of_complete hfront]
      simp only [hparse, Parse.prepend_prepend, List.singleton_append]
    · have hbody : Command.ofBody? body = some command := by
        rw [Command.ofBody?, hdecode]
        rfl
      rw [List.filterMap_cons_some hbody, ← hcommands]
    · refine hleft.imp id fun ⟨last, hlast, hnothing⟩ => ⟨last, ?_, hnothing⟩
      rw [List.getLast?_cons, Option.mem_def.1 hlast]
      rfl

/-! ## Dockets -/

namespace Docket

/-- What becomes of a command. -/
inductive Fate
  /-- It is an acknowledgment. -/
  | acknowledgment
  /-- It was answered as it arrived. -/
  | atOnce (rule : ModemRule)
  | held
  /-- It was held, and answered later. -/
  | later (rule : ModemRule)
deriving DecidableEq, Repr

/-- A command that has arrived. -/
structure Entry where
  command : Command
  fate : Fate
deriving DecidableEq, Repr

/-- Something that was queued. -/
inductive Item
  /-- The answer to the command with this number. -/
  | answer (number : Nat) (command : Command) (rule : ModemRule)
  | piece (bytes : Bytes)
deriving DecidableEq, Repr

def Entry.isHeld (entry : Entry) : Bool :=
  entry.fate = .held

/-- The answers to a command. -/
def Entry.answers (entry : Entry) : List (Command × ModemRule) :=
  match entry.fate with
  | .acknowledgment | .held => []
  | .atOnce rule | .later rule => [(entry.command, rule)]

/-- Which command is answered by which rule, if it is the one with this number. -/
def Item.answers? (number : Nat) : Item → Option (Command × ModemRule)
  | .answer other command rule => if other = number then some (command, rule) else none
  | .piece _ => none

/-- What an answer consists of: the response, and a receipt right before it if the rule says so. -/
def answer (command : Command) (rule : ModemRule) : List Frame :=
  let kind := if rule.style = .ackExpected then FrameKind.solicitedAckExpected else .solicited
  (if rule.style = .earlyAck
    then [⟨.solicitedAck, command.token, command.request.raw, .success, []⟩] else [])
    ++ [⟨kind, command.token, command.request.raw, rule.status, rule.payload⟩]

def Item.pieces : Item → List Bytes
  | .answer _ command rule => (Docket.answer command rule).map Frame.encode
  | .piece bytes => [bytes]

end Docket

/-- Everything that has arrived at a modem, and everything that was queued. -/
structure Docket where
  framer : Framer := {}
  /-- The rules in force. -/
  rules : RequestId → Option ModemRule := fun _ => none
  entries : List Docket.Entry := []
  items : List Docket.Item := []

namespace Docket

/-- What becomes of a command that arrives now. -/
def fateNow (d : Docket) (command : Command) : Fate :=
  if command.isAck then .acknowledgment
  else match d.rules command.request with
    | some rule => .atOnce rule
    | none => .held

/-- What the modem says that it has done with a command that arrives now. -/
def handledNow (d : Docket) (command : Command) : Handled :=
  if command.isAck then .ack command.token
  else if (d.rules command.request).isSome then .answered command
  else .held command

/-- A command arrives. -/
def arrive (d : Docket) (command : Command) : Docket :=
  let entry : Entry := ⟨command, d.fateNow command⟩
  { d with
    entries := d.entries ++ [entry]
    items := d.items ++ entry.answers.map fun answer => .answer d.entries.length answer.1 answer.2 }

/-- The oldest command that is held is answered. -/
def answerNext (d : Docket) (rule : ModemRule) : Docket :=
  let number := d.entries.findIdx fun entry => entry.isHeld
  match d.entries[number]? with
  | some entry => { d with
      entries := d.entries.set number ⟨entry.command, .later rule⟩
      items := d.items ++ [.answer number entry.command rule] }
  | none => d

def queue (d : Docket) (bytes : Bytes) : Docket :=
  { d with items := d.items ++ [.piece bytes] }

def step (d : Docket) : ModemStep → Docket
  | .setRule request rule => { d with rules := Function.update d.rules request (some rule) }
  | .clearRule request => { d with rules := Function.update d.rules request none }
  | .process bytes =>
    let (framer, commands, _) := (d.framer.push bytes).drain Command.decodeBody
    commands.foldl arrive { d with framer }
  | .answerNext rule => d.answerNext rule
  | .respond kind token request status payload =>
    d.queue ({ kind, token, id := request.raw, status, payload } : Frame).encode
  | .indicate indication payload ackExpected =>
    let kind := if ackExpected then FrameKind.unsolicitedAckExpected else .unsolicited
    let frame : Frame := { kind, token := ⟨0⟩, id := indication.raw, status := .success, payload }
    d.queue frame.encode
  | .queueFrame frame => d.queue frame.encode
  | .queueRaw bytes => d.queue bytes
  | .takeOutput => d

def run (d : Docket) (steps : List ModemStep) : Docket :=
  steps.foldl step d

/-! ### The oldest command that is held -/

@[simp] theorem Entry.isHeld_mk (command : Command) (fate : Fate) :
    (⟨command, fate⟩ : Entry).isHeld = decide (fate = .held) := rfl

theorem eq_held_of_isHeld {entry : Entry} (h : entry.isHeld = true) :
    entry = ⟨entry.command, .held⟩ := by
  obtain ⟨command, fate⟩ := entry
  simpa using h

/-- Either nothing is held, and then nothing changes; or the oldest command that is held is
answered, and what has arrived before it and after it stays as it is. -/
theorem answerNext_cases (d : Docket) (rule : ModemRule) :
    ((∀ entry ∈ d.entries, ¬ entry.isHeld = true) ∧ d.answerNext rule = d)
      ∨ ∃ before command after, d.entries = before ++ ⟨command, .held⟩ :: after
        ∧ (∀ entry ∈ before, ¬ entry.isHeld = true)
        ∧ d.answerNext rule = { d with
            entries := before ++ ⟨command, .later rule⟩ :: after
            items := d.items ++ [.answer before.length command rule] } := by
  cases hheld : d.entries.filter (·.isHeld) with
  | nil =>
    have hnone : ∀ entry ∈ d.entries, ¬ entry.isHeld = true := List.filter_eq_nil_iff.1 hheld
    refine .inl ⟨hnone, ?_⟩
    have hnumber : d.entries.findIdx (fun entry => entry.isHeld) = d.entries.length :=
      List.findIdx_eq_length.2 fun entry hmem => by simpa using hnone entry hmem
    rw [answerNext]
    simp only [hnumber, List.getElem?_length]
  | cons entry rest =>
    obtain ⟨before, after, hentries, hbefore, hentry, -⟩ := List.filter_eq_cons_iff.1 hheld
    rw [eq_held_of_isHeld hentry] at hentries
    refine .inr ⟨before, entry.command, after, hentries, hbefore, ?_⟩
    have hnumber : d.entries.findIdx (fun entry => entry.isHeld) = before.length := by
      rw [hentries, List.findIdx_append,
        List.findIdx_eq_length.2 fun entry hmem => by simpa using hbefore entry hmem]
      simp [List.findIdx_cons]
    rw [answerNext]
    simp only [hnumber]
    simp [hentries]

/-- Behind an entry it makes no difference what the entry is. -/
theorem getElem?_append_cons_of_gt {before after : List Entry} {number : Nat}
    (h : before.length < number) (entry other : Entry) :
    (before ++ entry :: after)[number]? = (before ++ other :: after)[number]? := by
  obtain ⟨offset, rfl⟩ := Nat.exists_eq_add_of_lt h
  rw [List.getElem?_append_right (Nat.le_of_lt h), List.getElem?_append_right (Nat.le_of_lt h),
    show before.length + offset + 1 - before.length = offset + 1 by omega]
  rfl

/-! ### Answers -/

/-- Every command has exactly the answer that its fate names, and acknowledgments are those commands
that are meant as such. -/
structure IsSettled (d : Docket) : Prop where
  answers : ∀ number, d.items.filterMap (Item.answers? number)
    = (d.entries[number]?.map Entry.answers).getD []
  acknowledgments : ∀ entry ∈ d.entries,
    entry.fate = .acknowledgment ↔ entry.command.isAck = true

variable {d : Docket}

theorem fateNow_eq_acknowledgment_iff (d : Docket) (command : Command) :
    d.fateNow command = .acknowledgment ↔ command.isAck = true := by
  rw [fateNow]
  split
  · next hack => simp [hack]
  · next hack =>
    split <;> simp [hack]

theorem filterMap_answers?_new (number : Nat) (answers : List (Command × ModemRule)) (other : Nat) :
    (answers.map fun answer => Item.answer number answer.1 answer.2).filterMap
      (Item.answers? other) = if number = other then answers else [] := by
  rw [List.filterMap_map]
  split
  · next heq => simp [Item.answers?, heq]
  · next hne => simp [Item.answers?, hne]

theorem IsSettled.arrive (h : d.IsSettled) (command : Command) : (d.arrive command).IsSettled where
  answers := by
    intro number
    rw [Docket.arrive]
    simp only [List.filterMap_append, h.answers, filterMap_answers?_new]
    -- Nothing was queued yet for the number that the command is given.
    rcases Nat.lt_trichotomy number d.entries.length with hlt | rfl | hgt
    · rw [List.getElem?_append_left hlt, if_neg (Nat.ne_of_gt hlt), List.append_nil]
    · simp
    · rw [if_neg (Nat.ne_of_lt hgt), List.getElem?_eq_none (Nat.le_of_lt hgt),
        List.getElem?_eq_none (by rw [List.length_append]; exact hgt)]
      rfl
  acknowledgments := by
    refine List.forall_mem_append.2 ⟨h.acknowledgments, List.forall_mem_singleton.2 ?_⟩
    exact d.fateNow_eq_acknowledgment_iff command

theorem IsSettled.arriveAll (h : d.IsSettled) (commands : List Command) :
    (commands.foldl Docket.arrive d).IsSettled := by
  induction commands generalizing d with
  | nil => exact h
  | cons command commands ih => exact ih (h.arrive command)

theorem IsSettled.queue (h : d.IsSettled) (bytes : Bytes) : (d.queue bytes).IsSettled where
  answers := by
    intro number
    rw [Docket.queue]
    simp only [List.filterMap_append, h.answers]
    exact List.append_nil _
  acknowledgments := h.acknowledgments

theorem IsSettled.answerNext (h : d.IsSettled) (rule : ModemRule) :
    (d.answerNext rule).IsSettled := by
  rcases d.answerNext_cases rule with ⟨-, heq⟩ | ⟨before, command, after, hentries, -, heq⟩
  · rw [heq]
    exact h
  · rw [heq]
    constructor
    · intro number
      have hanswers := h.answers number
      rw [hentries] at hanswers
      simp only [List.filterMap_append, hanswers]
      -- Only the command that is answered has an answer that it did not have before.
      rcases Nat.lt_trichotomy number before.length with hlt | rfl | hgt
      · simp [List.getElem?_append_left hlt, Item.answers?, Nat.ne_of_gt hlt]
      · simp [Item.answers?, Entry.answers]
      · rw [getElem?_append_cons_of_gt hgt ⟨command, .held⟩ ⟨command, .later rule⟩]
        simp [Item.answers?, Nat.ne_of_lt hgt]
    · have hacknowledgments := h.acknowledgments
      rw [hentries] at hacknowledgments
      simp only [List.forall_mem_append, List.forall_mem_cons] at hacknowledgments ⊢
      exact ⟨hacknowledgments.1, by simpa using hacknowledgments.2.1, hacknowledgments.2.2⟩

theorem IsSettled.step (h : d.IsSettled) (step : ModemStep) : (d.step step).IsSettled := by
  cases step with
  | setRule | clearRule => exact ⟨h.answers, h.acknowledgments⟩
  | process bytes =>
    have hframer : IsSettled { d with
        framer := ((d.framer.push bytes).drain Command.decodeBody).1 } :=
      ⟨h.answers, h.acknowledgments⟩
    exact hframer.arriveAll _
  | answerNext rule => exact h.answerNext rule
  | respond | indicate | queueFrame | queueRaw => exact h.queue _
  | takeOutput => exact h

theorem isSettled_run (h : d.IsSettled) (steps : List ModemStep) : (d.run steps).IsSettled := by
  induction steps generalizing d with
  | nil => exact h
  | cons step steps ih => exact ih (h.step step)

/-! ### Commands that arrive -/

/-- The commands that have arrived, oldest first. -/
def commands (d : Docket) : List Command :=
  d.entries.map (·.command)

theorem arrive_of_isAck {command : Command} (hack : command.isAck = true) :
    d.arrive command = { d with entries := d.entries ++ [⟨command, .acknowledgment⟩] } := by
  simp [arrive, fateNow, hack, Entry.answers]

theorem arrive_of_some {command : Command} {rule : ModemRule} (hack : ¬ command.isAck = true)
    (hrule : d.rules command.request = some rule) :
    d.arrive command = { d with
      entries := d.entries ++ [⟨command, .atOnce rule⟩]
      items := d.items ++ [.answer d.entries.length command rule] } := by
  simp [arrive, fateNow, hack, hrule, Entry.answers]

theorem arrive_of_none {command : Command} (hack : ¬ command.isAck = true)
    (hrule : d.rules command.request = none) :
    d.arrive command = { d with entries := d.entries ++ [⟨command, .held⟩] } := by
  simp [arrive, fateNow, hack, hrule, Entry.answers]

/-- The rules in force are the same for all commands of a piece. -/
theorem entries_arriveAll (commands : List Command) :
    (commands.foldl arrive d).entries
      = d.entries ++ commands.map fun command => ⟨command, d.fateNow command⟩ := by
  induction commands generalizing d with
  | nil => exact (List.append_nil _).symm
  | cons command commands ih =>
    rw [List.foldl_cons, ih]
    exact List.append_assoc ..

theorem framer_arriveAll (commands : List Command) :
    (commands.foldl arrive d).framer = d.framer := by
  induction commands generalizing d with
  | nil => rfl
  | cons command commands ih => exact ih

theorem framer_answerNext (d : Docket) (rule : ModemRule) :
    (d.answerNext rule).framer = d.framer := by
  rcases d.answerNext_cases rule with ⟨-, heq⟩ | ⟨before, command, after, -, -, heq⟩ <;> rw [heq]

theorem commands_answerNext (d : Docket) (rule : ModemRule) :
    (d.answerNext rule).commands = d.commands := by
  rcases d.answerNext_cases rule with ⟨-, heq⟩ | ⟨before, command, after, hentries, -, heq⟩
  · rw [heq]
  · rw [heq]
    simp [commands, hentries]

/-! ### What becomes of a command -/

/-- A command that is held may be answered, and nothing else happens to any. -/
def Entry.Becomes (entry later : Entry) : Prop :=
  later = entry ∨ entry.isHeld = true ∧ ∃ rule, later = ⟨entry.command, .later rule⟩

theorem Entry.Becomes.trans {entry next later : Entry} (h : entry.Becomes next)
    (hnext : next.Becomes later) : entry.Becomes later := by
  rcases h with rfl | ⟨hheld, rule, rfl⟩
  · exact hnext
  · rcases hnext with rfl | ⟨hnotheld, -⟩
    · exact .inr ⟨hheld, rule, rfl⟩
    · simp at hnotheld

theorem becomes_answerNext (rule : ModemRule) {number : Nat} {entry : Entry}
    (h : d.entries[number]? = some entry) :
    ∃ later, (d.answerNext rule).entries[number]? = some later ∧ entry.Becomes later := by
  rcases d.answerNext_cases rule with ⟨-, heq⟩ | ⟨before, command, after, hentries, -, heq⟩
  · rw [heq]
    exact ⟨entry, h, .inl rfl⟩
  · rw [heq]
    rw [hentries] at h
    rcases Nat.lt_trichotomy number before.length with hlt | rfl | hgt
    · rw [List.getElem?_append_left hlt] at h ⊢
      exact ⟨entry, h, .inl rfl⟩
    · obtain rfl : ⟨command, .held⟩ = entry := by simpa using h
      exact ⟨_, by simp, .inr ⟨rfl, rule, rfl⟩⟩
    · rw [getElem?_append_cons_of_gt hgt _ ⟨command, .later rule⟩] at h
      exact ⟨entry, h, .inl rfl⟩

theorem becomes_step (step : ModemStep) {number : Nat} {entry : Entry}
    (h : d.entries[number]? = some entry) :
    ∃ later, (d.step step).entries[number]? = some later ∧ entry.Becomes later := by
  cases step with
  | process bytes =>
    refine ⟨entry, ?_, .inl rfl⟩
    rw [Docket.step, entries_arriveAll]
    obtain ⟨hlt, -⟩ := List.getElem?_eq_some_iff.1 h
    exact (List.getElem?_append_left hlt).trans h
  | answerNext rule => exact becomes_answerNext rule h
  | _ => exact ⟨entry, h, .inl rfl⟩

theorem becomes_run (steps : List ModemStep) {number : Nat} {entry : Entry}
    (h : d.entries[number]? = some entry) :
    ∃ later, (d.run steps).entries[number]? = some later ∧ entry.Becomes later := by
  induction steps generalizing d entry with
  | nil => exact ⟨entry, h, .inl rfl⟩
  | cons step steps ih =>
    obtain ⟨next, hnext, hbecomes⟩ := becomes_step step h
    obtain ⟨later, hlater, hthen⟩ := ih hnext
    exact ⟨later, hlater, hbecomes.trans hthen⟩

/-! ### Reading -/

/-- What has arrived are the commands that the bodies say which were cut off the stream so far. Only
behind a body that says nothing may complete ones be left. -/
structure Reads (d : Docket) (stream : Bytes) (bodies : List Bytes) : Prop where
  limit : d.framer.limit = defaultMaxFrameLen
  parse : ∀ more, parseWhole defaultMaxFrameLen.toNat (stream ++ more)
    = (parseWhole defaultMaxFrameLen.toNat (d.framer.buffer ++ more)).prepend bodies
  commands : d.commands = bodies.filterMap Command.ofBody?
  left : (parseWhole defaultMaxFrameLen.toNat d.framer.buffer).bodies = []
    ∨ ∃ body ∈ bodies.getLast?, Command.ofBody? body = none

variable {stream : Bytes} {bodies : List Bytes}

theorem commands_arriveAll (commands : List Command) :
    (commands.foldl arrive d).commands = d.commands ++ commands := by
  rw [Docket.commands, entries_arriveAll]
  simp [Docket.commands, Function.comp_def]

theorem Reads.process (h : d.Reads stream bodies) (bytes : Bytes) :
    ∃ bodies, (d.step (.process bytes)).Reads (stream ++ bytes) bodies := by
  obtain ⟨cut, hlimit, hparse, hcommands, hleft⟩ := (d.framer.push bytes).drain_parseWhole
  have hsame : (d.framer.push bytes).limit = defaultMaxFrameLen := h.limit
  rw [hsame] at hlimit hparse hleft
  refine ⟨bodies ++ cut, ?_, fun more => ?_, ?_, ?_⟩
  · rw [Docket.step, framer_arriveAll]
    exact hlimit
  · rw [Docket.step, framer_arriveAll, List.append_assoc, h.parse, ← List.append_assoc]
    rw [show d.framer.buffer ++ bytes = (d.framer.push bytes).buffer from rfl, hparse,
      Parse.prepend_prepend]
  · rw [Docket.step, commands_arriveAll, List.filterMap_append, ← h.commands, ← hcommands]
    rfl
  · rw [Docket.step, framer_arriveAll]
    refine hleft.imp id fun ⟨body, hlast, hnothing⟩ => ⟨body, ?_, hnothing⟩
    rw [List.getLast?_append, Option.mem_def.1 hlast]
    rfl

theorem Reads.keep (h : d.Reads stream bodies) {next : Docket} (hframer : next.framer = d.framer)
    (hcommands : next.commands = d.commands) : ∃ bodies, next.Reads (stream ++ []) bodies := by
  rw [List.append_nil]
  refine ⟨bodies, ?_, ?_, hcommands.trans h.commands, ?_⟩ <;> rw [hframer]
  exacts [h.limit, h.parse, h.left]

theorem Reads.step (h : d.Reads stream bodies) (step : ModemStep) :
    ∃ bodies, (d.step step).Reads (stream ++ step.fed) bodies := by
  cases step with
  | process bytes => exact h.process bytes
  | answerNext rule => exact h.keep (d.framer_answerNext rule) (d.commands_answerNext rule)
  | _ => exact h.keep rfl rfl

theorem Reads.run (h : d.Reads stream bodies) (steps : List ModemStep) :
    ∃ bodies, (d.run steps).Reads (stream ++ steps.flatMap ModemStep.fed) bodies := by
  induction steps generalizing d stream bodies with
  | nil =>
    rw [List.flatMap_nil, List.append_nil]
    exact ⟨bodies, h⟩
  | cons step steps ih =>
    obtain ⟨next, hnext⟩ := h.step step
    rw [List.flatMap_cons, ← List.append_assoc]
    exact ih hnext

end Docket

/-! ## The lists of a modem -/

/-- The lists of the modem are those that its docket says; `taken` is what was taken away. -/
structure Modem.Follows (m : Modem) (d : Docket) (taken : List Bytes) : Prop where
  framer : m.framer = d.framer
  rules : ∀ request, m.rules.lookup request = d.rules request
  received : m.received = d.commands.filter fun command => !command.isAck
  acks : m.acks = (d.commands.filter Command.isAck).map (·.token)
  unanswered : m.unanswered = (d.entries.filter (·.isHeld)).map (·.command)
  output : taken ++ m.output = d.items.flatMap Docket.Item.pieces

namespace Modem

open Docket

variable {m : Modem} {d : Docket} {taken : List Bytes}

theorem lookup_filter_ne {rules : List (RequestId × ModemRule)} (request other : RequestId) :
    (rules.filter fun entry => !(entry.1 == request)).lookup other
      = if other = request then none else rules.lookup other := by
  induction rules with
  | nil => simp
  | cons entry rules ih =>
    obtain ⟨first, rule⟩ := entry
    by_cases hfirst : first = request
    · rw [List.filter_cons_of_neg (by simpa using hfirst), ih, hfirst, List.lookup_cons]
      split
      · rfl
      · next hother => rw [beq_false_of_ne hother]
    · rw [List.filter_cons_of_pos (by simpa using hfirst), List.lookup_cons, List.lookup_cons, ih]
      by_cases hother : other = first
      · simp [hother, hfirst]
      · rw [beq_false_of_ne hother]

theorem frames_eq_answer (rule : ModemRule) (command : Command) :
    rule.frames command = Docket.answer command rule := by
  obtain ⟨status, payload, style⟩ := rule
  cases style <;> rfl

theorem Follows.setRule (h : m.Follows d taken) (request : RequestId) (rule : ModemRule) :
    (m.setRule request rule).Follows (d.step (.setRule request rule)) taken := by
  refine { h with rules := fun other => ?_ }
  by_cases hother : other = request
  · simp [Modem.setRule, Docket.step, hother]
  · rw [Modem.setRule, List.lookup_cons, beq_false_of_ne hother]
    simp [Docket.step, lookup_filter_ne, hother, h.rules]

theorem Follows.clearRule (h : m.Follows d taken) (request : RequestId) :
    (m.clearRule request).Follows (d.step (.clearRule request)) taken := by
  refine { h with rules := fun other => ?_ }
  by_cases hother : other = request
  · simp [Modem.clearRule, Docket.step, lookup_filter_ne, hother]
  · simp [Modem.clearRule, Docket.step, lookup_filter_ne, hother, h.rules]

theorem Follows.queueRaw (h : m.Follows d taken) (bytes : Bytes) :
    (m.queueRaw bytes).Follows (d.queue bytes) taken := by
  refine { h with output := ?_ }
  rw [Modem.queueRaw, Docket.queue]
  simp [← List.append_assoc, h.output, Item.pieces]

theorem Follows.handle (h : m.Follows d taken) (command : Command) :
    (m.handle command).1.Follows (d.arrive command) taken := by
  by_cases hack : command.isAck = true
  · rw [Modem.handle, if_pos hack, arrive_of_isAck hack]
    exact {
      h with
      received := by simp [commands, h.received, hack]
      acks := by simp [commands, h.acks, hack]
      unanswered := by simp [h.unanswered] }
  · rw [Modem.handle, if_neg hack]
    cases hrule : d.rules command.request with
    | some rule =>
      rw [arrive_of_some hack hrule]
      simp only [h.rules, hrule]
      exact {
        framer := h.framer
        rules := h.rules
        received := by simp [Modem.answer, commands, h.received, hack]
        acks := by simp [Modem.answer, commands, h.acks, hack]
        unanswered := by simp [Modem.answer, h.unanswered]
        output := by
          simp [Modem.answer, ← List.append_assoc, h.output, Item.pieces, frames_eq_answer] }
    | none =>
      rw [arrive_of_none hack hrule]
      simp only [h.rules, hrule]
      exact {
        h with
        received := by simp [commands, h.received, hack]
        acks := by simp [commands, h.acks, hack]
        unanswered := by simp [h.unanswered] }

theorem Follows.handled (h : m.Follows d taken) (command : Command) :
    (m.handle command).2 = d.handledNow command := by
  rw [Modem.handle, handledNow]
  split
  · rfl
  · simp only [h.rules]
    cases d.rules command.request <;> rfl

theorem Follows.handleAll (h : m.Follows d taken) (commands : List Command) :
    (m.handleAll commands).1.Follows (commands.foldl arrive d) taken
      ∧ (m.handleAll commands).2 = commands.map d.handledNow := by
  induction commands generalizing m d with
  | nil => exact ⟨h, rfl⟩
  | cons command commands ih =>
    obtain ⟨hfollows, hhandled⟩ := ih (h.handle command)
    refine ⟨hfollows, ?_⟩
    rw [Modem.handleAll, List.map_cons, ← h.handled command]
    exact congrArg _ hhandled

/-- The commands that are complete once the bytes are there. -/
theorem Follows.process (h : m.Follows d taken) (bytes : Bytes) :
    (m.process bytes).1.Follows (d.step (.process bytes)) taken
      ∧ ∃ commands : List Command, (d.step (.process bytes)).entries
            = d.entries ++ commands.map (fun command => ⟨command, d.fateNow command⟩)
          ∧ (m.process bytes).2.1 = commands.map d.handledNow := by
  have hframer : ({ m with framer := ((d.framer.push bytes).drain Command.decodeBody).1 }
      : Modem).Follows { d with framer := ((d.framer.push bytes).drain Command.decodeBody).1 }
        taken :=
    { h with framer := rfl }
  obtain ⟨hfollows, hhandled⟩ :=
    hframer.handleAll ((d.framer.push bytes).drain Command.decodeBody).2.1
  rw [Modem.process, h.framer]
  exact ⟨hfollows, _, entries_arriveAll _, hhandled⟩

theorem Follows.answerNext (h : m.Follows d taken) (rule : ModemRule) :
    (m.answerNext rule).1.Follows (d.answerNext rule) taken := by
  have hcommands := d.commands_answerNext rule
  rcases d.answerNext_cases rule with ⟨hnone, heq⟩ |
    ⟨before, command, after, hentries, hbefore, heq⟩
  · have hunanswered : m.unanswered = [] := by
      rw [h.unanswered, List.filter_eq_nil_iff.2 hnone]
      rfl
    rw [heq, Modem.answerNext, hunanswered]
    exact h
  · have hfilter : before.filter (·.isHeld) = [] := List.filter_eq_nil_iff.2 hbefore
    have hunanswered : m.unanswered = command :: (after.filter (·.isHeld)).map (·.command) := by
      rw [h.unanswered, hentries]
      simp [hfilter]
    rw [heq] at hcommands ⊢
    rw [Modem.answerNext, hunanswered]
    exact {
      framer := h.framer
      rules := h.rules
      received := by rw [hcommands]; exact h.received
      acks := by rw [hcommands]; exact h.acks
      unanswered := by simp [Modem.answer, hfilter]
      output := by
        simp [Modem.answer, ← List.append_assoc, h.output, Item.pieces, frames_eq_answer] }

/-- Either nothing is held, or what is answered is the oldest command that is held. -/
theorem Follows.answered (h : m.Follows d taken) (rule : ModemRule) :
    ((∀ entry ∈ d.entries, ¬ entry.isHeld = true) ∧ (m.answerNext rule).2 = none
        ∧ d.answerNext rule = d)
      ∨ ∃ before command after, d.entries = before ++ ⟨command, .held⟩ :: after
        ∧ (∀ entry ∈ before, ¬ entry.isHeld = true) ∧ (m.answerNext rule).2 = some command
        ∧ (d.answerNext rule).entries = before ++ ⟨command, .later rule⟩ :: after := by
  have hunanswered := h.unanswered
  rcases d.answerNext_cases rule with ⟨hnone, heq⟩ |
    ⟨before, command, after, hentries, hbefore, heq⟩
  · refine .inl ⟨hnone, ?_, heq⟩
    rw [List.filter_eq_nil_iff.2 hnone] at hunanswered
    rw [Modem.answerNext, hunanswered]
    rfl
  · refine .inr ⟨before, command, after, hentries, hbefore, ?_, by rw [heq]⟩
    rw [hentries, List.filter_append, List.filter_eq_nil_iff.2 hbefore] at hunanswered
    rw [Modem.answerNext, hunanswered]
    rfl

theorem Follows.takeOutput (h : m.Follows d taken) :
    m.takeOutput.1.Follows d (taken ++ m.takeOutput.2.toList) := by
  have houtput := h.output
  rw [Modem.takeOutput]
  cases hpieces : m.output with
  | nil =>
    rw [Option.toList_none, List.append_nil]
    exact h
  | cons piece pieces =>
    rw [hpieces] at houtput
    exact { h with output := by simpa using houtput }

theorem Follows.step (h : m.Follows d taken) (step : ModemStep) :
    (m.step step).Follows (d.step step) (taken ++ m.takes step) := by
  cases step with
  | takeOutput => exact h.takeOutput
  | setRule request rule => simpa [takes] using! h.setRule request rule
  | clearRule request => simpa [takes] using! h.clearRule request
  | process bytes => simpa [takes] using! (h.process bytes).1
  | answerNext rule => simpa [takes] using! h.answerNext rule
  | respond | indicate | queueFrame | queueRaw => simpa [takes] using! h.queueRaw _

theorem Follows.run (h : m.Follows d taken) (steps : List ModemStep) :
    (m.run steps).Follows (d.run steps) (taken ++ m.taken steps) := by
  induction steps generalizing m d taken with
  | nil => simpa [Modem.taken] using! h
  | cons step steps ih =>
    rw [Modem.taken, ← List.append_assoc]
    exact ih (h.step step)

/-- On a new modem the docket is empty. -/
theorem follows_new (name : String) : ({ id := name } : Modem).Follows {} [] where
  framer := rfl
  rules _ := rfl
  received := rfl
  acks := rfl
  unanswered := rfl
  output := rfl

/-- **What a modem keeps and says is what its docket says.** Whatever is done with a new modem, in
whatever order:

The commands on the docket are those in the bytes that it was given, in their order. Of these, what
counts as received are those that are no acknowledgments, and the tokens of the acknowledgments are
kept apart. A command that arrives is answered at once if there is a rule for its request then, and
held otherwise. What becomes of it later is that it is answered if it is held, and nothing else;
`answerNext` answers the oldest one. What is held is kept in the order of arrival. Each command has
exactly the answer that its fate names, if that names one, and whatever was queued was taken away
or is still to come, in the order of queueing. -/
theorem keeps_docket (name : String) (steps : List ModemStep) :
    let m := ({ id := name } : Modem).run steps
    let d := ({} : Docket).run steps
    -- The commands that have arrived, and what may be left of the bytes.
    (∃ bodies,
      parseWhole defaultMaxFrameLen.toNat (steps.flatMap ModemStep.fed)
          = (parseWhole defaultMaxFrameLen.toNat m.framer.buffer).prepend bodies
        ∧ d.commands = bodies.filterMap Command.ofBody?
        ∧ ((parseWhole defaultMaxFrameLen.toNat m.framer.buffer).bodies = []
          ∨ ∃ body ∈ bodies.getLast?, Command.ofBody? body = none))
    ∧ m.received = d.commands.filter (fun command => !command.isAck)
    ∧ m.acks = (d.commands.filter Command.isAck).map (·.token)
    ∧ (∀ request, m.rules.lookup request = d.rules request)
    -- What becomes of a command when it arrives, and later.
    ∧ (∀ bytes, ∃ commands : List Command,
        (d.step (.process bytes)).entries
            = d.entries ++ commands.map (fun command => ⟨command, d.fateNow command⟩)
          ∧ (m.process bytes).2.1 = commands.map d.handledNow)
    ∧ (∀ (more : List ModemStep) (number : Nat) (entry : Entry),
        d.entries[number]? = some entry →
          ∃ later, (d.run more).entries[number]? = some later ∧ entry.Becomes later)
    ∧ (∀ rule, ((∀ entry ∈ d.entries, ¬ entry.isHeld = true) ∧ (m.answerNext rule).2 = none
          ∧ d.answerNext rule = d)
        ∨ ∃ before command after, d.entries = before ++ ⟨command, .held⟩ :: after
          ∧ (∀ entry ∈ before, ¬ entry.isHeld = true) ∧ (m.answerNext rule).2 = some command
          ∧ (d.answerNext rule).entries = before ++ ⟨command, .later rule⟩ :: after)
    ∧ m.unanswered = (d.entries.filter (·.isHeld)).map (·.command)
    -- What was queued.
    ∧ d.IsSettled
    ∧ ({ id := name } : Modem).taken steps ++ m.output = d.items.flatMap Docket.Item.pieces := by
  intro m d
  have hfollows : m.Follows d (({ id := name } : Modem).taken steps) := (follows_new name).run steps
  have hreads : ({} : Docket).Reads [] [] :=
    ⟨rfl, fun _ => rfl, rfl, .inl (by simp [parseWhole])⟩
  obtain ⟨bodies, hbodies⟩ := hreads.run steps
  have hparse := hbodies.parse []
  rw [List.append_nil, List.append_nil, List.nil_append] at hparse
  have hsettled : d.IsSettled := isSettled_run ⟨fun _ => rfl, by simp⟩ steps
  rw [hfollows.framer]
  exact ⟨⟨bodies, hparse, hbodies.commands, hbodies.left⟩, hfollows.received, hfollows.acks,
    hfollows.rules, fun bytes => (hfollows.process bytes).2,
    fun more _ _ hentry => becomes_run more hentry, hfollows.answered, hfollows.unanswered, hsettled,
    hfollows.output⟩

/-- One command is answered as it arrives and one later, and an acknowledgment never. The receipt
and the answer to the first one are taken away before the second one is answered. -/
example :
    let early := (ModemRule.ok [1]).earlyAck
    let failure := ModemRule.fail .genericFailure
    let steps : List ModemStep := [.setRule ⟨4⟩ early,
      .process ((Command.mk ⟨9⟩ ⟨1⟩ []).encode ++ (Command.mk ⟨4⟩ ⟨2⟩ []).encode), .takeOutput,
      .takeOutput, .answerNext failure, .process (Command.ack ⟨7⟩).encode]
    let m := ({ id := "modem" } : Modem).run steps
    (({} : Docket).run steps).entries.map (·.fate)
      = [.later failure, .atOnce early, .acknowledgment] ∧
    m.received = [⟨⟨9⟩, ⟨1⟩, []⟩, ⟨⟨4⟩, ⟨2⟩, []⟩] ∧ m.acks = [⟨7⟩] ∧ m.unanswered = [] ∧
    ({ id := "modem" } : Modem).taken steps
      = [(Frame.mk .solicitedAck ⟨2⟩ 4 .success []).encode,
        (Frame.mk .solicited ⟨2⟩ 4 .success [1]).encode] ∧
    m.output = [(Frame.mk .solicited ⟨1⟩ 9 .genericFailure []).encode] := by
  refine ⟨?_, ?_, ?_, ?_, ?_, ?_⟩ <;> cbv

end Modem

end RadioLink
