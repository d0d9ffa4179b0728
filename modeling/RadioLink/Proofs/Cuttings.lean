import Mathlib
import RadioLink.Modem.Task
import RadioLink.Proofs.Framing

set_option autoImplicit false

/-! # A modem and the pieces of its stream

A modem at work reads its stream in pieces, and how the stream is cut is not up to it. What the
stream asks is: `Script.of` reads it as a whole, up to the first place where it cannot be read. A
modem that has read some pieces stands where the script of these pieces says (`Modem.past`), has
written or is still to write the answers to its commands, and has reported or is still to report
them.

So where the stream can be read to its end, the cuts make no difference. Where it cannot, the modem
ends with the same error whatever the cuts, but the piece in which the error lies is lost as a
whole: the commands that it completed before the error were handled, and neither are their answers
written nor are they reported. -/

namespace RadioLink

/-! ## What a stream asks -/

/-- What a stream asks of a modem. -/
structure Script where
  /-- The commands before the first place where the stream cannot be read. -/
  commands : List Command
  /-- What is wrong there, if there is such a place. -/
  fault : Option ParseError

namespace Script

/-- The same script with commands in front of it. -/
def prepend (commands : List Command) (s : Script) : Script :=
  { s with commands := commands ++ s.commands }

/-- What bodies ask, when the stream ends in this way behind the last of them. -/
def ofBodies (ending : Option ParseError) : List Bytes → Script
  | [] => ⟨[], ending⟩
  | body :: bodies =>
    match Command.decodeBody body with
    | .error cause => ⟨[], some cause⟩
    | .ok command => (ofBodies ending bodies).prepend [command]

/-- What a whole stream asks. -/
def of (limit : UInt32) (stream : Bytes) : Script :=
  let p := parseWhole limit.toNat stream
  ofBodies (Framer.ending limit p) p.bodies

@[simp] theorem commands_prepend (commands : List Command) (s : Script) :
    (s.prepend commands).commands = commands ++ s.commands := rfl

@[simp] theorem fault_prepend (commands : List Command) (s : Script) :
    (s.prepend commands).fault = s.fault := rfl

@[simp] theorem prepend_prepend (front commands : List Command) (s : Script) :
    (s.prepend commands).prepend front = s.prepend (front ++ commands) := by
  simp [prepend, List.append_assoc]

/-- What the front of a stream is decides how its script begins. -/
theorem of_eq (limit : UInt32) (stream : Bytes) :
    of limit stream =
      match Front.of limit stream with
      | .incomplete => ⟨[], none⟩
      | .oversize length => ⟨[], some (.frameTooLarge length limit)⟩
      | .complete body rest =>
        match Command.decodeBody body with
        | .error cause => ⟨[], some cause⟩
        | .ok command => (of limit rest).prepend [command] := by
  rw [of, Front.parseWhole_eq]
  cases Front.of limit stream with
  | incomplete => rfl
  | oversize length => simp [ofBodies, Framer.ending]
  | complete body rest => rfl

/-- Behind the place where a stream cannot be read nothing counts. -/
theorem of_append_of_fault {limit : UInt32} {stream : Bytes} {cause : ParseError}
    (h : (of limit stream).fault = some cause) (more : Bytes) :
    of limit (stream ++ more) = of limit stream := by
  rw [of_eq limit stream] at h ⊢
  rw [of_eq limit (stream ++ more)]
  cases hfront : Front.of limit stream with
  | incomplete =>
    rw [hfront] at h
    cases h
  | oversize length => rw [Front.of_append_of_oversize hfront]
  | complete body rest =>
    have hlength := Framer.length_rest_lt hfront
    rw [hfront] at h
    rw [Front.of_append_of_complete hfront]
    cases hdecode : Command.decodeBody body with
    | error cause => simp only [hdecode]
    | ok command =>
      simp only [hdecode, fault_prepend] at h ⊢
      rw [of_append_of_fault h]
termination_by stream.length

/-- A stream that can be read so far goes on with the bytes that are not read yet. -/
theorem of_append {limit : UInt32} {stream : Bytes} (h : (of limit stream).fault = none)
    (more : Bytes) :
    of limit (stream ++ more)
      = (of limit ((parseWhole limit.toNat stream).rest ++ more)).prepend
          (of limit stream).commands := by
  rw [of_eq limit stream] at h ⊢
  rw [Front.parseWhole_eq limit stream]
  cases hfront : Front.of limit stream with
  | incomplete => rfl
  | oversize length =>
    rw [hfront] at h
    cases h
  | complete body rest =>
    have hlength := Framer.length_rest_lt hfront
    rw [hfront] at h
    rw [of_eq limit (stream ++ more), Front.of_append_of_complete hfront]
    cases hdecode : Command.decodeBody body with
    | error cause =>
      simp only [hdecode] at h
      cases h
    | ok command =>
      simp only [hdecode, fault_prepend] at h ⊢
      rw [of_append h, prepend_prepend]
      rfl
termination_by stream.length

end Script

/-- What is left of a longer stream is what is left once the bytes that were left are followed by
more. -/
theorem rest_parseWhole_append (limit : UInt32) (stream more : Bytes) :
    (parseWhole limit.toNat (stream ++ more)).rest
      = (parseWhole limit.toNat ((parseWhole limit.toNat stream).rest ++ more)).rest := by
  rw [Front.parseWhole_eq limit stream]
  cases hfront : Front.of limit stream with
  | incomplete => rfl
  | oversize length => rfl
  | complete body rest =>
    have hlength := Framer.length_rest_lt hfront
    rw [Front.parseWhole_eq limit (stream ++ more), Front.of_append_of_complete hfront]
    exact rest_parseWhole_append limit rest more
termination_by stream.length

/-- What a framer takes away at once is what its bytes ask. -/
theorem Framer.drain_eq_script (f : Framer) :
    (f.drain Command.decodeBody).2 = ((Script.of f.limit f.buffer).commands,
        (Script.of f.limit f.buffer).fault)
      ∧ ((Script.of f.limit f.buffer).fault = none → (f.drain Command.decodeBody).1
          = { f with buffer := (parseWhole f.limit.toNat f.buffer).rest }) := by
  fun_induction Framer.drain Command.decodeBody f with
  | case1 f hfront =>
    rw [Script.of_eq, Front.parseWhole_eq, hfront]
    exact ⟨rfl, fun _ => rfl⟩
  | case2 f length hfront =>
    rw [Script.of_eq, hfront]
    exact ⟨rfl, fun h => by cases h⟩
  | case3 f body rest hfront cause hdecode =>
    rw [Script.of_eq, hfront]
    simp only [hdecode]
    exact ⟨trivial, fun h => by cases h⟩
  | case4 f body rest hfront command hdecode next commands ending hnext ih =>
    rw [hnext] at ih
    obtain ⟨hasked, hleft⟩ := ih
    obtain ⟨hcommands, hending⟩ := Prod.mk.inj hasked
    rw [Script.of_eq, Front.parseWhole_eq, hfront]
    simp only [hdecode, Script.fault_prepend, Script.commands_prepend]
    exact ⟨by rw [hcommands, hending]; rfl, hleft⟩

/-! ## What a modem does about it -/

namespace Modem

variable (m : Modem)

/-- The frames that answer a command as it arrives. -/
def repliesTo (command : Command) : List Frame :=
  if command.isAck then []
  else match m.rules.lookup command.request with
    | some rule => rule.frames command
    | none => []

/-- The report of a command as it arrives. -/
def account (command : Command) : Activity :=
  if command.isAck then .ack command.token
  else .command command.request command.token (m.rules.lookup command.request).isSome

/-- Whether a command is held as it arrives. -/
def holds (command : Command) : Bool :=
  !command.isAck && (m.rules.lookup command.request).isNone

/-- What is written about commands. -/
def saying (commands : List Command) : Bytes :=
  commands.flatMap fun command => (m.repliesTo command).flatMap Frame.encode

/-- The modem once it has handled commands. -/
def handling (commands : List Command) : Modem :=
  { m with
    received := m.received ++ commands.filter fun command => !command.isAck
    acks := m.acks ++ (commands.filter Command.isAck).map (·.token)
    unanswered := m.unanswered ++ commands.filter m.holds
    output := m.output ++ commands.flatMap fun command => (m.repliesTo command).map Frame.encode }

/-- What a stream asks of the modem. -/
def script (stream : Bytes) : Script :=
  Script.of m.framer.limit stream

/-- The modem after a stream that can be read, once it has said everything. -/
def past (stream : Bytes) : Modem :=
  { m.handling (m.script stream).commands with
    framer := { m.framer with buffer := (parseWhole m.framer.limit.toNat stream).rest }
    output := [] }

theorem saying_append (commands more : List Command) :
    m.saying (commands ++ more) = m.saying commands ++ m.saying more :=
  List.flatMap_append

theorem handling_nil : m.handling [] = m := by
  simp [handling]

theorem handling_append (commands more : List Command) :
    m.handling (commands ++ more) = (m.handling commands).handling more := by
  simp only [handling, List.filter_append, List.map_append, List.flatMap_append,
    List.append_assoc]
  rfl

/-- What is said about commands is queued behind what is still to be written. -/
theorem flatten_output_handling (commands : List Command) :
    (m.handling commands).output.flatten = m.output.flatten ++ m.saying commands := by
  rw [handling, saying, List.flatten_append, List.flatMap_def, List.flatten_flatten, List.map_map]
  rfl

theorem handle_eq (command : Command) :
    (m.handle command).1 = m.handling [command]
      ∧ (m.handle command).2.activity = m.account command := by
  rw [handle, account, handling]
  by_cases hack : command.isAck = true
  · simp [hack, holds, repliesTo, Handled.activity]
  · cases hrule : m.rules.lookup command.request <;>
      simp [hack, hrule, holds, repliesTo, answer, Handled.activity]

/-- Commands are handled one after the other, by the rules that there are. -/
theorem handleAll_eq (commands : List Command) :
    (m.handleAll commands).1 = m.handling commands
      ∧ (m.handleAll commands).2.map Handled.activity = commands.map m.account := by
  induction commands generalizing m with
  | nil => exact ⟨m.handling_nil.symm, rfl⟩
  | cons command commands ih =>
    obtain ⟨hmodem, hactivity⟩ := m.handle_eq command
    obtain ⟨hmodems, hactivities⟩ := ih (m.handle command).1
    have hcons : m.handleAll (command :: commands)
        = (((m.handle command).1.handleAll commands).1,
          (m.handle command).2 :: ((m.handle command).1.handleAll commands).2) := rfl
    rw [hcons, List.map_cons, hmodems, hactivities, hactivity, hmodem, ← handling_append]
    -- The rules decide about the commands that follow, and they stay as they are.
    exact ⟨rfl, rfl⟩

/-- What is kept and the bytes that come are read as one stream. -/
theorem process_eq (bytes : Bytes) :
    let asked := m.script (m.framer.buffer ++ bytes)
    (m.process bytes).1 = { m.handling asked.commands with
        framer := ((m.framer.push bytes).drain Command.decodeBody).1 }
      ∧ (m.process bytes).2.1.map Handled.activity = asked.commands.map m.account
      ∧ (m.process bytes).2.2 = asked.fault := by
  intro asked
  have hdrain : ((m.framer.push bytes).drain Command.decodeBody).2
      = (asked.commands, asked.fault) := (m.framer.push bytes).drain_eq_script.1
  obtain ⟨hcommands, hfault⟩ := Prod.mk.inj hdrain
  obtain ⟨hmodem, hactivities⟩ := Modem.handleAll_eq
    { m with framer := ((m.framer.push bytes).drain Command.decodeBody).1 } asked.commands
  rw [← hcommands] at hmodem hactivities ⊢
  exact ⟨hmodem, hactivities, hfault⟩

/-- The bytes that a stream goes on with are read behind what was left of it. -/
theorem script_append {read : Bytes} (h : (m.script read).fault = none) (piece : Bytes) :
    m.script (read ++ piece)
      = (m.script ((m.past read).framer.buffer ++ piece)).prepend (m.script read).commands :=
  Script.of_append h piece

theorem script_append_of_fault {read : Bytes} {cause : ParseError}
    (h : (m.script read).fault = some cause) (more : Bytes) :
    m.script (read ++ more) = m.script read :=
  Script.of_append_of_fault h more

theorem past_append {read : Bytes} (h : (m.script read).fault = none) (piece : Bytes) :
    m.past (read ++ piece)
      = { (m.past read).handling (m.script ((m.past read).framer.buffer ++ piece)).commands with
          framer := { m.framer with
            buffer :=
              (parseWhole m.framer.limit.toNat ((m.past read).framer.buffer ++ piece)).rest }
          output := [] } := by
  rw [past, m.script_append h, Script.commands_prepend, handling_append, rest_parseWhole_append]
  rfl

/-- The modem after some bytes takes in more of them. -/
theorem process_past {read : Bytes} (h : (m.script read).fault = none) (piece : Bytes) :
    ∃ more, (m.script (read ++ piece)).commands = (m.script read).commands ++ more
      ∧ ((m.past read).process piece).2.2 = (m.script (read ++ piece)).fault
      ∧ ((m.past read).process piece).2.1.map Handled.activity = more.map m.account
      ∧ ((m.past read).process piece).1.output.flatten = m.saying more
      ∧ ((m.script (read ++ piece)).fault = none →
          { ((m.past read).process piece).1 with output := [] } = m.past (read ++ piece)) := by
  have hscript := m.script_append h piece
  obtain ⟨hmodem, hactivities, hfault⟩ := (m.past read).process_eq piece
  refine ⟨(m.script ((m.past read).framer.buffer ++ piece)).commands, ?_, ?_, hactivities, ?_,
    fun hreadable => ?_⟩
  · rw [hscript, Script.commands_prepend]
  · rw [hscript, Script.fault_prepend]
    exact hfault
  · rw [hmodem]
    exact (m.past read).flatten_output_handling _
  · rw [hscript, Script.fault_prepend] at hreadable
    have hframer := ((m.past read).framer.push piece).drain_eq_script.2 hreadable
    rw [hmodem, hframer, m.past_append h]
    rfl

/-- What a stream asks so far is the beginning of what it asks. -/
theorem script_prefix {read : Bytes} (h : (m.script read).fault = none) (more : Bytes) :
    (m.script read).commands <+: (m.script (read ++ more)).commands := by
  rw [m.script_append h]
  exact List.prefix_append _ _

theorem saying_prefix {commands more : List Command} (h : commands <+: more) :
    m.saying commands <+: m.saying more := by
  obtain ⟨others, rfl⟩ := h
  rw [saying_append]
  exact List.prefix_append _ _

/-- A modem that has read nothing of a stream yet and has nothing to say. -/
theorem past_nil (hbuffer : m.framer.buffer = []) (houtput : m.output = []) : m.past [] = m := by
  obtain ⟨id, ⟨limit, buffer⟩, rules, received, acks, unanswered, output⟩ := m
  obtain rfl : buffer = [] := hbuffer
  obtain rfl : output = [] := houtput
  have hparse : parseWhole limit.toNat [] = ⟨[], none, []⟩ := by simp [parseWhole]
  rw [past, script, Script.of, hparse]
  exact congrArg (fun m : Modem => { m with output := [] }) (handling_nil _)

end Modem

/-! ## Work on a stream -/

/-- A modem at work on a stream that comes in pieces. -/
structure StreamWork where
  task : ModemTask
  /-- The pieces that were not read yet. -/
  pieces : List Bytes
  /-- What was written, in order. -/
  written : Bytes := []

/-- What can happen while a modem works. -/
inductive StreamStep
  /-- The modem reads the next piece, or sees the end of the stream behind the last one. -/
  | read
  /-- The stream accepts up to so many bytes. -/
  | write (count : Nat)

namespace StreamWork

/-- A modem that starts to work. -/
def start (m : Modem) (pieces : List Bytes) : StreamWork where
  task := { modem := m }
  pieces := pieces

/-- A modem goes on to read when everything is written. -/
def step (w : StreamWork) (action : StreamStep) : StreamWork :=
  if !w.task.isRunning then w
  else match action with
    | .read =>
      if w.task.outgoing.isEmpty then
        { w with task := w.task.read (w.pieces.headD []), pieces := w.pieces.tail }
      else w
    | .write count =>
      let (task, bytes) := w.task.write count
      { w with task, written := w.written ++ bytes }

def run (w : StreamWork) (steps : List StreamStep) : StreamWork :=
  steps.foldl step w

/-- Everything that these pieces ask was done, written and reported, and no more. -/
structure HasDone (m : Modem) (read : List Bytes) (w : StreamWork) : Prop where
  readable : (m.script read.flatten).fault = none
  written : w.written = m.saying (m.script read.flatten).commands
  reported : w.task.reported = (m.script read.flatten).commands.map m.account

/-- The modem has read these pieces and is at work. -/
structure IsPast (m : Modem) (read : List Bytes) (w : StreamWork) : Prop where
  running : w.task.ending = none
  modem : w.task.modem = m.past read.flatten
  readable : (m.script read.flatten).fault = none
  written : w.written ++ w.task.outgoing = m.saying (m.script read.flatten).commands
  reported : w.task.reported ++ w.task.unreported
    = (m.script read.flatten).commands.map m.account
  settled : w.task.outgoing = [] → w.task.unreported = []

/-- How the work on some pieces can stand. -/
inductive Stands (m : Modem) (pieces : List Bytes) (w : StreamWork) : Prop
  | working (read : List Bytes) (hpieces : pieces = read ++ w.pieces) (h : w.IsPast m read)
  | finished (hending : w.task.ending = some .finished)
    (hmodem : w.task.modem = m.past pieces.flatten) (h : w.HasDone m pieces)
  /-- The stream cannot be read any further somewhere in the piece behind those that were done. -/
  | failed (read : List Bytes) (piece : Bytes) (unread : List Bytes) (cause : ParseError)
    (hpieces : pieces = read ++ piece :: unread)
    (hasked : m.script (read ++ [piece]).flatten = m.script pieces.flatten)
    (hfault : (m.script pieces.flatten).fault = some cause)
    (hending : w.task.ending = some (.failed (.parse cause))) (h : w.HasDone m read)

variable {m : Modem} {w : StreamWork} {done pieces : List Bytes}

theorem step_of_ended {ending : Ending} (h : w.task.ending = some ending) (action : StreamStep) :
    w.step action = w :=
  if_pos (by rw [ModemTask.isRunning, h]; rfl)

theorem step_write (h : w.task.ending = none) (count : Nat) :
    w.step (.write count) = { w with
      task := (w.task.write count).1, written := w.written ++ (w.task.write count).2 } := by
  rw [step, ModemTask.isRunning, h]
  rfl

theorem step_read (h : w.task.ending = none) (hidle : w.task.outgoing = []) :
    w.step .read = { w with
      task := w.task.read (w.pieces.headD []), pieces := w.pieces.tail } := by
  rw [step, ModemTask.isRunning, h, hidle]
  rfl

theorem step_read_of_busy (hbusy : w.task.outgoing ≠ []) : w.step .read = w := by
  rw [step, if_neg (mt List.isEmpty_iff.1 hbusy)]
  split <;> rfl

/-- When everything is written, everything is done. -/
theorem IsPast.hasDone (h : w.IsPast m done) (hidle : w.task.outgoing = []) :
    w.HasDone m done where
  readable := h.readable
  written := by rw [← h.written, hidle, List.append_nil]
  reported := by rw [← h.reported, h.settled hidle, List.append_nil]

theorem IsPast.write (h : w.IsPast m done) (count : Nat) :
    { w with task := (w.task.write count).1, written := w.written ++ (w.task.write count).2
      : StreamWork }.IsPast m done where
  running := (ModemTask.ending_settle _).trans h.running
  modem := (ModemTask.modem_settle _).trans h.modem
  readable := h.readable
  written := by
    rw [← h.written]
    simp [ModemTask.write]
  reported := (ModemTask.reported_settle _).trans h.reported
  settled := fun hidle =>
    ModemTask.unreported_settle _ ((ModemTask.outgoing_settle _).symm.trans hidle)

/-- A piece that can be read is done next. -/
theorem HasDone.goOn (h : w.HasDone m done) (hmodem : w.task.modem = m.past done.flatten)
    (hrunning : w.task.ending = none) {piece : Bytes} (hpiece : piece ≠ [])
    (hreadable : (m.script (done.flatten ++ piece)).fault = none) :
    { w with task := w.task.read piece, pieces := w.pieces.tail : StreamWork }.IsPast m
      (done ++ [piece]) := by
  obtain ⟨more, hcommands, hfault, hactivities, houtput, hpast⟩ :=
    m.process_past h.readable piece
  rw [← hmodem] at hfault hactivities houtput hpast
  have hflatten : (done ++ [piece]).flatten = done.flatten ++ piece := by simp
  rw [w.task.read_of_process hpiece (hfault.trans hreadable)]
  exact {
    running := (ModemTask.ending_settle _).trans hrunning
    modem := by
      rw [hflatten, ← hpast hreadable]
      exact ModemTask.modem_settle _
    readable := by rw [hflatten, hreadable]
    written := by
      rw [hflatten, hcommands, m.saying_append, ← h.written, ← houtput]
      exact congrArg (w.written ++ ·) (ModemTask.outgoing_settle _)
    reported := by
      rw [hflatten, hcommands, List.map_append, ← h.reported, ← hactivities]
      exact ModemTask.reported_settle _
    settled := fun hidle =>
      ModemTask.unreported_settle _ ((ModemTask.outgoing_settle _).symm.trans hidle) }

/-- The next piece is done, or it cannot be read, or there is none. -/
theorem HasDone.read (h : w.HasDone m done) (hmodem : w.task.modem = m.past done.flatten)
    (hrunning : w.task.ending = none) (hsplit : pieces = done ++ w.pieces)
    (hpieces : ∀ piece ∈ pieces, piece ≠ []) :
    { w with task := w.task.read (w.pieces.headD []), pieces := w.pieces.tail
      : StreamWork }.Stands m pieces := by
  cases hleft : w.pieces with
  | nil =>
    rw [hleft, List.append_nil] at hsplit
    subst hsplit
    exact .finished rfl hmodem ⟨h.readable, h.written, h.reported⟩
  | cons piece unread =>
    rw [hleft] at hsplit
    have hpiece : piece ≠ [] := hpieces piece (by rw [hsplit]; simp)
    have hflatten : (done ++ [piece]).flatten = done.flatten ++ piece := by simp
    cases hfault : (m.script (done.flatten ++ piece)).fault with
    | none =>
      have hnext := h.goOn hmodem hrunning hpiece hfault
      rw [hleft] at hnext
      exact .working (done ++ [piece]) (by rw [hsplit]; simp) hnext
    | some cause =>
      obtain ⟨more, -, hcause, -⟩ := m.process_past h.readable piece
      rw [← hmodem, hfault] at hcause
      have hasked : m.script (done ++ [piece]).flatten = m.script pieces.flatten := by
        have hmore := m.script_append_of_fault hfault unread.flatten
        rw [hflatten, ← hmore, hsplit]
        simp
      rw [List.headD_cons, w.task.read_of_fault hpiece hcause]
      refine .failed done piece unread cause hsplit hasked ?_ rfl
        ⟨h.readable, h.written, h.reported⟩
      rw [← hasked, hflatten, hfault]

/-- What one step preserves. -/
theorem Stands.step (h : w.Stands m pieces) (hpieces : ∀ piece ∈ pieces, piece ≠ [])
    (action : StreamStep) : (w.step action).Stands m pieces := by
  cases h with
  | finished hending hmodem hdone =>
    rw [step_of_ended hending]
    exact .finished hending hmodem hdone
  | failed done piece unread cause hsplit hasked hfault hending hdone =>
    rw [step_of_ended hending]
    exact .failed done piece unread cause hsplit hasked hfault hending hdone
  | working done hsplit hpast =>
    cases action with
    | write count =>
      rw [step_write hpast.running]
      exact .working done hsplit (hpast.write count)
    | read =>
      by_cases hidle : w.task.outgoing = []
      · rw [step_read hpast.running hidle]
        exact (hpast.hasDone hidle).read hpast.modem hpast.running hsplit hpieces
      · rw [step_read_of_busy hidle]
        exact .working done hsplit hpast

/-- What a run preserves. -/
theorem Stands.run (h : w.Stands m pieces) (hpieces : ∀ piece ∈ pieces, piece ≠ [])
    (steps : List StreamStep) : (w.run steps).Stands m pieces := by
  induction steps generalizing w with
  | nil => exact h
  | cons action steps ih => exact ih (h.step hpieces action)

theorem stands_start (hbuffer : m.framer.buffer = []) (houtput : m.output = [])
    (pieces : List Bytes) : (start m pieces).Stands m pieces := by
  have hpast : m.past [] = m := m.past_nil hbuffer houtput
  have hscript : m.script [] = ⟨[], none⟩ := by
    simp [Modem.script, Script.of, parseWhole, Script.ofBodies, Framer.ending]
  refine .working [] rfl ⟨rfl, hpast.symm, ?_, ?_, ?_, fun _ => rfl⟩
  · rw [List.flatten_nil, hscript]
  · rw [List.flatten_nil, hscript]
    rfl
  · rw [List.flatten_nil, hscript]
    rfl

/-- What was written and reported is the beginning of what the whole stream asks. -/
theorem Stands.prefixes (h : w.Stands m pieces) :
    w.written <+: m.saying (m.script pieces.flatten).commands
      ∧ w.task.reported <+: (m.script pieces.flatten).commands.map m.account := by
  cases h with
  | finished _ _ hdone =>
    rw [hdone.written, hdone.reported]
    exact ⟨List.prefix_rfl, List.prefix_rfl⟩
  | failed read piece unread _ hsplit _ _ _ hdone =>
    have hcommands := m.script_prefix hdone.readable (piece :: unread).flatten
    rw [hsplit, List.flatten_append, hdone.written, hdone.reported]
    exact ⟨m.saying_prefix hcommands, hcommands.map m.account⟩
  | working read hsplit hpast =>
    have hcommands := m.script_prefix hpast.readable w.pieces.flatten
    have hsaying := m.saying_prefix hcommands
    have haccounts := hcommands.map m.account
    rw [← hpast.written] at hsaying
    rw [← hpast.reported] at haccounts
    rw [hsplit, List.flatten_append]
    exact ⟨(List.prefix_append _ _).trans hsaying, (List.prefix_append _ _).trans haccounts⟩

theorem run_cons (w : StreamWork) (action : StreamStep) (steps : List StreamStep) :
    w.run (action :: steps) = (w.step action).run steps := rfl

/-- A modem that has written everything goes on to read. -/
theorem step_write_step_read (hrunning : w.task.ending = none) :
    let next := (w.step (.write w.task.outgoing.length)).step .read
    next.pieces = w.pieces.tail ∧ (w.pieces = [] → next.task.ending = some .finished) := by
  have hending : (w.task.write w.task.outgoing.length).1.ending = none :=
    (ModemTask.ending_settle _).trans hrunning
  have hidle : (w.task.write w.task.outgoing.length).1.outgoing = [] :=
    (ModemTask.outgoing_settle _).trans List.drop_length
  rw [step_write hrunning, step_read hending hidle]
  refine ⟨rfl, fun hnothing => ?_⟩
  simp only [hnothing]
  rfl

/-- Enough steps end the work. -/
theorem exists_ending (w : StreamWork) : ∃ more, (w.run more).task.ending ≠ none := by
  induction hpieces : w.pieces generalizing w with
  | nil =>
    by_cases hrunning : w.task.ending = none
    · obtain ⟨-, hending⟩ := step_write_step_read hrunning
      refine ⟨[.write w.task.outgoing.length, .read], ?_⟩
      rw [run_cons, run_cons, run, List.foldl_nil, hending hpieces]
      exact Option.some_ne_none _
    · exact ⟨[], hrunning⟩
  | cons piece unread ih =>
    by_cases hrunning : w.task.ending = none
    · obtain ⟨hleft, -⟩ := step_write_step_read hrunning
      rw [hpieces, List.tail_cons] at hleft
      obtain ⟨more, hmore⟩ := ih _ hleft
      exact ⟨.write w.task.outgoing.length :: .read :: more, hmore⟩
    · exact ⟨[], hrunning⟩

/-- **What a modem does about a stream, however it is cut.** A modem works on a stream that comes in
any pieces that are not empty, and the stream accepts what the modem writes in any portions.

It can always go on until it ends. What it writes and what it reports never is anything but the
beginning of what the stream as a whole asks. If the stream can be read to its end, the modem has
written and reported all of that when it ends, and is left as the whole stream says. If it cannot,
the modem ends with the error that lies in the stream; then it has written and reported what the
pieces before the one with the error ask. What that piece asks before the error is lost. -/
theorem does_what_stream_asks (m : Modem) (hbuffer : m.framer.buffer = []) (houtput : m.output = [])
    (pieces : List Bytes) (hpieces : ∀ piece ∈ pieces, piece ≠ []) (steps : List StreamStep) :
    let asked := m.script pieces.flatten
    let w := (start m pieces).run steps
    (∃ more, (w.run more).task.ending ≠ none)
      ∧ w.written <+: m.saying asked.commands
      ∧ w.task.reported <+: asked.commands.map m.account
      ∧ (asked.fault = none → ∀ ending, w.task.ending = some ending →
          ending = .finished
            ∧ w.written = m.saying asked.commands
            ∧ w.task.reported = asked.commands.map m.account
            ∧ w.task.modem = m.past pieces.flatten)
      ∧ (∀ cause, asked.fault = some cause → ∀ ending, w.task.ending = some ending →
          ending = .failed (.parse cause)
            ∧ ∃ read piece unread, pieces = read ++ piece :: unread
              ∧ m.script (read ++ [piece]).flatten = asked
              ∧ (m.script read.flatten).fault = none
              ∧ w.written = m.saying (m.script read.flatten).commands
              ∧ w.task.reported = (m.script read.flatten).commands.map m.account) := by
  intro asked w
  have hstands : w.Stands m pieces := (stands_start hbuffer houtput pieces).run hpieces steps
  obtain ⟨hwritten, hreported⟩ := hstands.prefixes
  refine ⟨w.exists_ending, hwritten, hreported, fun hfault ending hended => ?_,
    fun cause hfault ending hended => ?_⟩
  · cases hstands with
    | working _ _ hpast =>
      rw [hpast.running] at hended
      cases hended
    | finished hending hmodem hdone =>
      rw [hending] at hended
      cases hended
      exact ⟨rfl, hdone.written, hdone.reported, hmodem⟩
    | failed _ _ _ _ _ _ hlies =>
      rw [hfault] at hlies
      cases hlies
  · cases hstands with
    | working _ _ hpast =>
      rw [hpast.running] at hended
      cases hended
    | finished _ _ hdone =>
      rw [hdone.readable] at hfault
      cases hfault
    | failed read piece unread found hsplit hasked hlies hending hdone =>
      obtain rfl : found = cause := Option.some.inj (hlies.symm.trans hfault)
      rw [hending] at hended
      cases hended
      exact ⟨rfl, read, piece, unread, hsplit, hasked, hdone.readable, hdone.written,
        hdone.reported⟩

/-- A command is answered before the rest of the stream turns out not to be readable. -/
theorem answers_before_fault :
    let m : Modem := { id := "sim0", rules := [(⟨4⟩, .ok [])] }
    let pieces := [(Command.mk ⟨4⟩ ⟨1⟩ []).encode, [0, 0, 0, 1], [0]]
    let w := (start m pieces).run [.read, .write 7, .write 13, .read, .read]
    (∀ piece ∈ pieces, piece ≠ [])
      ∧ w.task.ending = some (.failed (.parse (.truncatedHeader 1 8)))
      ∧ (∃ read piece unread, pieces = read ++ piece :: unread
        ∧ m.script (read ++ [piece]).flatten = m.script pieces.flatten
        ∧ (m.script read.flatten).fault = none
        ∧ w.written = m.saying (m.script read.flatten).commands
        ∧ w.task.reported = (m.script read.flatten).commands.map m.account)
      ∧ w.written = (Frame.response .solicited ⟨1⟩ ⟨4⟩ .success []).encode
      ∧ w.task.reported = [.command ⟨4⟩ ⟨1⟩ true] := by
  have hpieces : ∀ piece ∈ [(Command.mk ⟨4⟩ ⟨1⟩ []).encode, [0, 0, 0, 1], [0]], piece ≠ [] := by
    decide
  refine ⟨hpieces, by cbv, ?_, by cbv, by cbv⟩
  exact ((does_what_stream_asks { id := "sim0", rules := [(⟨4⟩, .ok [])] } rfl rfl _ hpieces
    [.read, .write 7, .write 13, .read, .read]).2.2.2.2 (.truncatedHeader 1 8) (by cbv)
      (.failed (.parse (.truncatedHeader 1 8))) (by cbv)).2

/-- The same bytes in one piece: the modem ends in the same way, and the command is lost. -/
theorem loses_answer_beside_fault :
    let m : Modem := { id := "sim0", rules := [(⟨4⟩, .ok [])] }
    let command := (Command.mk ⟨4⟩ ⟨1⟩ []).encode
    let whole := (start m [command ++ [0, 0, 0, 1, 0]]).run [.read]
    let cut := (start m [command, [0, 0, 0, 1, 0]]).run [.read, .write 20, .read]
    whole.task.ending = some (.failed (.parse (.truncatedHeader 1 8)))
      ∧ cut.task.ending = whole.task.ending
      ∧ whole.written = [] ∧ whole.task.reported = []
      ∧ cut.written = (Frame.response .solicited ⟨1⟩ ⟨4⟩ .success []).encode
      ∧ cut.task.reported = [.command ⟨4⟩ ⟨1⟩ true] := by
  refine ⟨?_, ?_, ?_, ?_, ?_, ?_⟩ <;> cbv

end StreamWork

end RadioLink
