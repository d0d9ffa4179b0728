import RadioLink.Ident
import RadioLink.Payload
import RadioLink.Status

set_option autoImplicit false

/-! # Errors

An error names its cause: `name` says it in a word and `message` in a sentence. Four families follow the
layers of a link: bytes that are no frame, payloads that are no value of their shape, requests
that a slot cannot serve, and the end of a simulated modem. -/

namespace RadioLink

/-- Why bytes are no frame. -/
inductive ParseError
  | incomplete (needed : Nat)
  | frameTooLarge (length limit : UInt32)
  /-- The body is shorter than its header. -/
  | truncatedHeader (length needed : Nat)
  | unknownKind (tag : UInt32)
deriving DecidableEq, Repr

/-- What a frame longer than its limit is reported as. -/
def oversize (length limit : Nat) : String :=
  s!"frame too large: {length} bytes (limit {limit})"

/-- The cause of a framing error, in a word. -/
def ParseError.name : ParseError → String
  | incomplete _ => "Incomplete"
  | frameTooLarge _ _ => "FrameTooLarge"
  | truncatedHeader _ _ => "TruncatedHeader"
  | unknownKind _ => "UnknownKind"

def ParseError.message : ParseError → String
  | incomplete needed => s!"incomplete data: need {needed} more bytes"
  | frameTooLarge length limit => oversize length.toNat limit.toNat
  | truncatedHeader length needed => s!"truncated frame header: {length} bytes, need {needed}"
  | unknownKind tag => s!"unknown frame kind: {tag.toNat}"

/-- Why a payload cannot be written or read. -/
inductive CodecError
  /-- The value has another shape than the one asked for. -/
  | shapeMismatch (expected actual : Shape)
  /-- The bytes end inside a value. -/
  | truncated (offset : Nat)
  /-- A length is negative. -/
  | invalidLength (length : Int32) (offset : Nat)
  | invalidUtf8 (offset : Nat)
  | trailingBytes (count : Nat)
  /-- A reason of the codec's own. -/
  | other (reason : String)
deriving DecidableEq, Repr

/-- The cause of a payload error, in a word. -/
def CodecError.name : CodecError → String
  | shapeMismatch _ _ => "ShapeMismatch"
  | truncated _ => "Truncated"
  | invalidLength _ _ => "InvalidLength"
  | invalidUtf8 _ => "InvalidUtf8"
  | trailingBytes _ => "TrailingBytes"
  | other _ => "Other"

def CodecError.message : CodecError → String
  | shapeMismatch expected actual =>
      "payload shape mismatch: expected " ++ expected.name ++ ", got " ++ actual.name
  | truncated offset => s!"payload truncated at offset {offset}"
  | invalidLength length offset =>
      "invalid length " ++ toString length.toInt ++ s!" at offset {offset}"
  | invalidUtf8 offset => s!"invalid UTF-8 string at offset {offset}"
  | trailingBytes count => s!"{count} trailing bytes after payload"
  | other reason => reason

/-- Why a slot cannot do what it is asked to do. The reasons that an operating system gives are
texts. -/
inductive LinkError
  /-- The stream is closed or broken. -/
  | transportClosed
  | shutDown
  /-- Reading or writing the stream failed. -/
  | io (reason : String)
  /-- The inbound bytes are no frames. -/
  | framing (cause : ParseError)
  /-- An outbound frame is above the limit. -/
  | frameTooLarge (length : Nat) (limit : UInt32)
  /-- No codec is registered for a request. -/
  | unknownRequest (request : RequestId)
  | unsupported (request : RequestId)
  /-- The payload of a request cannot be written. -/
  | encode (request : RequestId) (cause : CodecError)
  /-- The payload of a response cannot be read. -/
  | decode (cause : CodecError)
  /-- A chosen token is in use. -/
  | duplicateToken (token : Token)
  /-- The vendor refused a request. -/
  | rejected (request : RequestId) (status : Status)
  | timeout (milliseconds : UInt64)
  /-- A request was resolved without a response. -/
  | responseDropped (token : Token)
  | slotNotFound (slot : SlotId)
  | config (reason : String)
  /-- A serial port cannot be opened. -/
  | serial (reason : String)
deriving DecidableEq, Repr

namespace LinkError

/-- The cause of a link error, in a word. -/
def name : LinkError → String
  | transportClosed => "TransportClosed"
  | shutDown => "ShutDown"
  | io _ => "Io"
  | framing _ => "Framing"
  | frameTooLarge _ _ => "FrameTooLarge"
  | unknownRequest _ => "UnknownRequest"
  | unsupported _ => "Unsupported"
  | encode _ _ => "Encode"
  | decode _ => "Decode"
  | duplicateToken _ => "DuplicateToken"
  | rejected _ _ => "Rejected"
  | timeout _ => "Timeout"
  | responseDropped _ => "ResponseDropped"
  | slotNotFound _ => "SlotNotFound"
  | config _ => "Config"
  | serial _ => "Serial"

def message : LinkError → String
  | transportClosed => "transport channel closed"
  | shutDown => "slot shut down"
  | io reason => "I/O error: " ++ reason
  | framing cause => "framing error: " ++ cause.message
  | frameTooLarge length limit => oversize length limit.toNat
  | unknownRequest request => "unknown request: " ++ request.text
  | unsupported request => "request not supported: " ++ request.text
  | encode request cause => "failed to encode " ++ request.text ++ ": " ++ cause.message
  | decode cause => "failed to decode response: " ++ cause.message
  | duplicateToken token => "token " ++ token.text ++ " is already pending"
  | rejected request status => request.text ++ " rejected: " ++ status.text
  | timeout milliseconds => "request timed out after " ++ toString milliseconds.toNat ++ "ms"
  | responseDropped token => "response for token " ++ token.text ++ " was dropped"
  | slotNotFound slot => "slot not found: " ++ slot.text
  | config reason => "configuration error: " ++ reason
  | serial reason => "serial port error: " ++ reason

/-- Whether the error means that the slot's stream is gone. -/
def isTerminal : LinkError → Bool
  | transportClosed | shutDown => true
  | _ => false

end LinkError

/-- Why a simulated modem ended before its stream did. -/
inductive ModemError
  /-- Reading or writing the stream failed. -/
  | io (reason : String)
  /-- The inbound bytes are no commands. -/
  | parse (cause : ParseError)
deriving DecidableEq, Repr

def ModemError.message : ModemError → String
  | io reason => "I/O error: " ++ reason
  | parse cause => "malformed command stream: " ++ cause.message

end RadioLink
