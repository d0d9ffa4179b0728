import RadioLink.Dispatch
import RadioLink.Modem

set_option autoImplicit false

/-! # Stock requests

The requests and indications that are known without a vendor, and the answers that a simulated modem
gives to some of them. -/

namespace RadioLink.Stock

def getSimStatus : RequestId := ⟨1⟩
def getCurrentCalls : RequestId := ⟨9⟩
def signalStrength : RequestId := ⟨19⟩
def voiceRegistrationState : RequestId := ⟨20⟩
def operator : RequestId := ⟨22⟩
def radioPower : RequestId := ⟨23⟩
def basebandVersion : RequestId := ⟨51⟩

def radioStateChanged : IndicationId := ⟨1000⟩
def callStateChanged : IndicationId := ⟨1001⟩
def nitzTimeReceived : IndicationId := ⟨1008⟩
def signalStrengthChanged : IndicationId := ⟨1009⟩

/-- The shapes of the stock requests and indications. -/
def table : DispatchTable :=
  DispatchTable.withShapes {} getSimStatus .void .raw
    |>.withShapes getCurrentCalls .void .raw
    |>.withShapes signalStrength .void .ints
    |>.withShapes voiceRegistrationState .void .strings
    |>.withShapes operator .void .strings
    |>.withShapes radioPower .ints .void
    |>.withShapes basebandVersion .void .string
    |>.withIndicationShape radioStateChanged .void
    |>.withIndicationShape callStateChanged .void
    |>.withIndicationShape nitzTimeReceived .string
    |>.withIndicationShape signalStrengthChanged .ints

/-- A number with at least two digits. -/
def twoDigits (n : Nat) : String :=
  if n < 10 then "0" ++ toString n else toString n

/-- The simulated modem of the slot with a number. -/
def modem (number : UInt8) : Modem :=
  let n := number.toNat
  let carrier : Payload := .strings
    [some "Simulated Carrier", some "SimCarrier", some ("3102" ++ twoDigits n)]
  let version : Payload := .string (some ("SIM-BB-" ++ toString n))
  let start : Modem := { id := "sim" ++ toString n }
  start.setRule signalStrength (.ok (Payload.ints [18, 99]).encode)
    |>.setRule operator (ModemRule.ok carrier.encode).ackExpected
    |>.setRule basebandVersion (ModemRule.ok version.encode).earlyAck
    |>.setRule radioPower (.ok [])
    |>.setRule getCurrentCalls (.fail .radioNotAvailable)

/-- The signal strength that the modems report in a round. -/
def signalReport (round : Int32) : Payload :=
  .ints [10 + round % 20, 99]

/-- What the modems are told in a round: to report the signal strength, which has to be acknowledged
in every other round. -/
def signalIndication (round : Int32) : IndicationId × Bytes × Bool :=
  (signalStrengthChanged, (signalReport round).encode, round % 2 == 0)

end RadioLink.Stock
