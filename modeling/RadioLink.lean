import RadioLink.Bench
import RadioLink.Bench.Broadcast
import RadioLink.Bench.Calls
import RadioLink.Bench.Modem
import RadioLink.Bench.ModemWork
import RadioLink.Bench.Peer
import RadioLink.Bench.Pipe
import RadioLink.Bench.SlotSet
import RadioLink.Bench.Watch
import RadioLink.Bytes
import RadioLink.Callbacks
import RadioLink.Config
import RadioLink.Dispatch
import RadioLink.Error
import RadioLink.Event
import RadioLink.Frame
import RadioLink.Framing
import RadioLink.Ident
import RadioLink.Json.Form
import RadioLink.Json.Reader
import RadioLink.Json.Token
import RadioLink.Json.Value
import RadioLink.Json.Writer
import RadioLink.Modem
import RadioLink.Modem.Task
import RadioLink.Outlet
import RadioLink.Payload
import RadioLink.Payload.Codec
import RadioLink.Registry
import RadioLink.Response
import RadioLink.Simulation
import RadioLink.Slot
import RadioLink.SlotSet
import RadioLink.Status
import RadioLink.Stock
import RadioLink.Text.Quoted
import RadioLink.Text.Record
import RadioLink.Text.Unprintable
import RadioLink.Vendor
import RadioLink.Bench.Registry
import RadioLink.Text.Hex
import RadioLink.Proofs.Framing
import RadioLink.Proofs.Ledger
import RadioLink.Proofs.Turns
import RadioLink.Proofs.Exchange
import RadioLink.Proofs.AckWindow
import RadioLink.Proofs.Payload
import RadioLink.Proofs.Session
import RadioLink.Proofs.Closing
import RadioLink.Proofs.AckMarks
import RadioLink.Proofs.Acknowledging
import RadioLink.Proofs.ModemLink
import RadioLink.Proofs.LinkBalance
import RadioLink.Proofs.PayloadGrammar
import RadioLink.Proofs.Tickets
import RadioLink.Proofs.Apart
import RadioLink.Proofs.Rollback
import RadioLink.Proofs.Arrivals
import RadioLink.Proofs.Envelopes
import RadioLink.Proofs.Stream
import RadioLink.Proofs.Uplink
import RadioLink.Proofs.Limits
import RadioLink.Proofs.JsonText
import RadioLink.Proofs.Configuration
import RadioLink.Proofs.Unheard
import RadioLink.Proofs.Refusals
import RadioLink.Proofs.Docket
import RadioLink.Proofs.Bodies
import RadioLink.Proofs.Delimiting
import RadioLink.Proofs.AckHistory
import RadioLink.Proofs.Cuttings
import RadioLink.Proofs.Allocation
import RadioLink.Proofs.Connecting
import RadioLink.Proofs.Indications
import RadioLink.Proofs.Finality
