import MeterBridge.Config.Encode
import MeterBridge.Main
import MeterBridge.Proofs.Occurrence
import MeterBridge.Proofs.Sighting
import MeterBridge.Proofs.Envelope
import MeterBridge.Proofs.Scan
import MeterBridge.Proofs.Extraction
import MeterBridge.Proofs.Window
import MeterBridge.Proofs.Outcome
import MeterBridge.Proofs.Receiver
import MeterBridge.Proofs.Packing
import MeterBridge.Proofs.Blank
import MeterBridge.Proofs.Hex
import MeterBridge.Proofs.Codec
import MeterBridge.Proofs.Line
import MeterBridge.Proofs.Grammar
import MeterBridge.Proofs.Lines
import MeterBridge.Proofs.Run
import MeterBridge.Proofs.Tally
import MeterBridge.Proofs.Sink
import MeterBridge.Proofs.Effect
import MeterBridge.Proofs.History
import MeterBridge.Proofs.Interruption
import MeterBridge.Proofs.Reingestion
import MeterBridge.Proofs.Feed
import MeterBridge.Proofs.Limit
import MeterBridge.Proofs.Layout
import MeterBridge.Proofs.SortedMap
import MeterBridge.Proofs.Capture
import MeterBridge.Proofs.Digit
import MeterBridge.Proofs.Json.StringLiteral
import MeterBridge.Proofs.Json.Number
import MeterBridge.Proofs.Json.RoundTrip
import MeterBridge.Proofs.Json.Decode
import MeterBridge.Proofs.Json.Lines
import MeterBridge.Proofs.Session
import MeterBridge.Proofs.Composition
import MeterBridge.Proofs.Isolation
import MeterBridge.Proofs.Config
import MeterBridge.Proofs.LogForms
import MeterBridge.Proofs.Replay
import MeterBridge.Proofs.Bounds
import MeterBridge.Proofs.Whole
import MeterBridge.Proofs.Room
import MeterBridge.Proofs.Machine
import MeterBridge.Proofs.Rounds
import MeterBridge.Proofs.Safety
import MeterBridge.Proofs.Truncation
import MeterBridge.Proofs.Unwrapped
import MeterBridge.Proofs.Wrapping
import MeterBridge.Proofs.Address
import MeterBridge.Proofs.Serial
import MeterBridge.Proofs.Fields
import MeterBridge.Proofs.Dominance
import MeterBridge.Proofs.Throttle
import MeterBridge.Proofs.Action
import MeterBridge.Proofs.Warning
