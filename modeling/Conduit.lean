import Conduit.Channel.Basic
import Conduit.Channel.Config
import Conduit.Channel.ConfigText
import Conduit.Channel.Conversation
import Conduit.Channel.Link
import Conduit.Channel.Outcome
import Conduit.Channel.Transcript
import Conduit.Channel.Wire
import Conduit.Decimal.Double
import Conduit.Decimal.Shortest
import Conduit.Duration
import Conduit.Fault
import Conduit.Fetch.Basic
import Conduit.Fetch.Request
import Conduit.Fetch.Sink
import Conduit.LogFilter.Basic
import Conduit.LogFilter.Directive
import Conduit.LogFilter.Field
import Conduit.LogFilter.Level
import Conduit.Main
import Conduit.Net.Address
import Conduit.Net.Ip
import Conduit.Net.IpText
import Conduit.Net.Lookup
import Conduit.Net.Service
import Conduit.Net.TransportError
import Conduit.Pipe.Basic
import Conduit.Pipe.Cursor
import Conduit.Pipe.Device
import Conduit.Pipe.Display
import Conduit.Pipe.Event
import Conduit.Pipe.Halves
import Conduit.Pipe.Lemmas
import Conduit.Pipe.Request
import Conduit.Pipe.Transfer
import Conduit.Pipe.Workspace
import Conduit.Program.CommandLine
import Conduit.Program.Run
import Conduit.Program.Settings
import Conduit.Storage
import Conduit.Text.Alphanumeric
import Conduit.Text.Cut
import Conduit.Text.Digits
import Conduit.Text.Pattern
import Conduit.Text.Quoted
import Conduit.Text.Record
import Conduit.Text.Space
import Conduit.Text.Unprintable
import Conduit.Toml.Document
import Conduit.Toml.Lexical
import Conduit.Toml.Moment
import Conduit.Toml.Number
import Conduit.Toml.Quoted
import Conduit.Toml.Table
import Conduit.Proofs.Pipe.Halves
import Conduit.Proofs.Pipe.Passage
import Conduit.Proofs.Pipe.Slots
import Conduit.Proofs.Pipe.Ownership
import Conduit.Proofs.Pipe.Reunion
import Conduit.Proofs.Pipe.Splitting
import Conduit.Proofs.Pipe.Ended
import Conduit.Proofs.Pipe.Descent
import Conduit.Proofs.Pipe.Finality
import Conduit.Proofs.Pipe.Queue
import Conduit.Proofs.Channel.Inbound
import Conduit.Proofs.Channel.Answer
import Conduit.Proofs.Channel.Exchanges
import Conduit.Proofs.Channel.Ending
import Conduit.Proofs.Fetch.Delivery
import Conduit.Proofs.Channel.Closing
import Conduit.Proofs.Toml.Entries
import Conduit.Proofs.Channel.Settings
import Conduit.Proofs.Text.Numerals
import Conduit.Proofs.Program.Precedence
import Conduit.Proofs.Toml.Words
import Conduit.Proofs.Toml.Listing
import Conduit.Proofs.Channel.Documents
import Conduit.Proofs.Fetch.Response
import Conduit.Proofs.Program.Contract
import Conduit.Proofs.Channel.Directions
import Conduit.Proofs.Pipe.Standing
import Conduit.Proofs.Pipe.Progress
import Conduit.Proofs.Pipe.Consuming
import Conduit.Proofs.Pipe.Backpressure
import Conduit.Proofs.Pipe.Portions
import Conduit.Proofs.Pipe.Walking
import Conduit.Proofs.Pipe.Pending
import Conduit.Proofs.Net.Resolution
import Conduit.Proofs.Channel.Hindrance
import Conduit.Proofs.Fetch.Failure
import Conduit.Proofs.Program.Allocation
import Conduit.Proofs.Net.Services
import Conduit.Proofs.Net.IpReading
import Conduit.Proofs.Net.AddressText
import Conduit.Proofs.Net.Ordering
import Conduit.Proofs.Net.Decision
import Conduit.Proofs.Text.Encoded
import Conduit.Proofs.Text.Pieces
import Conduit.Proofs.Fetch.Lines
import Conduit.Proofs.Channel.Limits
import Conduit.Proofs.Pipe.Guarded
import Conduit.Proofs.Pipe.Safety
