import Tollgate.Cache.Concern
import Tollgate.Main
import Tollgate.Config.Document
import Tollgate.Config.Environment
import Tollgate.Counter.Redis
import Tollgate.Counter.Script
import Tollgate.Guard.Call
import Tollgate.Guard.Report
import Tollgate.Guard.Schedule
import Tollgate.Json.Reader
import Tollgate.Record.Document
import Tollgate.Routing.Script
import Tollgate.Store.Pair
import Tollgate.Proofs.Text.Decimal
import Tollgate.Proofs.Cache.Entries
import Tollgate.Proofs.Cache.History
import Tollgate.Proofs.Cache.Gates
import Tollgate.Proofs.Cache.Living
import Tollgate.Proofs.Cache.Inclusion
import Tollgate.Proofs.Counter.Counts
import Tollgate.Proofs.Guard.Scene
import Tollgate.Proofs.Guard.Parts
import Tollgate.Proofs.Guard.Decision
import Tollgate.Proofs.Guard.Course
import Tollgate.Proofs.Guard.Account
import Tollgate.Proofs.Guard.Freshness
import Tollgate.Proofs.Guard.Orderly
import Tollgate.Proofs.Guard.SingleFlight
import Tollgate.Proofs.Guard.Outline
import Tollgate.Proofs.Guard.Remembered
import Tollgate.Proofs.Guard.Story
import Tollgate.Proofs.Guard.Tale
import Tollgate.Proofs.Guard.Invalidation
import Tollgate.Proofs.Guard.Monotonic
import Tollgate.Proofs.Guard.Lookups
import Tollgate.Proofs.Cache.Purging
import Tollgate.Proofs.Calendar.Date
import Tollgate.Proofs.Counter.Key
import Tollgate.Proofs.Guard.DailyLimit
import Tollgate.Proofs.Cache.Queues
import Tollgate.Proofs.Cache.Turns
import Tollgate.Proofs.Guard.Progress
import Tollgate.Proofs.Guard.Promises
import Tollgate.Proofs.Guard.Settings
import Tollgate.Proofs.Cache.Conservation
import Tollgate.Proofs.Counter.Policies
import Tollgate.Proofs.Cache.Stranding
import Tollgate.Proofs.Guard.Lines
import Tollgate.Proofs.Guard.Tallies
import Tollgate.Proofs.Routing.Registrations
import Tollgate.Proofs.Routing.Marks
import Tollgate.Proofs.Guard.Routes
import Tollgate.Proofs.Guard.Replica
import Tollgate.Proofs.Text.Blank
import Tollgate.Proofs.Text.Numeral
import Tollgate.Proofs.Config.Environment
import Tollgate.Proofs.Json.Scanning
import Tollgate.Proofs.Json.Writing
import Tollgate.Proofs.Json.Fields
import Tollgate.Proofs.Calendar.Reading
import Tollgate.Proofs.Record.Documents
import Tollgate.Proofs.Cache.Eviction
import Tollgate.Proofs.Text.Ascii
import Tollgate.Proofs.Text.Integer
import Tollgate.Proofs.Counter.Numerals
import Tollgate.Proofs.Counter.Interchange
import Tollgate.Proofs.Json.Lexemes
import Tollgate.Proofs.Json.Structures
import Tollgate.Proofs.Record.Structures
import Tollgate.Proofs.Store.Revocation
import Tollgate.Proofs.Store.Snapshots
import Tollgate.Proofs.Guard.Reachable
import Tollgate.Proofs.Guard.Priming
import Tollgate.Proofs.Cache.Representation
import Tollgate.Proofs.Cache.Rounds
import Tollgate.Proofs.Guard.Pace
import Tollgate.Proofs.CommandLine.Soak
