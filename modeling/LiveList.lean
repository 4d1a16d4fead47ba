import LiveList.Entry.Board
import LiveList.Main
import LiveList.Switchboard
import LiveList.Proofs.Outcome
import LiveList.Proofs.View.Acts
import LiveList.Proofs.View.Passes
import LiveList.Proofs.View.Replica
import LiveList.Proofs.View.Convergence
import LiveList.Proofs.Assoc
import LiveList.Proofs.View.Order
import LiveList.Proofs.View.Representation
import LiveList.Proofs.View.Cells
import LiveList.Proofs.View.Sound
import LiveList.Proofs.View.Scene
import LiveList.Proofs.View.Tracking
import LiveList.Proofs.View.Operations
import LiveList.Proofs.View.Waiting
import LiveList.Proofs.View.Ticking
import LiveList.Proofs.View.Placement
import LiveList.Proofs.View.Sortedness
import LiveList.Proofs.View.Retelling
import LiveList.Proofs.View.Freshness
import LiveList.Proofs.Signal
import LiveList.Proofs.View.Lifecycle
import LiveList.Proofs.View.Records
import LiveList.Proofs.View.Attendance
import LiveList.Proofs.Seats
import LiveList.Proofs.View.Coalescing
import LiveList.Proofs.Source.Catalog
import LiveList.Proofs.Source.Step
import LiveList.Proofs.Source.Keeper
import LiveList.Proofs.Source.Apart
import LiveList.Proofs.Text.Blank
import LiveList.Proofs.Share.Steps
import LiveList.Proofs.Share.Nesting
import LiveList.Proofs.Share.Naming
import LiveList.Proofs.Queue.Steps
import LiveList.Proofs.Hub.Steps
import LiveList.Proofs.Hub.Profiles
import LiveList.Proofs.Source.Keys
import LiveList.Proofs.Search.Steps
import LiveList.Proofs.Source.EventLog
import LiveList.Proofs.Source.Promptness
import LiveList.Proofs.Queue.Publication
import LiveList.Proofs.Request.Shape
import LiveList.Proofs.Request.Choice
import LiveList.Proofs.Service.Requests
import LiveList.Proofs.Service.Skeleton
import LiveList.Proofs.Service.Course
import LiveList.Proofs.Service.Turnover
import LiveList.Proofs.Service.Accounting
import LiveList.Proofs.View.Anchoring
import LiveList.Proofs.View.Quiescence
import LiveList.Proofs.View.Coherence
import LiveList.Proofs.Wire.Encoding
import LiveList.Proofs.Wire.Framing
import LiveList.Proofs.Wire.Connections
import LiveList.Proofs.Wire.Conversation
import LiveList.Proofs.Word
import LiveList.Proofs.View.Merging
import LiveList.Proofs.View.StableSort
import LiveList.Proofs.View.Insertion
import LiveList.Proofs.View.Arithmetic
import LiveList.Proofs.Numbers
import LiveList.Proofs.View.Ranking
import LiveList.Proofs.Source.Comparison
import LiveList.Proofs.Queue.Condition
import LiveList.Proofs.Decimal
import LiveList.Proofs.Filter.AnyProperty
import LiveList.Proofs.Search.Relevance
import LiveList.Proofs.Search.Merging
import LiveList.Proofs.Text.Lowercase
import LiveList.Proofs.Search.Verbatim
import LiveList.Proofs.Share.Path
import LiveList.Proofs.Search.Paths
import LiveList.Proofs.Log
import LiveList.Proofs.Signal.Delivery
import LiveList.Proofs.Filter.Threshold
import LiveList.Proofs.Regex.Matching
import LiveList.Proofs.Filter.Wildcard
import LiveList.Proofs.Service.Methods
import LiveList.Proofs.Service.Routing
