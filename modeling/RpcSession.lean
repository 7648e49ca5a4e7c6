import RpcSession.Main
import RpcSession.Scenario
import RpcSession.Proofs.Change
import RpcSession.Proofs.Movement.Basic
import RpcSession.Proofs.Movement.Progress
import RpcSession.Proofs.Movement.Timers
import RpcSession.Proofs.Movement.Dispatch
import RpcSession.Proofs.Exchange.Basic
import RpcSession.Proofs.Exchange.FanOut
import RpcSession.Proofs.Exchange.Request
import RpcSession.Proofs.Movement.Run
import RpcSession.Proofs.Registry.Entries
import RpcSession.Proofs.Registry.History
import RpcSession.Proofs.Dispatch
import RpcSession.Proofs.Exchange.Results
import RpcSession.Proofs.ProgressStream
import RpcSession.Proofs.Termination
import RpcSession.Proofs.RequestOutcome
import RpcSession.Proofs.RequestFailure
import RpcSession.Proofs.Registry.Refinement
import RpcSession.Proofs.Likeness.Basic
import RpcSession.Proofs.Likeness.Run
import RpcSession.Proofs.Likeness.Kept
import RpcSession.Proofs.Blindness
import RpcSession.Proofs.Bridge
import RpcSession.Proofs.BridgeFailure
import RpcSession.Proofs.Timers.Schedule
import RpcSession.Proofs.Timers.Ticks
import RpcSession.Proofs.ProgressSnapshot
import RpcSession.Proofs.Lifecycle.History
import RpcSession.Proofs.Lifecycle.Sessions
import RpcSession.Proofs.Numbering
import RpcSession.Proofs.Acknowledgement.Queue
import RpcSession.Proofs.Acknowledgement.Delivery
import RpcSession.Proofs.Acknowledgement.Order
import RpcSession.Proofs.Notification.Twins
import RpcSession.Proofs.Notification.SameWork
import RpcSession.Proofs.Decimal.Rounding
import RpcSession.Proofs.Decimal.Doubles
import RpcSession.Proofs.Decimal.Neighbourhood
import RpcSession.Proofs.Decimal.ShortestDigits
import RpcSession.Proofs.Decimal.Reading
import RpcSession.Proofs.Indexing.Percentage
import RpcSession.Proofs.Indexing.Walk
import RpcSession.Proofs.Indexing.SilentPeer
import RpcSession.Proofs.Indexing.Marks
import RpcSession.Proofs.Indexing.OnCourse
import RpcSession.Proofs.Indexing.Steps
import RpcSession.Proofs.Indexing.Keeping
import RpcSession.Proofs.Indexing.Calls
import RpcSession.Proofs.Indexing.Strays
import RpcSession.Proofs.Indexing.Ticking
import RpcSession.Proofs.Indexing.Firing
import RpcSession.Proofs.Indexing.Runs
import RpcSession.Proofs.Indexing.Moments
import RpcSession.Proofs.Indexing.Completion
import RpcSession.Proofs.Json.Numbers
import RpcSession.Proofs.Json.Strings
import RpcSession.Proofs.Json.RoundTrip
import RpcSession.Proofs.Json.ReadValues
import RpcSession.Proofs.Json.Grammar
import RpcSession.Proofs.Json.DoubleNames
import RpcSession.Proofs.Json.OneLine
import RpcSession.Proofs.Demonstration.Course
import RpcSession.Proofs.Demonstration.Lines
import RpcSession.Proofs.Demonstration.StandardLines
import RpcSession.Proofs.Handles.Answers
import RpcSession.Proofs.Handles.Course
import RpcSession.Proofs.Handles.Independence
import RpcSession.Proofs.Lifecycle.Invariant
import RpcSession.Proofs.Handles.Refusals
import RpcSession.Proofs.Indexing.Exactness
import RpcSession.Proofs.Indexing.Orphans
import RpcSession.Proofs.Decimal.NonFinite
import RpcSession.Proofs.Text.Uppercase
import RpcSession.Proofs.Configuration.Reading
import RpcSession.Proofs.Configuration.Faults
import RpcSession.Proofs.Configuration.Times
import RpcSession.Proofs.Configuration.Usability
import RpcSession.Proofs.Logging.Calendar
import RpcSession.Proofs.Logging.Attributes
import RpcSession.Proofs.Logging.StructuredLine
