import ServiceCall.Client.Call
import ServiceCall.Message
import ServiceCall.Json.Printer
import ServiceCall.Rehearsal.Script
import ServiceCall.Proofs.Call.Actions
import ServiceCall.Proofs.Call.Admission
import ServiceCall.Proofs.Call.Attempt
import ServiceCall.Proofs.Call.Course
import ServiceCall.Proofs.Capacity.Ledger
import ServiceCall.Proofs.Capacity.Accounting
import ServiceCall.Proofs.Call.Exchange
import ServiceCall.Proofs.Call.Law
import ServiceCall.Proofs.Call.Invariant
import ServiceCall.Proofs.Call.Phases
import ServiceCall.Proofs.Clock.Correction
import ServiceCall.Proofs.Body.Reading
import ServiceCall.Proofs.Body.Rewinding
import ServiceCall.Proofs.Attempts.Stages
import ServiceCall.Proofs.Attempts.Restoration
import ServiceCall.Proofs.Attempts.Redirection
import ServiceCall.Proofs.Attempts.Bounds
import ServiceCall.Proofs.Attempts.Numbering
import ServiceCall.Proofs.Attempts.Stream
import ServiceCall.Proofs.Attempts.Decision
import ServiceCall.Proofs.Capacity.Sharing
import ServiceCall.Proofs.Capacity.Traffic
import ServiceCall.Proofs.Attempts.Binding
import ServiceCall.Proofs.Attempts.Itinerary
import ServiceCall.Proofs.Attempts.Interruption
import ServiceCall.Proofs.Attempts.Cancellation
import ServiceCall.Proofs.Call.History
import ServiceCall.Proofs.Hooks.Pipeline
import ServiceCall.Proofs.Call.Closing
import ServiceCall.Proofs.Call.Reception
import ServiceCall.Proofs.Call.Marks
import ServiceCall.Proofs.Hooks.Lifecycle
import ServiceCall.Proofs.Milestones.Grammar
import ServiceCall.Proofs.Attempts.LastAttempt
import ServiceCall.Proofs.Table
import ServiceCall.Proofs.Metadata.Queue
import ServiceCall.Proofs.Metadata.Recall
import ServiceCall.Proofs.Body.Cursor
import ServiceCall.Proofs.Attempts.HandBack
import ServiceCall.Proofs.Metrics.Score
import ServiceCall.Proofs.Metrics.Endings
import ServiceCall.Proofs.Metrics.Reckoning
import ServiceCall.Proofs.Attempts.Reasons
import ServiceCall.Proofs.Metrics.Totals
import ServiceCall.Proofs.Capacity.Masking
import ServiceCall.Proofs.Call.Pairs
import ServiceCall.Proofs.Call.Together
import ServiceCall.Proofs.Call.Parallel
import ServiceCall.Proofs.Capacity.Ample
import ServiceCall.Proofs.Address.Authority
import ServiceCall.Proofs.Address.Form
import ServiceCall.Proofs.Address.Delivery
import ServiceCall.Proofs.Address.Hosts
import ServiceCall.Proofs.Address.WebAddress
import ServiceCall.Proofs.Address.Redaction
import ServiceCall.Proofs.Attempts.Pace
import ServiceCall.Proofs.Attempts.Memory
import ServiceCall.Proofs.Attempts.Pausing
import ServiceCall.Proofs.Clock.Accuracy
import ServiceCall.Proofs.Clock.Writing
import ServiceCall.Proofs.Clock.Messages
import ServiceCall.Proofs.Text.Utf8
import ServiceCall.Proofs.Address.Pairs
import ServiceCall.Proofs.Attempts.Classification
import ServiceCall.Proofs.Retry.Window
import ServiceCall.Proofs.Capacity.Consumption
import ServiceCall.Proofs.Call.Chronicle
