import PhoneAudio.Bench.ScriptedSource
import PhoneAudio.Bench.Tone
import PhoneAudio.Handset.Operation
import PhoneAudio.Handset.Replacement
import PhoneAudio.Sample.Scale
import PhoneAudio.Proofs.Capture.Decimation
import PhoneAudio.Proofs.Capture.Streaming
import PhoneAudio.Proofs.Sample.Bytes
import PhoneAudio.Proofs.Machine.Core
import PhoneAudio.Proofs.Machine.Routing
import PhoneAudio.Proofs.Machine.Conditions
import PhoneAudio.Proofs.Machine.Locks
import PhoneAudio.Proofs.Machine.Intakes
import PhoneAudio.Proofs.Routing.Calls
import PhoneAudio.Proofs.Routing.Links
import PhoneAudio.Proofs.Routing.Controls
import PhoneAudio.Proofs.Handset.Standby
import PhoneAudio.Proofs.Handset.Sound
import PhoneAudio.Proofs.Machine.Instants
import PhoneAudio.Proofs.Handset.Audible
import PhoneAudio.Proofs.Handset.Instants
import PhoneAudio.Proofs.Handset.Waking
import PhoneAudio.Proofs.Handset.Transfer
import PhoneAudio.Proofs.Handset.Parameters
import PhoneAudio.Proofs.Handset.Control
import PhoneAudio.Proofs.Handset.Lifecycle
import PhoneAudio.Proofs.Handset.Capturing
import PhoneAudio.Proofs.Handset.Microphone
import PhoneAudio.Proofs.Handset.Session
import PhoneAudio.Proofs.Handset.Coherence
import PhoneAudio.Proofs.Handset.CapturingAlone
import PhoneAudio.Proofs.Handset.Mute
import PhoneAudio.Proofs.Handset.CallCapture
import PhoneAudio.Proofs.Handset.CallState
import PhoneAudio.Proofs.Handset.Closed
import PhoneAudio.Proofs.Handset.Interference
import PhoneAudio.Proofs.Handset.Takeover
import PhoneAudio.Proofs.Handset.Moves
import PhoneAudio.Proofs.Handset.Generation
import PhoneAudio.Proofs.Handset.Logs
import PhoneAudio.Proofs.Routing.Radio
import PhoneAudio.Proofs.Routing.Faults
import PhoneAudio.Proofs.Routing.Inert
import PhoneAudio.Proofs.Handset.Locking
import PhoneAudio.Proofs.Handset.LockDiscipline
import PhoneAudio.Proofs.Handset.WakingAmid
import PhoneAudio.Proofs.Capture.Collecting
import PhoneAudio.Proofs.Handset.Opening
import PhoneAudio.Proofs.Handset.Reopening
import PhoneAudio.Proofs.Handset.PlayedRoute
import PhoneAudio.Proofs.Handset.Progress
import PhoneAudio.Proofs.Handset.Balance
import PhoneAudio.Proofs.Handset.OpeningOrder
import PhoneAudio.Proofs.Handset.Dropped
import PhoneAudio.Proofs.Handset.Ties
import PhoneAudio.Proofs.Handset.Tasks
import PhoneAudio.Proofs.Handset.DriverNotes
import PhoneAudio.Proofs.Handset.Supplies
import PhoneAudio.Proofs.Handset.StandbyEvents
import PhoneAudio.Proofs.Handset.Lossless
import PhoneAudio.Proofs.Handset.Formats
import PhoneAudio.Proofs.Capture.Channels
import PhoneAudio.Proofs.Routing.RouteWrites
import PhoneAudio.Proofs.Handset.Fixtures
import PhoneAudio.Proofs.Handset.CaptureDevices
import PhoneAudio.Proofs.Capture.Reports
import PhoneAudio.Proofs.Handset.Failures
import PhoneAudio.Proofs.Handset.FailedTransfers
import PhoneAudio.Proofs.Routing.Staging
import PhoneAudio.Proofs.Capture.Rounds
import PhoneAudio.Proofs.Capture.Liveness
import PhoneAudio.Proofs.Handset.Equipment
import PhoneAudio.Proofs.Capture.FailedPulls
import PhoneAudio.Proofs.Capture.CheckedPulls
import PhoneAudio.Proofs.Routing.LinkEdges
import PhoneAudio.Proofs.Handset.Buffers
import PhoneAudio.Proofs.Handset.Latency
import PhoneAudio.Proofs.Handset.Selection
import PhoneAudio.Proofs.Capture.Levels
import PhoneAudio.Proofs.Capture.Rates
import PhoneAudio.Proofs.Text.Trimming
import PhoneAudio.Proofs.Text.KeyValues
import PhoneAudio.Proofs.Text.Integer
