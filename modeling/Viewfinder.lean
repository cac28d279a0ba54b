import Viewfinder.Camera.Basic
import Viewfinder.Camera.Bench
import Viewfinder.Camera.Error
import Viewfinder.Camera.Facing
import Viewfinder.Camera.FocusArea
import Viewfinder.Camera.Service
import Viewfinder.Camera.Simulator
import Viewfinder.CommandLine.Options
import Viewfinder.CommandLine.Run
import Viewfinder.Control.Build
import Viewfinder.Control.Capture
import Viewfinder.Control.Executor
import Viewfinder.Control.Requests
import Viewfinder.Control.State
import Viewfinder.Control.Tasks
import Viewfinder.Error
import Viewfinder.Event.Basic
import Viewfinder.Event.Bus
import Viewfinder.Event.Listener
import Viewfinder.Files.Folder
import Viewfinder.Files.Path
import Viewfinder.Files.Program
import Viewfinder.Frame
import Viewfinder.Geometry.Rect
import Viewfinder.Geometry.Size
import Viewfinder.Image.Crop
import Viewfinder.Image.Decode
import Viewfinder.Image.Error
import Viewfinder.Image.Raster
import Viewfinder.Image.Still
import Viewfinder.Interchange
import Viewfinder.Jpeg.Encoder
import Viewfinder.Jpeg.Entropy
import Viewfinder.Jpeg.Tables
import Viewfinder.Jpeg.Transform
import Viewfinder.Main
import Viewfinder.Numeric.Binary
import Viewfinder.Numeric.Decimal
import Viewfinder.Preview.Negotiation
import Viewfinder.Rotation
import Viewfinder.Settings.Basic
import Viewfinder.Settings.Error
import Viewfinder.Settings.File
import Viewfinder.Settings.Json
import Viewfinder.Settings.Key
import Viewfinder.Settings.Layers
import Viewfinder.Settings.Reading
import Viewfinder.Text.Document
import Viewfinder.Text.Json
import Viewfinder.Text.JsonRecord
import Viewfinder.Text.Lowercase
import Viewfinder.Text.Number
import Viewfinder.Text.Plain
import Viewfinder.Text.Quoted
import Viewfinder.Text.Toml.Printer
import Viewfinder.Text.Toml.Reader
import Viewfinder.Text.Toml.Scalar
import Viewfinder.Text.Toml.Tree
import Viewfinder.Tour
import Viewfinder.Proofs.Run
import Viewfinder.Proofs.Routines
import Viewfinder.Proofs.Custody
import Viewfinder.Proofs.Secured
import Viewfinder.Proofs.Recorder
import Viewfinder.Proofs.Ownership
import Viewfinder.Proofs.Lifecycle
import Viewfinder.Proofs.LifecycleSteps
import Viewfinder.Proofs.Agreement
import Viewfinder.Proofs.Chronicle
import Viewfinder.Proofs.Previewing
import Viewfinder.Proofs.Sessions
import Viewfinder.Proofs.Roster
import Viewfinder.Proofs.Departure
import Viewfinder.Proofs.Fittings
import Viewfinder.Proofs.Commands
import Viewfinder.Proofs.Tuning
import Viewfinder.Proofs.Renegotiation
import Viewfinder.Proofs.Announcement
import Viewfinder.Proofs.Turning
import Viewfinder.Proofs.Outlook
import Viewfinder.Proofs.Schedules
import Viewfinder.Proofs.Handover
import Viewfinder.Proofs.Captures
import Viewfinder.Proofs.Completion
import Viewfinder.Proofs.Provenance
import Viewfinder.Proofs.Flight
import Viewfinder.Proofs.Execution
import Viewfinder.Proofs.Dials
import Viewfinder.Proofs.Publication
import Viewfinder.Proofs.Coherence
import Viewfinder.Proofs.Readiness
import Viewfinder.Proofs.Mailbox
import Viewfinder.Proofs.Focusing
import Viewfinder.Proofs.Refusal
import Viewfinder.Proofs.Feeds
import Viewfinder.Proofs.Listening
import Viewfinder.Proofs.Recovery
import Viewfinder.Proofs.Effort
import Viewfinder.Proofs.Approach
import Viewfinder.Proofs.Reading
import Viewfinder.Proofs.Shooting
import Viewfinder.Proofs.Touring
import Viewfinder.Proofs.Journey
import Viewfinder.Proofs.Balance
import Viewfinder.Proofs.Selection
import Viewfinder.Proofs.Decoding
import Viewfinder.Proofs.Overlap
import Viewfinder.Proofs.Words
import Viewfinder.Proofs.Intersection
import Viewfinder.Proofs.Guarding
import Viewfinder.Proofs.Stills
import Viewfinder.Proofs.Precision
import Viewfinder.Proofs.Ordering
import Viewfinder.Proofs.Framing
import Viewfinder.Proofs.Visibility
import Viewfinder.Proofs.Targeting
import Viewfinder.Proofs.Headroom
import Viewfinder.Proofs.Handling
import Viewfinder.Proofs.Bookkeeping
import Viewfinder.Proofs.OneShot
import Viewfinder.Proofs.Gradient
import Viewfinder.Proofs.RightAngles
