import Autoplay.Account.Cycle
import Autoplay.Console.Arguments
import Autoplay.Console.Lines
import Autoplay.Console.Session
import Autoplay.Console.Usage
import Autoplay.Console.Workplace
import Autoplay.Device.Bridge
import Autoplay.Device.Command
import Autoplay.Device.Encode
import Autoplay.Device.Listing
import Autoplay.Dialogue
import Autoplay.Document.Lenient
import Autoplay.Duration
import Autoplay.Files.Operations
import Autoplay.Fleet.Basic
import Autoplay.Fleet.Worker
import Autoplay.Main
import Autoplay.Png.Bits
import Autoplay.Png.Chunk
import Autoplay.Png.Decode
import Autoplay.Png.Deflate
import Autoplay.Proofs.Account.Claiming
import Autoplay.Proofs.Account.Clicking
import Autoplay.Proofs.Account.Exports
import Autoplay.Proofs.Account.Interruption
import Autoplay.Proofs.Account.Leftover
import Autoplay.Proofs.Account.Phases
import Autoplay.Proofs.Account.Tolerance
import Autoplay.Proofs.Fleet.Abandoned
import Autoplay.Proofs.Fleet.Accounting
import Autoplay.Proofs.Fleet.Breakdown
import Autoplay.Proofs.Fleet.Completion
import Autoplay.Proofs.Fleet.Finality
import Autoplay.Proofs.Fleet.Sharing
import Autoplay.Proofs.Fleet.Stops
import Autoplay.Proofs.Queue.Custody
import Autoplay.Proofs.Queue.Handout
import Autoplay.Proofs.Run.Decision
import Autoplay.Proofs.Run.Extent
import Autoplay.Proofs.Run.Failure
import Autoplay.Proofs.Run.Frames
import Autoplay.Proofs.Run.Lockstep
import Autoplay.Proofs.Run.Makeup
import Autoplay.Proofs.Run.Noting
import Autoplay.Proofs.Run.Passes
import Autoplay.Proofs.Run.Polling
import Autoplay.Proofs.Run.Position
import Autoplay.Proofs.Run.Rehearsal
import Autoplay.Proofs.Run.Repetition
import Autoplay.Proofs.Run.Succession
import Autoplay.Proofs.Run.Unstopped
import Autoplay.Proofs.Workflow.Choosing
import Autoplay.Proofs.Workflow.Grouping
import Autoplay.Proofs.Workflow.Returning
import Autoplay.Queue.Encode
import Autoplay.Queue.Storage
import Autoplay.Recognition.NameMatch
import Autoplay.Recognition.Preparation
import Autoplay.Recognition.Reader
import Autoplay.Rehearsal.Description
import Autoplay.Rehearsal.Drawing
import Autoplay.Rehearsal.FleetStage
import Autoplay.Rehearsal.Stage
import Autoplay.Rehearsal.Tools
import Autoplay.Run.Errand
import Autoplay.Run.Signal
import Autoplay.Settings.Decode
import Autoplay.Settings.Encode
import Autoplay.Storage
import Autoplay.Text.Compatibility
import Autoplay.Text.Lines
import Autoplay.Text.Lowercase
import Autoplay.Text.Part
import Autoplay.Text.Utf8
import Autoplay.Toml.Reader
import Autoplay.Tool
import Autoplay.Vision.Matcher
import Autoplay.Vision.Picture
import Autoplay.Workflow.Encode
import Autoplay.Workflow.Selection
import Autoplay.Workflow.Validation
import Autoplay.Proofs.Recognition.EditDistance
import Autoplay.Proofs.Recognition.CommonLength
import Autoplay.Proofs.Recognition.Halves
import Autoplay.Proofs.Single.Order
import Autoplay.Proofs.Text.Solid
import Autoplay.Proofs.Recognition.Priority
import Autoplay.Proofs.Text.Plain
import Autoplay.Proofs.Files.Renaming
import Autoplay.Proofs.Queue.Refusal
import Autoplay.Proofs.Queue.Replacing
import Autoplay.Proofs.Queue.Nesting
import Autoplay.Proofs.Single.Bits
import Autoplay.Proofs.Vision.Peaks
import Autoplay.Proofs.Vision.Windows
import Autoplay.Proofs.Single.Sign
import Autoplay.Proofs.Vision.Hits
import Autoplay.Proofs.Vision.Agreement
import Autoplay.Proofs.Device.Listing
import Autoplay.Proofs.Device.Quoting
import Autoplay.Proofs.Workflow.Additions
