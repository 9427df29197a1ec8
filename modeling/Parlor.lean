import Parlor.Main
import Parlor.Editor.Terminal
import Parlor.Proofs.Story.Grammar
import Parlor.Proofs.Story.Scan
import Parlor.Proofs.Story.Answers
import Parlor.Proofs.Story.Interview
import Parlor.Proofs.Story.Filling
import Parlor.Proofs.Story.Rescan
import Parlor.Proofs.Story.Splicing
import Parlor.Proofs.Story.Leftover
import Parlor.Proofs.Story.Passages
import Parlor.Proofs.Story.Lines
import Parlor.Proofs.Story.Keys
import Parlor.Proofs.Game.Validity
import Parlor.Proofs.Game.Problems
import Parlor.Proofs.Game.Opening
import Parlor.Proofs.World.Outcomes
import Parlor.Proofs.Session.Lines
import Parlor.Proofs.Session.Readings
import Parlor.Proofs.Session.Transcript
import Parlor.Proofs.World.Faults
import Parlor.Proofs.World.Frame
import Parlor.Proofs.World.Footing
import Parlor.Proofs.World.Items
import Parlor.Proofs.World.Flags
import Parlor.Proofs.World.Walk
import Parlor.Proofs.World.Independence
import Parlor.Proofs.World.Surroundings
import Parlor.Proofs.World.Description
import Parlor.Proofs.World.Holders
import Parlor.Proofs.Text.Words
import Parlor.Proofs.Text.Lowercase
import Parlor.Proofs.Command.Names
import Parlor.Proofs.Command.Completion
import Parlor.Proofs.World.Names
import Parlor.Proofs.Json.Objects
import Parlor.Proofs.Game.Writing
import Parlor.Proofs.Help.Alignment
