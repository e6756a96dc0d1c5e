import TargetHelp.Arguments.Namespace
import TargetHelp.Fault.Arguments
import TargetHelp.Main
import TargetHelp.Program
import TargetHelp.Proofs.Json.Escape
import TargetHelp.Proofs.Json.Object
import TargetHelp.Proofs.Text.Line
import TargetHelp.Proofs.Node.Codec
import TargetHelp.Proofs.Diagnostics.Agreement
import TargetHelp.Proofs.Render.Collect
import TargetHelp.Proofs.Render.AllOrNothing
import TargetHelp.Proofs.Render.Documented
import TargetHelp.Proofs.Arguments.GlobalFlags
import TargetHelp.Proofs.Arguments.Interleaving
import TargetHelp.Proofs.Run.Silence
import TargetHelp.Proofs.Run.Pipeline
import TargetHelp.Proofs.Session.HintsOnce
import TargetHelp.Proofs.Session.Verbosity
import TargetHelp.Proofs.Session.Failure
import TargetHelp.Proofs.Session.Tracing
import TargetHelp.Proofs.Node.FirstBadLine
import TargetHelp.Proofs.Run.WholeView
import TargetHelp.Proofs.Run.Configured
import TargetHelp.Proofs.Json.Surrogates
import TargetHelp.Proofs.Node.Reencoding
import TargetHelp.Proofs.Node.Composition
import TargetHelp.Proofs.Render.LongView
import TargetHelp.Proofs.Render.Views
import TargetHelp.Proofs.Run.Wall
import TargetHelp.Proofs.Render.ByteOrder
import TargetHelp.Proofs.Node.Grammar
import TargetHelp.Proofs.Settings.Nearest
import TargetHelp.Proofs.Session.Emission
import TargetHelp.Proofs.Render.ShortView
import TargetHelp.Proofs.Session.ErrorReports
import TargetHelp.Proofs.Node.LineEnds
import TargetHelp.Proofs.Run.Tip
import TargetHelp.Proofs.Json.Brief
import TargetHelp.Proofs.Render.Indentation
import TargetHelp.Proofs.Parser.Listing
import TargetHelp.Proofs.Sorting.Rearrangement
import TargetHelp.Proofs.Sorting.Runs
import TargetHelp.Proofs.Sorting.Merging
import TargetHelp.Proofs.Sorting.Stable
import TargetHelp.Proofs.Render.Drafts
