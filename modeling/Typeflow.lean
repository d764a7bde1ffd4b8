import Typeflow.Command.Demonstration
import Typeflow.Command.Fixtures
import Typeflow.Main
import Typeflow.Playground
import Typeflow.Proofs.Arena.Compression
import Typeflow.Proofs.Arena.Repetition
import Typeflow.Proofs.Arena.Symmetry
import Typeflow.Proofs.Checker.Batches
import Typeflow.Proofs.Checker.Shape
import Typeflow.Proofs.Checker.Soundness
import Typeflow.Proofs.Program.Cycles
import Typeflow.Proofs.Program.Drafts
import Typeflow.Proofs.Program.Extension
import Typeflow.Proofs.Program.Safety
import Typeflow.Proofs.Program.Symbols
import Typeflow.Proofs.Program.Verification
import Typeflow.Proofs.Rendering
import Typeflow.Proofs.Sequence
import Typeflow.Proofs.Text.Utf8
import Typeflow.Proofs.TypeText.Grammar
import Typeflow.Proofs.TypeText.Lexing
import Typeflow.Proofs.TypeText.Recovery
import Typeflow.Proofs.TypeText.Rereading
import Typeflow.Proofs.Unresolvable
