import Silbo.Grid
import Silbo.Main
import Silbo.Proofs.Articulation
import Silbo.Proofs.Blame
import Silbo.Proofs.Reachability
import Silbo.Table.Printer
import Silbo.Proofs.Spelling
import Silbo.Proofs.Range
import Silbo.Proofs.Naming
import Silbo.Proofs.Reading
import Silbo.Proofs.Extension
import Silbo.Proofs.Sign
import Silbo.Proofs.Safety
import Silbo.Proofs.Numbering
import Silbo.Proofs.Tiling
import Silbo.Proofs.Decoding
import Silbo.Proofs.Rounding
import Silbo.Proofs.Magnitude
import Silbo.Proofs.Counting
import Silbo.Proofs.Rendering
import Silbo.Proofs.Commanding
import Silbo.Proofs.Calls
import Silbo.Proofs.Circularity
import Silbo.Proofs.Precedence
import Silbo.Proofs.Lookahead
import Silbo.Proofs.Grammar
import Silbo.Proofs.Refusal
import Silbo.Proofs.Folding
import Silbo.Proofs.Spacing
import Silbo.Proofs.Boundary
import Silbo.Proofs.Container
import Silbo.Proofs.Onset
import Silbo.Proofs.Seams
import Silbo.Proofs.Course
import Silbo.Proofs.Flooring
