import Leftmost.Boundary
import Leftmost.Expression
import Leftmost.Proofs.Registry.Ledger
import Leftmost.Proofs.Text.Offsets
import Leftmost.Proofs.Verdict.Calls
import Leftmost.Proofs.Verdict.Joined
import Leftmost.Proofs.Verdict.Steady
import Leftmost.Proofs.Verdict.Recounted
import Leftmost.Proofs.Registry.Generation
import Leftmost.Proofs.Registry.Occupancy
import Leftmost.Proofs.Registry.Search
import Leftmost.Proofs.Text.Mended
import Leftmost.Proofs.Expression
import Leftmost.Proofs.Scanner.Sources
import Leftmost.Proofs.Scanner.Aligned
import Leftmost.Proofs.Scanner.Start
import Leftmost.Proofs.Scanner.Built
import Leftmost.Proofs.Scanner.PastEnd
import Leftmost.Proofs.Captures
import Leftmost.Proofs.Text.Width
import Leftmost.Proofs.Compiled.Context
import Leftmost.Proofs.Registry.Engines
import Leftmost.Proofs.Boundary.LastError
import Leftmost.Proofs.Boundary.Frame
import Leftmost.Proofs.Boundary.Told
import Leftmost.Proofs.Boundary.Tokens
import Leftmost.Proofs.Boundary.Result
import Leftmost.Proofs.Text.Cut
import Leftmost.Proofs.Text.Probed
import Leftmost.Proofs.Registry.Disposal
import Leftmost.Proofs.Settings.Given
import Leftmost.Proofs.Settings.Written
