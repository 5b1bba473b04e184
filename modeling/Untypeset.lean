import Untypeset.Proofs.Formula.Bars
import Untypeset.Proofs.Formula.Braces
import Untypeset.Proofs.Formula.Equations
import Untypeset.Proofs.Formula.Groups
import Untypeset.Proofs.Formula.Legible
import Untypeset.Proofs.Formula.Marks
import Untypeset.Proofs.Formula.Parens
import Untypeset.Proofs.Formula.Spelling
import Untypeset.Proofs.Formula.Termination
import Untypeset.Proofs.Formula.Unseen
import Untypeset.Proofs.Latex.Fusions
import Untypeset.Proofs.Rendering.BoxesAgree
import Untypeset.Proofs.Rendering.DrawingsAgree
import Untypeset.Proofs.Rendering.Glyphs
import Untypeset.Proofs.Rendering.Mirror
import Untypeset.Proofs.Rendering.Mixed
import Untypeset.Proofs.Rendering.Once
import Untypeset.Proofs.Rendering.Parts
import Untypeset.Proofs.Rendering.RadicalSign
import Untypeset.Proofs.Rendering.Retouched
import Untypeset.Proofs.Rendering.Search
import Untypeset.Proofs.Session.Ellipsis
import Untypeset.Proofs.Session.Memory
import Untypeset.Proofs.Session.NotFound
import Untypeset.Proofs.Session.Sized
import Untypeset.Proofs.Symbol.Canonical
import Untypeset.Web.Service
