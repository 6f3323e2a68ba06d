import Reckon.Main
import Reckon.Record
import Reckon.Expr
import Reckon.Decimal.RoundTrip
import Reckon.Proofs.Nesting
import Reckon.Proofs.Tokenize
import Reckon.Proofs.Grouping
import Reckon.Proofs.Pipeline
import Reckon.Proofs.Rendering
import Reckon.Proofs.Moves
import Reckon.Proofs.Balance
import Reckon.Proofs.Infix
import Reckon.Proofs.Slices
import Reckon.Proofs.Blame
import Reckon.Proofs.Relocation
import Reckon.Proofs.Blanks
import Reckon.Proofs.Order
import Reckon.Proofs.Cutoff
import Reckon.Proofs.Enclosure
import Reckon.Proofs.Seams
import Reckon.Proofs.Composition
import Reckon.Proofs.Grammar
import Reckon.Proofs.Substitution
import Reckon.Proofs.Printing
import Reckon.Proofs.Records
import Reckon.Proofs.Partners
import Reckon.Proofs.Lexical
import Reckon.Proofs.Precedence
import Reckon.Proofs.Faults
import Reckon.Proofs.Atoms
import Reckon.Proofs.Coverage
import Reckon.Proofs.Conservation
import Reckon.Proofs.Resumption
import Reckon.Proofs.Removal
import Reckon.Proofs.Divisors
import Reckon.Proofs.Waiting
import Reckon.Proofs.Pending
