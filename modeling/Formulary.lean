import Formulary.Catalogue
import Formulary.Formula.Phrase
import Formulary.Formula.StackValue
import Formulary.Formula.Substitution
import Formulary.Token.Balance
import Formulary.Token.Pile
import Formulary.Proofs.Grammar.Loose
import Formulary.Proofs.Grammar.Reading
import Formulary.Proofs.Grammar.Acceptance
import Formulary.Proofs.Number.Double
import Formulary.Proofs.Number.Nearest
import Formulary.Proofs.Number.Numeral
import Formulary.Proofs.Number.Closest
import Formulary.Proofs.Number.NearestDouble
import Formulary.Proofs.Number.Opposite
import Formulary.Proofs.Number.Shortest
import Formulary.Proofs.Ledger
import Formulary.Proofs.Memo
import Formulary.Proofs.Memo.Recent
import Formulary.Proofs.Memo.Sharing
import Formulary.Proofs.Refinement
import Formulary.Proofs.Scan.Cut
import Formulary.Proofs.Scan.PieceByPiece
import Formulary.Proofs.Atomicity
import Formulary.Proofs.Balance
import Formulary.Proofs.Contents
import Formulary.Proofs.Refusal
import Formulary.Proofs.Spacing
import Formulary.Proofs.Substitution
import Formulary.Proofs.Value
import Formulary.Proofs.Assembly
import Formulary.Proofs.ReversePolish
import Formulary.Proofs.Pile
import Formulary.Proofs.StackValue
import Formulary.Proofs.Reread
import Formulary.Proofs.Identity
import Formulary.Proofs.Unambiguous
import Formulary.Proofs.Literal
import Formulary.Proofs.Constant
