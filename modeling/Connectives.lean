import Connectives.Main
import Connectives.Proofs.Command.Decoration
import Connectives.Proofs.Command.PrintedConversions
import Connectives.Proofs.Command.Rejection
import Connectives.Proofs.Conversion.Chain
import Connectives.Proofs.Conversion.Implication
import Connectives.Proofs.Conversion.Restricted
import Connectives.Proofs.Formula.Nodes
import Connectives.Proofs.Formula.Order
import Connectives.Proofs.Grammar.Boundary
import Connectives.Proofs.Grammar.Expected
import Connectives.Proofs.Grammar.Layout
import Connectives.Proofs.Listing.Columns
import Connectives.Proofs.Log.Announcement
import Connectives.Proofs.Random.Formula
import Connectives.Proofs.Truth.Enumeration
import Connectives.Proofs.Truth.Partial
import Connectives.Proofs.Truth.PrintedTable
