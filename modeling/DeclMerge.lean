import DeclMerge.Program.Basic
import DeclMerge.Proofs.Catalog.Identity
import DeclMerge.Proofs.Catalog.Merging
import DeclMerge.Proofs.Catalog.Overloads
import DeclMerge.Proofs.Catalog.Separation
import DeclMerge.Proofs.Program.Turns
import DeclMerge.Proofs.Program.Failing
import DeclMerge.Proofs.Catalog.Reordering
import DeclMerge.Proofs.Catalog.Numbering
import DeclMerge.Proofs.Output.Mirror
import DeclMerge.Proofs.Catalog.Mirror
import DeclMerge.Proofs.Program.Mirror
import DeclMerge.Proofs.Program.Apart
import DeclMerge.Proofs.Syntax.Legible
import DeclMerge.Proofs.Catalog.Legible
import DeclMerge.Proofs.Symbol.Path
import DeclMerge.Proofs.Catalog.Namespaces
import DeclMerge.Proofs.Catalog.Spelling
import DeclMerge.Proofs.Syntax.Copy
import DeclMerge.Proofs.Shape.Parts
import DeclMerge.Proofs.Catalog.Again
import DeclMerge.Proofs.Catalog.Copies
import DeclMerge.Proofs.Syntax.SameRows
import DeclMerge.Proofs.Text.Words
import DeclMerge.Proofs.Program.Naming
import DeclMerge.Proofs.Catalog.Formatting
import DeclMerge.Proofs.Program.Exchanges
import DeclMerge.Proofs.Program.Sessions
import DeclMerge.Proofs.Text.Separators
import DeclMerge.Proofs.Text.Squeezed
import DeclMerge.Proofs.Catalog.Literals
import DeclMerge.Proofs.Catalog.Wrappers
import DeclMerge.Proofs.Syntax.Ranges
import DeclMerge.Proofs.Shape.Footprint
import DeclMerge.Proofs.Text.Tidy
import DeclMerge.Proofs.Program.Supply
import DeclMerge.Proofs.Program.Steps
import DeclMerge.Proofs.Program.Signatures
import DeclMerge.Proofs.Program.Growing
import DeclMerge.Proofs.Catalog.Log
