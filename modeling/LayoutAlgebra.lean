import LayoutAlgebra.Proofs.Acceptance
import LayoutAlgebra.Proofs.Anchoring
import LayoutAlgebra.Proofs.Assignment
import LayoutAlgebra.Proofs.Batch
import LayoutAlgebra.Proofs.Between
import LayoutAlgebra.Proofs.Chain.NormalForm
import LayoutAlgebra.Proofs.ChainedComparison
import LayoutAlgebra.Proofs.Combinators
import LayoutAlgebra.Proofs.Exact.Columns
import LayoutAlgebra.Proofs.Exact.Order
import LayoutAlgebra.Proofs.Geometry.Box
import LayoutAlgebra.Proofs.Geometry.Group
import LayoutAlgebra.Proofs.Meaning
import LayoutAlgebra.Proofs.Priority.Unchecked
import LayoutAlgebra.Proofs.Rehearsal
import LayoutAlgebra.Proofs.Relocation
import LayoutAlgebra.Proofs.Report.Summary
import LayoutAlgebra.Proofs.Report.Violations
import LayoutAlgebra.Proofs.Traversal
import LayoutAlgebra.Proofs.WellFormed
import LayoutAlgebra.Proofs.Wording
import LayoutAlgebra.Script.Evaluation
