import LayoutAlgebra.Proofs.CommonAncestor
import LayoutAlgebra.Proofs.Geometry.Box
set_option autoImplicit false

namespace LayoutAlgebra

section

variable (amount : Value)

section

variable (around : Surroundings) (mark : Mark) (w : ViewId)

end

end

namespace Scene

section

variable (boxes : ViewId → Box) (v w : ViewId) (a b : Attribute) (constant priority : Value) (p q k : Rat)

end

variable {s : Scene} (v w : ViewId) (margins priority : Value) (onMargins ofMargins : Bool)

end Scene

end LayoutAlgebra
