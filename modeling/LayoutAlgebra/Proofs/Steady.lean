import LayoutAlgebra.Proofs.History
set_option autoImplicit false

namespace LayoutAlgebra.Scene

variable {s t : Scene}

def Steady (s : Scene) : Prop := s.renewals = []

end LayoutAlgebra.Scene
