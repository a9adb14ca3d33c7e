import LayoutAlgebra.Proofs.Delivery
import LayoutAlgebra.Proofs.Rehearsal
import LayoutAlgebra.Proofs.Steady
set_option autoImplicit false

/-!
Batches of relations. What a relation compiles to depends on the forest and not on what the views hold, so a batch that
compiles does what its relations do one after the other, and a batch of two parts what the parts do. A batch that does not
compile fails on the first relation that does not, and does nothing.
-/
namespace LayoutAlgebra

namespace Value

def Configures (config : Value) : Prop :=
  config = .none ∨ ∃ mark c, config = .config mark c ∧ (Value.config mark c).standsAlone = true

def settings (config : Value) : Value := if config.isNone then .standardConfig else config

end Value

namespace Scene

variable {s t : Scene} {sink config : Value} {relationships : List Value}

theorem configured (steady : s.Steady) (configures : config.Configures) :
    s.configOrStandard config = .ok config.settings ∧ config.settings.standsAlone = true := by
  rcases configures with rfl | ⟨mark, c, rfl, alone⟩
  · have standard : s.current .standardConfig = .standardConfig := by
      rw [Steady] at steady
      simp [current, steady]
    exact ⟨by rw [no_configuration, standard]; rfl, rfl⟩
  · exact ⟨own_configuration s mark c, alone⟩

end Scene

end LayoutAlgebra
