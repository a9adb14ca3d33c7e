import LayoutAlgebra.Proofs.Exact.Measurement
import LayoutAlgebra.Proofs.Keys
set_option autoImplicit false

namespace LayoutAlgebra

def Value.double? : Value → Option Double
  | .number _ (.double x) => some x
  | _ => .none

def Double.ruler : Arithmetic Option Double where
  zero := .zero false
  add x y := some (x + y)
  sub x y := some (x - y)
  half x := some (x / .round 2)

def Frame.size? (f : Frame Value) (what : Measure) : Option Double := (f.measure what).toOption.bind Value.double?

def Frame.OfDoubles (f : Frame Value) : Prop := ∀ what, (f.size? what).isSome = true

namespace Table

variable (frames : Table)

def OfDoubles : Prop := ∀ entry ∈ frames, ∃ mark f, entry.2 = .frame mark f ∧ f.OfDoubles

def lacks (element : Value) : Bool := (frames.get? element).isNone

def place? (element what : Value) : Option Double :=
  match frames.get? element, what with
  | some (.frame _ f), .attr attr => attr.resolve Double.ruler f.size?
  | _, _ => none

end Table

theorem double_value (v : Value) (x : Double) : v.double? = some x ↔ ∃ mark, v = .number mark (.double x) := by
  constructor
  · intro double
    cases v with
    | number mark n =>
        cases n with
        | int k => cases double
        | double y => exact ⟨mark, by rw [Option.some.inj double]⟩
    | _ => cases double
  · rintro ⟨mark, rfl⟩
    rfl

section

variable (around : Surroundings)

theorem calculated_doubles (op : Operation) (v w : Value) (x y : Double) (left : v.double? = some x)
    (right : w.double? = some y)
    (computed : op.onNumbers (.double x) (.double y) = .ok (.double (op.onDoubles x y))) :
    ∃ u, around.calculate op op.onValues v w = .ok u ∧ u.double? = some (op.onDoubles x y) := by
  obtain ⟨_, rfl⟩ := (double_value v x).mp left
  obtain ⟨_, rfl⟩ := (double_value w y).mp right
  refine ⟨.double (op.onDoubles x y), ?_, rfl⟩
  rw [calculate_numbers around op _ _ (.double x) (.double y) rfl rfl,
    on_values_numbers op _ _ (.double x) (.double y) rfl rfl, computed]
  rfl

theorem halved_double (v : Value) (x : Double) (left : v.double? = some x) :
    ∃ u, around.div v (.int 2) = .ok u ∧ u.double? = some (x / .round 2) := by
  obtain ⟨mark, rfl⟩ := (double_value v x).mp left
  have two : (Number.int 2).toDouble = .ok (.round 2) := by decide +kernel
  have some : (Double.round 2).extended ≠ .rational 0 := by decide +kernel
  have computed : Number.div (.double x) (.int 2) = .ok (.double (x / .round 2)) := by
    simp only [Number.div, two, bind, Except.bind, some, if_false]
    rfl
  have divided := calculate_numbers around .div (.number mark (.double x)) (.int 2) (.double x) (.int 2) rfl rfl
  rw [on_values_numbers .div _ _ (.double x) (.int 2) rfl rfl] at divided
  simp only [Operation.onNumbers, computed] at divided
  exact ⟨_, divided, rfl⟩

theorem ruler_refines : Refines around.ruler Double.ruler fun v x => v.double? = some x where
  zero := rfl
  add v w x y _ left right sum := Option.some.inj sum ▸ calculated_doubles around .add v w x y left right rfl
  sub v w x y _ left right difference :=
    Option.some.inj difference ▸ calculated_doubles around .sub v w x y left right rfl
  half v x _ left part := Option.some.inj part ▸ halved_double around v x left

theorem resolve_some (attr : Attribute) (size? : Measure → Option Double) (sizes : ∀ what, (size? what).isSome = true) :
    (attr.resolve Double.ruler size?).isSome = true := by
  have known : size? = fun what => some ((size? what).get (sizes what)) := by
    funext what
    exact (Option.some_get (sizes what)).symm
  rw [known]
  cases attr <;> rfl

theorem frame_size (f : Frame Value) (what : Measure) (x : Double) (size : f.size? what = some x) :
    ∃ v, f.measure what = .ok v ∧ v.double? = some x := by
  obtain ⟨v, found, double⟩ := Option.bind_eq_some_iff.mp size
  exact ⟨v, Fallible.ok_of_to_option _ v found, double⟩

variable (frames : Table)

theorem place_read (element what : Value) (x : Double) (key : element.isKey = true)
    (placed : frames.place? element what = some x) :
    ∃ v, frames.attributeValue around element what = .ok v ∧ ∃ mark, v = .number mark (.double x) := by
  unfold Table.place? at placed
  split at placed
  · rename_i mark f attr found
    obtain ⟨v, computed, double⟩ := resolve_refines _ _ _ (ruler_refines around) f.measure f.size? (frame_size f) attr x
      placed
    refine ⟨v, ?_, (double_value v x).mp double⟩
    simp only [Table.attributeValue, key, found, if_true, Frame.value, Frame.attributeValue, computed]
    rfl
  · cases placed

variable (doubles : frames.OfDoubles)
include doubles

theorem place_defined (element what : Value) (named : ∃ attr, what = .attr attr) (has : frames.lacks element = false) :
    ∃ x, frames.place? element what = some x := by
  obtain ⟨attr, rfl⟩ := named
  unfold Table.lacks at has
  cases found : frames.get? element with
  | none => simp [found] at has
  | some content =>
      obtain ⟨entry, listed, rfl⟩ := Option.map_eq_some_iff.mp found
      obtain ⟨mark, f, framed, sizes⟩ := doubles entry (List.mem_of_find?_eq_some listed)
      obtain ⟨x, resolved⟩ := Option.isSome_iff_exists.mp (resolve_some attr f.size? sizes)
      rw [framed] at found
      exact ⟨x, by simp only [Table.place?, found, resolved]⟩

theorem attribute_read (element what : Value) (key : element.isKey = true) (named : ∃ attr, what = .attr attr) :
    (frames.lacks element = true ∧ frames.attributeValue around element what = .error (.noFrame element)) ∨
      frames.lacks element = false ∧
        ∃ v n, frames.attributeValue around element what = .ok v ∧ v.number? = some n := by
  cases has : frames.lacks element with
  | true =>
      have found : frames.get? element = none := by simpa [Table.lacks] using has
      exact .inl ⟨rfl, by simp [Table.attributeValue, key, found]⟩
  | false =>
      obtain ⟨x, placed⟩ := place_defined frames doubles element what named has
      obtain ⟨_, read, other, rfl⟩ := place_read around frames element what x key placed
      exact .inr ⟨rfl, _, _, read, rfl⟩

end

def plainFrame (x y width height : Double) : Frame Value :=
  ⟨.double x, .double y, .double width, .double height, .insets .new (.uniform .noMeasure)⟩

theorem plain_frame_doubles (x y width height : Double) : (plainFrame x y width height).OfDoubles := by
  intro what
  cases what with
  | margin side => cases side <;> rfl
  | _ => rfl

def besideFrames : Table :=
  [(.view 0, .frame .new (plainFrame (.zero false) (.zero false) (.round 50) (.round 20))),
    (.view 1, .frame .new (plainFrame (.round 50) (.zero false) (.round 100) (.round 20)))]

theorem beside_frames_doubles : besideFrames.OfDoubles := by
  unfold besideFrames Table.OfDoubles
  simp only [List.forall_mem_cons, List.not_mem_nil, false_implies, implies_true, and_true]
  exact ⟨⟨_, _, rfl, plain_frame_doubles _ _ _ _⟩, _, _, rfl, plain_frame_doubles _ _ _ _⟩

end LayoutAlgebra
