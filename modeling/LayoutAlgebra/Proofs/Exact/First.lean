import LayoutAlgebra.Number.Basic
import LayoutAlgebra.Proofs.Exact.Order
set_option autoImplicit false

namespace LayoutAlgebra

namespace Extended

def lesser (x y : Extended) : Extended := if x.le y then x else y

def greater (x y : Extended) : Extended := if y.le x then x else y

end Extended

structure First (before : Extended → Extended → Bool) (m : Double) (xs : List Double) : Prop where
  among : ∃ x ∈ xs, x.extended = m.extended
  all : ∀ x ∈ xs, before m.extended x.extended = true

structure Keeping (choose : Double → Double → Double) (before : Extended → Extended → Bool) : Prop where
  either : ∀ x y, choose x y = x ∨ choose x y = y
  first : ∀ x y : Double, x.extended ≠ .undefined → y.extended ≠ .undefined →
    before (choose x y).extended x.extended = true ∧ before (choose x y).extended y.extended = true
  trans : ∀ x y z, before x y = true → before y z = true → before x z = true
  antisymm : ∀ x y, before x y = true → before y x = true → x = y
  refl : ∀ x, x ≠ .undefined → before x x = true

theorem nan_undefined (x : Double) (defined : x.extended ≠ .undefined) : x.isNaN = false := by
  cases x <;> first
    | rfl
    | exact absurd rfl defined

theorem not_less (x y : Extended) (left : x ≠ .undefined) (right : y ≠ .undefined) (notLess : x.lt y = false) :
    y.le x = true := by
  by_contra above
  rw [(extended_lt_iff x y).mpr ⟨left, right, by simpa using above⟩] at notLess
  cases notLess

theorem less_below (x y : Extended) (less : x.lt y = true) : x.le y = true :=
  (Bool.and_eq_true_iff.mp less).1

theorem one_of_two (x y : Double) (ahead : Bool) :
    (if x.isNaN then x else if y.isNaN then y else if ahead then x else y) = x ∨
      (if x.isNaN then x else if y.isNaN then y else if ahead then x else y) = y := by
  split
  · exact .inl rfl
  · split
    · exact .inr rfl
    · cases ahead with
      | true => exact .inl rfl
      | false => exact .inr rfl

theorem least_keeps : Keeping Double.least fun x y => x.le y where
  either x y := one_of_two x y _
  first x y left right := by
    simp only [Double.least, nan_undefined x left, nan_undefined y right, Bool.false_eq_true, if_false]
    cases less : x.extended.lt y.extended with
    | true => exact ⟨extended_le_refl _ left, less_below _ _ less⟩
    | false => exact ⟨not_less _ _ left right less, extended_le_refl _ right⟩
  trans := extended_le_trans
  antisymm := extended_le_antisymm
  refl := extended_le_refl

theorem greatest_keeps : Keeping Double.greatest fun x y => y.le x where
  either x y := one_of_two x y _
  first x y left right := by
    simp only [Double.greatest, nan_undefined x left, nan_undefined y right, Bool.false_eq_true, if_false]
    cases less : y.extended.lt x.extended with
    | true => exact ⟨extended_le_refl _ left, less_below _ _ less⟩
    | false => exact ⟨not_less _ _ right left less, extended_le_refl _ right⟩
  trans x y z first second := extended_le_trans z y x second first
  antisymm x y first second := extended_le_antisymm x y second first
  refl := extended_le_refl

section

variable {choose : Double → Double → Double} {before : Extended → Extended → Bool} (keeping : Keeping choose before)
include keeping

theorem fold_first (x : Double) (xs : List Double) (defined : ∀ y ∈ x :: xs, y.extended ≠ .undefined) :
    First before (xs.foldl choose x) (x :: xs) := by
  induction xs generalizing x with
  | nil =>
      refine ⟨⟨x, List.mem_singleton.mpr rfl, rfl⟩, fun y member => ?_⟩
      rw [List.mem_singleton.mp member]
      exact keeping.refl _ (defined x List.mem_cons_self)
  | cons y rest ih =>
      have left := defined x (by simp)
      have right := defined y (by simp)
      have chosen : (choose x y).extended ≠ .undefined := by
        rcases keeping.either x y with same | same <;> rw [same] <;> assumption
      obtain ⟨overFirst, overSecond⟩ := keeping.first x y left right
      have tail := ih (choose x y) fun z member => by
        rcases List.mem_cons.mp member with rfl | later
        · exact chosen
        · exact defined z (by simp [later])
      have before := tail.all (choose x y) List.mem_cons_self
      refine ⟨?_, fun z member => ?_⟩
      · obtain ⟨z, among, place⟩ := tail.among
        rcases List.mem_cons.mp among with rfl | later
        · rcases keeping.either x y with same | same
          · exact ⟨x, by simp, (congrArg Double.extended same).symm.trans place⟩
          · exact ⟨y, by simp, (congrArg Double.extended same).symm.trans place⟩
        · exact ⟨z, by simp [later], place⟩
      · rcases List.mem_cons.mp member with rfl | later
        · exact keeping.trans _ _ _ before overFirst
        · rcases List.mem_cons.mp later with rfl | last
          · exact keeping.trans _ _ _ before overSecond
          · exact tail.all z (List.mem_cons_of_mem _ last)

theorem first_unique (m n : Double) (xs ys : List Double) (left : First before m xs) (right : First before n ys)
    (same : ∀ x, x ∈ xs ↔ x ∈ ys) : m.extended = n.extended := by
  obtain ⟨x, member, place⟩ := left.among
  obtain ⟨y, memberToo, placeToo⟩ := right.among
  have forth := left.all y ((same y).mpr memberToo)
  have back := right.all x ((same x).mp member)
  rw [placeToo] at forth
  rw [place] at back
  exact keeping.antisymm _ _ forth back

theorem first_joined (m n k : Double) (xs ys : List Double) (left : First before m xs) (right : First before n ys)
    (whole : First before k (xs ++ ys)) :
    k.extended = if before m.extended n.extended then m.extended else n.extended := by
  have overLeft : before k.extended m.extended = true := by
    obtain ⟨x, member, place⟩ := left.among
    exact place ▸ whole.all x (List.mem_append_left ys member)
  have overRight : before k.extended n.extended = true := by
    obtain ⟨y, member, place⟩ := right.among
    exact place ▸ whole.all y (List.mem_append_right xs member)
  obtain ⟨z, among, place⟩ := whole.among
  rcases List.mem_append.mp among with inside | inside
  · have same : k.extended = m.extended := keeping.antisymm _ _ overLeft (place ▸ left.all z inside)
    rw [if_pos (same ▸ overRight), same]
  · have same : k.extended = n.extended := keeping.antisymm _ _ overRight (place ▸ right.all z inside)
    split
    · rename_i ahead
      exact keeping.antisymm _ _ overLeft (same ▸ ahead)
    · exact same

end

theorem minimum_first (xs : List Double) (filled : xs ≠ []) (defined : ∀ x ∈ xs, x.extended ≠ .undefined) :
    First (fun x y => x.le y) (.minimum xs) xs := by
  cases xs with
  | nil => exact absurd rfl filled
  | cons x xs => exact fold_first least_keeps x xs defined

theorem maximum_first (xs : List Double) (filled : xs ≠ []) (defined : ∀ x ∈ xs, x.extended ≠ .undefined) :
    First (fun x y => y.le x) (.maximum xs) xs := by
  cases xs with
  | nil => exact absurd rfl filled
  | cons x xs => exact fold_first greatest_keeps x xs defined

end LayoutAlgebra
