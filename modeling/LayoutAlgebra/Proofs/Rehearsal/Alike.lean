import LayoutAlgebra.Accessor
import LayoutAlgebra.Proofs.Compilation
import LayoutAlgebra.Proofs.Rehearsal.Standalone
set_option autoImplicit false

namespace LayoutAlgebra

theorem Grid.places_alike (f g : Value → Value → Fallible Bool)
    (same : ∀ v w : Value, v.standsAlone = true → w.standsAlone = true → f v w = g v w) (a b : Cells Value)
    (alone : a.StandAlone) (aloneToo : b.StandAlone) :
    (a.values.paired b.values >>= fun pairs => pairs.mapM fun (v, w) => f v w) =
      a.values.paired b.values >>= fun pairs => pairs.mapM fun (v, w) => g v w := by
  refine Fallible.bind_alike _ _ _ _ rfl fun pairs paired => mapM_alike _ _ pairs fun pair member => ?_
  obtain ⟨left, right⟩ := paired_source _ _ pairs paired pair member
  exact same pair.1 pair.2 (alone pair.1 left) (aloneToo pair.2 right)

theorem int_alone (n : Int) : (Value.int n).standsAlone = true := rfl

theorem Value.only_entry_source (cells : Cells Value) (entry : Value) (found : Value.onlyEntry cells = .ok entry) :
    entry ∈ cells.values.entries := by
  unfold Value.onlyEntry Grid.only? at found
  split at found
  · rename_i only
    split at only
    · rename_i single
      rw [single, ← Except.ok.inj found, ← Option.some.inj only]
      exact List.mem_singleton_self _
    · cases only
  · cases found

namespace Surroundings

variable (around other : Surroundings)

theorem places_alike (f g : Value → Value → Fallible Bool)
    (same : ∀ v w : Value, v.standsAlone = true → w.standsAlone = true → f v w = g v w) (a b : Value)
    (alone : a.standsAlone = true) (aloneToo : b.standsAlone = true) :
    around.betweenCells .comparison (Cells.agree fun v w => v.agree f w) a b =
      other.betweenCells .comparison (Cells.agree fun v w => v.agree g w) a b := by
  apply between_alike around other .comparison _ _ _ a b alone aloneToo
  intro x y left right
  simp only [Cells.agree, Grid.places_alike _ _ (Value.agree_alike f g same).1 x y left right]

theorem follow_alike (depth : Nat) (a b : Value) (alone : a.standsAlone = true) (aloneToo : b.standsAlone = true) :
    around.follow depth a b = other.follow depth a b := by
  induction depth generalizing a b with
  | zero => rfl
  | succ depth ih =>
      have items := (Value.agree_alike (around.follow depth) (other.follow depth) ih).2.2
      simp only [follow, places_alike around other _ _ ih a b alone aloneToo, opened_alone around a alone,
        opened_alone around b aloneToo, opened_alone other a alone, opened_alone other b aloneToo]
      split
      · rfl
      · cases a with
        | list m xs =>
            cases b with
            | list n ys => exact if_congr Iff.rfl (items xs ys alone aloneToo) rfl
            | _ => rfl
        | recording k => cases alone
        | _ => rfl

theorem difference_source (xs ys : List Value) (x y : Value) (found : around.difference? xs ys = .ok (some (x, y))) :
    x ∈ xs ∧ y ∈ ys := by
  fun_induction difference? around xs ys with
  | case1 a xs b ys ih =>
      obtain ⟨here, _, found⟩ := (Fallible.bind_ok_iff _ _ _).mp found
      split at found
      · obtain ⟨left, right⟩ := ih found
        exact ⟨List.mem_cons_of_mem a left, List.mem_cons_of_mem b right⟩
      · obtain ⟨rfl, rfl⟩ := Prod.mk.inj (Option.some.inj (Except.ok.inj found))
        exact ⟨List.mem_cons_self, List.mem_cons_self⟩
  | case2 => cases found

variable {a b : Value}

theorem equal_alike (alone : a.standsAlone = true) (aloneToo : b.standsAlone = true) :
    around.equal a b = other.equal a b :=
  (Value.agree_alike _ _ (follow_alike around other depth)).1 a b alone aloneToo

theorem same_alike (alone : a.standsAlone = true) (aloneToo : b.standsAlone = true) :
    around.same a b = other.same a b := by
  simp only [same, equal_alike around other alone aloneToo]

theorem equality_alike (wanted : Bool) (alone : a.standsAlone = true) (aloneToo : b.standsAlone = true) :
    around.equality wanted a b = other.equality wanted a b := by
  simp only [equality, equalPlaces?, places_alike around other _ _ (follow_alike around other depth) a b alone aloneToo,
    equal_alike around other alone aloneToo]

theorem equals_alike (n : Int) (alone : a.standsAlone = true) : around.equals a n = other.equals a n := by
  simp only [equals, equality_alike around other true alone (int_alone n)]

theorem difference_alike (xs ys : List Value) (each : ∀ x ∈ xs, x.standsAlone = true)
    (eachToo : ∀ y ∈ ys, y.standsAlone = true) : around.difference? xs ys = other.difference? xs ys := by
  induction xs generalizing ys with
  | nil => rfl
  | cons x xs ih =>
      cases ys with
      | nil => rfl
      | cons y ys =>
          have later := ih ys (fun v member => each v (by simp [member])) fun v member => eachToo v (by simp [member])
          have here := same_alike around other (each x (by simp)) (eachToo y (by simp))
          simp only [difference?, here, later]

def compareFirst (around : Surroundings) (c : Comparison) (depth : Nat) (xs ys : List Value) :
    Option (Value × Value) → Fallible Verdict
  | some (x, y) => around.compareTo c depth x y
  | none => .ok (.settled (c.onLengths xs.length ys.length))

theorem compare_to_alike (c : Comparison) (depth : Nat) (alone : a.standsAlone = true)
    (aloneToo : b.standsAlone = true) : around.compareTo c depth a b = other.compareTo c depth a b := by
  induction depth generalizing a b with
  | zero => rfl
  | succ depth ih =>
      have places := between_alike around other .comparison
        (Cells.compare c fun v w => do (← around.compareTo c depth v w).truth)
        (Cells.compare c fun v w => do (← other.compareTo c depth v w).truth) (fun x y left right => by
          simp only [Cells.compare, Grid.places_alike (fun v w => do (← around.compareTo c depth v w).truth)
            (fun v w => do (← other.compareTo c depth v w).truth) (fun v w left right => by rw [ih left right])
            x y left right]) a b alone aloneToo
      have sequences : ∀ xs ys : List Value, Value.allStandAlone xs = true → Value.allStandAlone ys = true →
          (around.difference? xs ys >>= around.compareFirst c depth xs ys) =
            (other.difference? xs ys >>= other.compareFirst c depth xs ys) := by
        intro xs ys alone aloneToo
        have each := (Value.all_alone_iff xs).mp alone
        have eachToo := (Value.all_alone_iff ys).mp aloneToo
        refine Fallible.bind_alike _ _ _ _ (difference_alike around other xs ys each eachToo) fun first found => ?_
        cases first with
        | none => rfl
        | some pair =>
            obtain ⟨left, right⟩ := difference_source other xs ys pair.1 pair.2 found
            exact ih (each _ left) (eachToo _ right)
      simp only [compareTo, places, opened_alone around a alone, opened_alone around b aloneToo,
        opened_alone other a alone, opened_alone other b aloneToo]
      split
      · rfl
      · cases a with
        | list m xs =>
            cases b with
            | list n ys => exact sequences xs ys alone aloneToo
            | _ => rfl
        | tuple m xs =>
            cases b with
            | tuple n ys => exact sequences xs ys alone aloneToo
            | _ => rfl
        | _ => rfl

theorem compare_alike (c : Comparison) (alone : a.standsAlone = true) (aloneToo : b.standsAlone = true) :
    around.compare c a b = other.compare c a b :=
  compare_to_alike around other c depth alone aloneToo

theorem chain_alike (low high : Value) (least : low.standsAlone = true) (alone : a.standsAlone = true)
    (most : high.standsAlone = true) : around.chain low a high = other.chain low a high := by
  simp only [chain, compare_alike around other .le least alone, compare_alike around other .le alone most]

theorem truth_of_one_alike (alone : a.standsAlone = true) : around.truthOfOne a = other.truthOfOne a := by
  simp only [truthOfOne, opened_alone around a alone, opened_alone other a alone]
  cases a with
  | recording k => cases alone
  | _ => rfl

theorem truth_alike (alone : a.standsAlone = true) : around.truth a = other.truth a := by
  cases a with
  | array mark cells =>
      refine Fallible.bind_alike _ _ _ _ rfl fun entry found => truth_of_one_alike around other ?_
      exact array_cells_alone mark cells alone entry (Value.only_entry_source cells entry found)
  | _ => exact truth_of_one_alike around other alone

theorem calculate_alike (op : Operation) (single : Value → Value → Fallible Value) (alone : a.standsAlone = true)
    (aloneToo : b.standsAlone = true) : around.calculate op single a b = other.calculate op single a b := by
  have places := between_alike around other op.purpose (Cells.combine op single) (Cells.combine op single)
    (fun _ _ _ _ => rfl) a b alone aloneToo
  simp only [calculate, places, opened_alone around a alone, opened_alone around b aloneToo,
    opened_alone other a alone, opened_alone other b aloneToo]

theorem proportion_alike (alone : a.standsAlone = true) (aloneToo : b.standsAlone = true) :
    proportion around a b = proportion other a b := by
  simp only [proportion, equals_alike around other 0 aloneToo, div,
    calculate_alike around other .div Value.div alone aloneToo]

theorem range_alike (v : Value) (alone : a.standsAlone = true) (aloneToo : b.standsAlone = true) :
    around.range v a b = other.range v a b := by
  simp only [range, lesser, greater, compare_alike around other .lt aloneToo alone,
    compare_alike around other .gt aloneToo alone]

end Surroundings

end LayoutAlgebra
