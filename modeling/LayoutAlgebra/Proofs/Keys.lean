import LayoutAlgebra.Value.Equality
set_option autoImplicit false

namespace LayoutAlgebra

theorem same_key_views (v w : ViewId) : (Value.view v).sameKey (.view w) = true ↔ v = w := by
  have compared : (Value.view v).sameKey (.view w) = ((v == w) || (v == w)) := by
    change (match if v == w then (.ok true : Fallible Bool) else .ok (v == w) with | .ok same => same | .error _ => false) = _
    cases v == w <;> rfl
  rw [compared, Bool.or_self, beq_iff_eq]

theorem same_key_view (a : Value) (v : ViewId) : a.sameKey (.view v) = true ↔ a = .view v := by
  cases a with
  | view w => rw [same_key_views, Value.view.injEq]
  | reader read => cases read <;> exact iff_of_false Bool.false_ne_true Value.noConfusion
  | _ => exact iff_of_false Bool.false_ne_true Value.noConfusion

theorem view_same_key (v : ViewId) (b : Value) : (Value.view v).sameKey b = true ↔ b = .view v := by
  cases b with
  | view w => rw [same_key_views, Value.view.injEq, eq_comm]
  | _ => exact iff_of_false Bool.false_ne_true Value.noConfusion

theorem same_key_members (m n : Member) : (Value.member m).sameKey (.member n) = true ↔ m = n := by
  have compared : (Value.member m).sameKey (.member n) = ((m == n) || (m == n)) := by
    change (match if m == n then (.ok true : Fallible Bool) else .ok (m == n) with | .ok same => same | .error _ => false) = _
    cases m == n <;> rfl
  rw [compared, Bool.or_self, beq_iff_eq]

theorem same_key_member (a : Value) (m : Member) : a.sameKey (.member m) = true ↔ a = .member m := by
  cases a with
  | member n => rw [same_key_members, Value.member.injEq]
  | reader read => cases read <;> exact iff_of_false Bool.false_ne_true Value.noConfusion
  | _ => exact iff_of_false Bool.false_ne_true Value.noConfusion

theorem member_same_key (m : Member) (b : Value) : (Value.member m).sameKey b = true ↔ b = .member m := by
  cases b with
  | member n => rw [same_key_members, Value.member.injEq, eq_comm]
  | _ => exact iff_of_false Bool.false_ne_true Value.noConfusion

theorem new_tuple_identical (k item : Value) (rest : List Value) : k.identical (.tuple .new (item :: rest)) = false := by
  have unkept : ∀ mark : Mark, mark.same .new = false := fun mark => by cases mark <;> rfl
  cases k with
  | reader read => cases read <;> rfl
  | _ => simp [Value.identical, Value.mark?, Value.isShared, unkept]

theorem same_key_pairs (mark : Mark) (a b x y : Value) :
    (Value.tuple mark [a, b]).sameKey (.tuple .new [x, y]) = (a.sameKey x && b.sameKey y) := by
  simp only [Value.sameKey, Value.orIdentical, new_tuple_identical, Bool.false_eq_true, if_false, Value.agree,
    Value.agreeItems]
  generalize (if a.identical x then .ok true else Value.agree (fun _ _ => .ok false) a x) = first
  generalize (if b.identical y then .ok true else Value.agree (fun _ _ => .ok false) b y) = second
  rcases first with _ | (_ | _) <;> rcases second with _ | (_ | _) <;> rfl

theorem agree_lengths (follow : Value → Value → Fallible Bool) (xs ys : List Value)
    (agreed : Value.agreeItems follow xs ys = .ok true) : xs.length = ys.length := by
  induction xs generalizing ys with
  | nil => cases ys with
    | nil => rfl
    | cons y rest => simp [Value.agreeItems] at agreed
  | cons x rest ih => cases ys with
    | nil => simp [Value.agreeItems] at agreed
    | cons y others =>
        rw [Value.agreeItems] at agreed
        unfold Fallible.and at agreed
        split at agreed
        · rw [List.length_cons, List.length_cons, ih others agreed]
        · cases agreed
        · cases agreed

theorem same_key_pair (k x y : Value) (same : k.sameKey (.tuple .new [x, y]) = true) :
    ∃ mark a b, k = .tuple mark [a, b] ∧ a.sameKey x = true ∧ b.sameKey y = true := by
  cases k with
  | tuple mark items =>
      have lengths : items.length = 2 := by
        simp only [Value.sameKey, Value.orIdentical, new_tuple_identical, Bool.false_eq_true, if_false, Value.agree] at same
        split at same
        · rename_i agreed
          exact agree_lengths _ _ _ (same ▸ agreed)
        · cases same
      match items, lengths with
      | [a, b], _ =>
          rw [same_key_pairs, Bool.and_eq_true] at same
          exact ⟨mark, a, b, rfl, same⟩
  | reader read => cases read <;> cases same
  | _ => simp [Value.sameKey, Value.orIdentical, new_tuple_identical, Value.agree] at same

namespace Table

variable (table : Table) (key content other : Value)

theorem get_put_same (self : key.sameKey key = true) : (table.put key content).get? key = some content := by
  unfold get?
  induction table with
  | nil => simp [put, self]
  | cons entry rest ih =>
      unfold put
      by_cases same : entry.1.sameKey key = true
      · simp [same]
      · rw [if_neg same, List.find?_cons_of_neg (by simpa using same)]
        exact ih

theorem get_put_apart (apart : key.sameKey other = false)
    (between : ∀ k : Value, k.sameKey key = true → k.sameKey other = false) :
    (table.put key content).get? other = table.get? other := by
  unfold get?
  induction table with
  | nil => simp [put, apart]
  | cons entry rest ih =>
      unfold put
      by_cases same : entry.1.sameKey key = true
      · have differs := between entry.1 same
        rw [if_pos same, List.find?_cons_of_neg (by simp [differs]), List.find?_cons_of_neg (by simp [differs])]
      · rw [if_neg same]
        simp only [List.find?_cons]
        cases entry.1.sameKey other with
        | true => rfl
        | false => exact ih

theorem get_put_member (m : Member) (elsewhere : key ≠ .member m) :
    (table.put key content).get? (.member m) = table.get? (.member m) := by
  refine get_put_apart table key content _ (by simpa [elsewhere] using same_key_member key m) fun k same => ?_
  refine Bool.eq_false_iff.mpr fun member => elsewhere ?_
  obtain rfl := (same_key_member k m).mp member
  exact (member_same_key m key).mp same

theorem get_put_pair (x y : Value) (v : ViewId) (m : Member) (elsewhere : ¬ (x = .view v ∧ y = .member m)) :
    (table.put (.tuple .new [x, y]) content).get? (.tuple .new [.view v, .member m])
      = table.get? (.tuple .new [.view v, .member m]) := by
  refine get_put_apart table _ content _ ?_ fun k same => Bool.eq_false_iff.mpr fun pair => elsewhere ?_
  · rw [same_key_pairs, Bool.eq_false_iff, Ne, Bool.and_eq_true, same_key_view, same_key_member]
    exact elsewhere
  · obtain ⟨mark, a, b, rfl, first, second⟩ := same_key_pair k _ _ pair
    rw [same_key_view] at first
    rw [same_key_member] at second
    subst first second
    rwa [same_key_pairs, Bool.and_eq_true, view_same_key, member_same_key] at same

end Table

theorem put_elsewhere (table : Table) (v : ViewId) (content key : Value) (other : key ≠ .view v) :
    (table.put (.view v) content).get? key = table.get? key := by
  have apart : (Value.view v).sameKey key = false := by simpa [other] using view_same_key v key
  exact table.get_put_apart _ content key apart fun k same => (same_key_view k v).mp same ▸ apart

end LayoutAlgebra
