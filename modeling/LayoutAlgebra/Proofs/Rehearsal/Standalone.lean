import LayoutAlgebra.Expression
import LayoutAlgebra.Proofs.Results
set_option autoImplicit false

/-!
Values that stand alone. A value that refers to nothing that a scene keeps, except to views, is true or false, equal to
another and less than another wherever it is asked: the surroundings are looked at only behind a reference.
-/
namespace LayoutAlgebra

namespace Value

mutual

def standsAlone : Value → Bool
  | .shared _ | .recording _ => false
  | .compiler _ settings => standsAlone settings
  | .tuple _ items | .list _ items => allStandAlone items
  | .array _ (.general ⟨_, entries⟩) => allStandAlone entries
  | .dict _ entries => entriesStandAlone entries
  | .linear _ ⟨_, element, what, constant, multiplier, priority⟩ =>
    standsAlone element && standsAlone what && standsAlone constant && standsAlone multiplier && standsAlone priority
  | .edges _ ⟨element, inset, usesMargins⟩ => standsAlone element && standsAlone inset && standsAlone usesMargins
  | .center _ ⟨element, shift⟩ => standsAlone element && standsAlone shift
  | .elementAxis _ ⟨element, along⟩ => standsAlone element && standsAlone along
  | .relationship _ ⟨lhs, rhs, sign⟩ => standsAlone lhs && standsAlone rhs && standsAlone sign
  | .record _ ⟨subject, subjectAttribute, sign, object, objectAttribute, multiplier, constant, priority⟩ =>
    standsAlone subject && standsAlone subjectAttribute && standsAlone sign && standsAlone object &&
      standsAlone objectAttribute && standsAlone multiplier && standsAlone constant && standsAlone priority
  | .pending _ ⟨held, anchor⟩ => standsAlone held && standsAlone anchor
  | .offset _ ⟨horizontal, vertical⟩ => standsAlone horizontal && standsAlone vertical
  | .insets _ ⟨top, left, bottom, right⟩ =>
    standsAlone top && standsAlone left && standsAlone bottom && standsAlone right
  | .frame _ ⟨x, y, width, height, margins⟩ =>
    standsAlone x && standsAlone y && standsAlone width && standsAlone height && standsAlone margins
  | .reader read => standsAlone read
  | .config _ ⟨priority, low, high, compression, expansion, margin⟩ =>
    standsAlone priority && standsAlone low && standsAlone high && standsAlone compression && standsAlone expansion &&
      standsAlone margin
  | _ => true

def allStandAlone : List Value → Bool
  | [] => true
  | item :: rest => standsAlone item && allStandAlone rest

def entriesStandAlone : List (Value × Value) → Bool
  | [] => true
  | (key, content) :: rest => standsAlone key && standsAlone content && entriesStandAlone rest

end

theorem all_alone_iff (items : List Value) : allStandAlone items = true ↔ ∀ item ∈ items, item.standsAlone = true := by
  induction items with
  | nil => simp [allStandAlone]
  | cons item rest ih => simp [allStandAlone, ih]

theorem entries_alone_iff (entries : List (Value × Value)) :
    entriesStandAlone entries = true ↔ ∀ entry ∈ entries, entry.1.standsAlone = true ∧ entry.2.standsAlone = true := by
  induction entries with
  | nil => simp [entriesStandAlone]
  | cons entry rest ih => simp [entriesStandAlone, ih]

theorem find_alike (f g : Value → Fallible Bool) (entries : List (Value × Value))
    (same : ∀ entry ∈ entries, f entry.1 = g entry.1) : find? f entries = find? g entries := by
  induction entries with
  | nil => rfl
  | cons entry rest ih =>
      have later := ih fun other member => same other (by simp [member])
      simp only [find?, same entry (by simp), later]

theorem find_source (f : Value → Fallible Bool) (entries : List (Value × Value)) (content : Value)
    (found : find? f entries = .ok (some content)) : ∃ entry ∈ entries, entry.2 = content := by
  induction entries with
  | nil => cases found
  | cons entry rest ih =>
      obtain ⟨here, _, found⟩ := (Fallible.bind_ok_iff _ _ _).mp found
      split at found
      · exact ⟨entry, by simp, Option.some.inj (Except.ok.inj found)⟩
      · obtain ⟨other, member, same⟩ := ih found
        exact ⟨other, by simp [member], same⟩

section

variable (f g : Value → Value → Fallible Bool)

-- Whether two values agree depends on what is behind references only where there are references.
theorem agree_alike (same : ∀ a b : Value, a.standsAlone = true → b.standsAlone = true → f a b = g a b) :
    (∀ a b : Value, a.standsAlone = true → b.standsAlone = true → agree f a b = agree g a b) ∧
      (∀ as bs, entriesStandAlone as = true → entriesStandAlone bs = true →
        agreeEntries f as bs = agreeEntries g as bs) ∧
      ∀ as bs, allStandAlone as = true → allStandAlone bs = true → agreeItems f as bs = agreeItems g as bs := by
  apply agree.mutual_induct
    (fun a b => a.standsAlone = true → b.standsAlone = true → agree f a b = agree g a b)
    (fun as bs => entriesStandAlone as = true → entriesStandAlone bs = true →
      agreeEntries f as bs = agreeEntries g as bs)
    (fun as bs => allStandAlone as = true → allStandAlone bs = true → agreeItems f as bs = agreeItems g as bs)
  case case34 =>
    intro a as b bs here rest alone aloneToo
    simp only [allStandAlone, Bool.and_eq_true] at alone aloneToo
    simp only [agreeItems, here alone.1 aloneToo.1, rest alone.2 aloneToo.2]
  case case35 =>
    intro as bs nil cons alone aloneToo
    cases as with
    | nil =>
        cases bs with
        | nil => exact absurd rfl (nil rfl)
        | cons b bs => rfl
    | cons a as =>
        cases bs with
        | nil => rfl
        | cons b bs => exact absurd rfl (cons a as b bs rfl)
  case case37 =>
    intro key content rest entries keys contents later alone aloneToo
    simp only [entriesStandAlone, Bool.and_eq_true] at alone
    have each := (entries_alone_iff entries).mp aloneToo
    have found := find_alike (fun other => orIdentical key other (agree f key other))
      (fun other => orIdentical key other (agree g key other)) entries
      fun entry member => by rw [keys entry.1 alone.1.1 (each entry member).1]
    simp only [agreeEntries, found]
    cases held : find? (fun other => orIdentical key other (agree g key other)) entries with
    | error failure => rfl
    | ok match? =>
        cases match? with
        | none => rfl
        | some other =>
            obtain ⟨entry, member, rfl⟩ := find_source _ entries other held
            simp only [Fallible.ok_bind, contents entry.2 alone.1.2 (each entry member).2, later alone.2 aloneToo]
  -- Values that are of no common sort are the same only if they are one object.
  case case32 =>
    intros
    rw [agree, agree] <;> assumption
  -- The other cases ask the same of their parts, or of what the hypothesis is about.
  all_goals
    intros
    first
    | rfl
    | simp_all only [agree, standsAlone, Bool.and_eq_true, Bool.false_eq_true, if_false, if_true]

end

end Value

namespace Fallible

variable {α β : Type}

theorem bind_alike (first second : Fallible α) (f g : α → Fallible β) (same : first = second)
    (each : ∀ a, second = .ok a → f a = g a) : (first >>= f) = (second >>= g) := by
  subst same
  cases first with
  | error failure => rfl
  | ok a => exact each a rfl

theorem mapM_alike (f g : α → Fallible β) (xs : List α) (same : ∀ x ∈ xs, f x = g x) : xs.mapM f = xs.mapM g := by
  induction xs with
  | nil => rfl
  | cons x xs ih => simp only [List.mapM_cons, same x (by simp), ih fun y member => same y (by simp [member])]

end Fallible

namespace Grid

variable {α β : Type}

theorem pieces_source (length count : Nat) (xs piece : List α) (member : piece ∈ pieces length count xs) :
    ∀ x ∈ piece, x ∈ xs := by
  induction count generalizing xs with
  | zero => cases member
  | succ count ih =>
      intro x inside
      rcases List.mem_cons.mp member with rfl | later
      · exact List.mem_of_mem_take inside
      · exact List.mem_of_mem_drop (ih (xs.drop length) later x inside)

theorem stretched_source (axes : List (Nat × Nat)) (xs : List α) (x : α) (member : x ∈ stretched axes xs) : x ∈ xs := by
  induction axes generalizing xs x with
  | nil => exact member
  | cons axis axes ih =>
      obtain ⟨length, wanted⟩ := axis
      have parts : ∀ x ∈ ((pieces (volume (axes.map Prod.fst)) length xs).map (stretched axes)).flatten, x ∈ xs := by
        intro x member
        obtain ⟨part, listed, inside⟩ := List.mem_flatten.mp member
        obtain ⟨piece, found, rfl⟩ := List.mem_map.mp listed
        exact pieces_source _ length xs piece found x (ih piece x inside)
      simp only [stretched] at member
      split at member
      · exact parts x member
      · obtain ⟨part, listed, inside⟩ := List.mem_flatten.mp member
        rw [List.eq_of_mem_replicate listed] at inside
        exact parts x inside

theorem paired_source (a : Grid α) (b : Grid β) (pairs : Grid (α × β)) (paired : a.paired b = .ok pairs) :
    ∀ pair ∈ pairs.entries, pair.1 ∈ a.entries ∧ pair.2 ∈ b.entries := by
  intro pair member
  unfold Grid.paired at paired
  split at paired
  · rename_i found
    obtain rfl := Except.ok.inj paired
    unfold pair? at found
    split at found
    · rw [← Option.some.inj found] at member
      exact List.of_mem_zip (a := pair.1) (b := pair.2) member
    · obtain ⟨shape, _, same⟩ := Option.bind_eq_some_iff.mp found
      rw [← Option.some.inj same] at member
      have inside := List.of_mem_zip (a := pair.1) (b := pair.2) member
      exact ⟨stretched_source _ _ _ inside.1, stretched_source _ _ _ inside.2⟩
  · cases paired

theorem mapM_alike (f g : α → Fallible β) (grid : Grid α) (same : ∀ x ∈ grid.entries, f x = g x) :
    grid.mapM f = grid.mapM g := by
  simp only [Grid.mapM, Fallible.mapM_alike f g grid.entries same]

end Grid

def Cells.StandAlone (cells : Cells Value) : Prop := ∀ v ∈ cells.values.entries, v.standsAlone = true

theorem of_text_alone (s : String) : (Value.ofText s).standsAlone = true := by
  unfold Value.ofText
  split <;> rfl

theorem mapped_alone {α : Type} (f : α → Value) (g : Grid α) (alone : ∀ x, (f x).standsAlone = true) :
    ∀ v ∈ (g.map f).entries, v.standsAlone = true := by
  intro v member
  obtain ⟨x, _, rfl⟩ := List.mem_map.mp member
  exact alone x

theorem array_cells_alone (mark : Mark) (cells : Cells Value) (alone : (Value.array mark cells).standsAlone = true) :
    cells.StandAlone := by
  intro v member
  cases cells with
  | general g =>
      obtain ⟨shape, entries⟩ := g
      exact (Value.all_alone_iff entries).mp alone v member
  | texts g => exact mapped_alone Value.ofText g of_text_alone v member
  | truths g | wholes g | naturals g | doubles g => exact mapped_alone _ g (fun _ => rfl) v member

theorem whole_beside_alone (purpose : Purpose) (kind : CellKind) (mark : Mark) (n : Int) (cells : Cells Value)
    (made : Value.wholeBeside purpose kind mark n = .ok cells) : cells.StandAlone := by
  have double : ∀ cells : Cells Value, (Fallible.ofArithmetic (Number.int n).toDouble >>= fun x =>
      (.ok (.doubles (.single x)) : Fallible (Cells Value))) = .ok cells → cells.StandAlone := by
    intro cells made
    obtain ⟨x, _, made⟩ := (Fallible.bind_ok_iff _ _ _).mp made
    exact Except.ok.inj made ▸ mapped_alone Value.double _ fun _ => rfl
  unfold Value.wholeBeside at made
  split at made
  · exact double cells made
  · exact double cells made
  · exact double cells made
  · exact double cells made
  · split at made
    · exact Except.ok.inj made ▸ mapped_alone Value.int _ fun _ => rfl
    · cases made
  · split at made
    · exact Except.ok.inj made ▸ mapped_alone Value.int _ fun _ => rfl
    · cases made
  · split at made
    · exact Except.ok.inj made ▸ mapped_alone (fun (n : Nat) => Value.int n) _ fun _ => rfl
    · cases made
  · rw [← Except.ok.inj made]
    intro v member
    rw [List.mem_singleton.mp member]
    rfl

theorem of_values_alone (kind : CellKind) (g : Grid Value) (alone : ∀ v ∈ g.entries, v.standsAlone = true) :
    (Cells.ofValues kind g).StandAlone := by
  cases kind with
  | general => exact alone
  | text => exact mapped_alone Value.ofText _ of_text_alone
  | truth | whole | natural | double => exact mapped_alone _ _ fun _ => rfl

namespace Layout

theorem stack_source (parts : List Layout) (l : Layout) (stacked : stack parts = .ok l) :
    ∀ v ∈ l.grid.entries, ∃ part ∈ parts, v ∈ part.grid.entries := by
  intro v member
  unfold stack at stacked
  split at stacked
  · rw [← Except.ok.inj stacked] at member
    cases member
  · split at stacked
    · rw [← Except.ok.inj stacked] at member
      obtain ⟨entries, listed, inside⟩ := List.mem_flatten.mp member
      obtain ⟨part, found, rfl⟩ := List.mem_map.mp listed
      exact ⟨part, found, inside⟩
    · cases stacked

end Layout

namespace Surroundings

variable (around other : Surroundings)

theorem opened_alone (v : Value) (alone : v.standsAlone = true) : around.opened v = v := by
  cases v with
  | shared l => cases alone
  | _ => rfl

theorem layout_alike (axes : Nat) (v : Value) (alone : v.standsAlone = true) :
    Layout.ofValue around.opened axes v = Layout.ofValue other.opened axes v ∧
      ∀ l, Layout.ofValue other.opened axes v = .ok l → ∀ entry ∈ l.grid.entries, entry.standsAlone = true := by
  have single : ∀ (v : Value) (l : Layout), v.standsAlone = true → (.ok ⟨some v.cellKind, .single v⟩ : Fallible Layout) =
      .ok l → ∀ entry ∈ l.grid.entries, entry.standsAlone = true := by
    intro v l alone made entry member
    rw [← Except.ok.inj made] at member
    rw [List.mem_singleton.mp member]
    exact alone
  induction axes generalizing v with
  | zero =>
      simp only [Layout.ofValue, opened_alone around v alone, opened_alone other v alone, true_and]
      intro l made
      split at made
      · cases made
      · cases made
      · cases made
      · exact single v l alone made
  | succ axes ih =>
      have sequence : ∀ items : List Value, Value.allStandAlone items = true →
          (items.mapM (Layout.ofValue around.opened axes) >>= Layout.stack) =
              (items.mapM (Layout.ofValue other.opened axes) >>= Layout.stack) ∧
            ∀ l, (items.mapM (Layout.ofValue other.opened axes) >>= Layout.stack) = .ok l →
              ∀ entry ∈ l.grid.entries, entry.standsAlone = true := by
        intro items alone
        have each := (Value.all_alone_iff items).mp alone
        refine ⟨by rw [Fallible.mapM_alike _ _ items fun v member => (ih v (each v member)).1], ?_⟩
        intro l made entry member
        obtain ⟨parts, laid, stacked⟩ := (Fallible.bind_ok_iff _ _ _).mp made
        obtain ⟨part, listed, inside⟩ := Layout.stack_source parts l stacked entry member
        obtain ⟨v, found, source⟩ := Fallible.mapM_source _ items parts laid part listed
        exact (ih v (each v found)).2 part source entry inside
      simp only [Layout.ofValue, opened_alone around v alone, opened_alone other v alone]
      cases v with
      | tuple mark items | list mark items => exact sequence items alone
      | array mark cells =>
          refine ⟨rfl, fun l made entry member => ?_⟩
          simp only at made
          split at made
          · rw [← Except.ok.inj made] at member
            exact array_cells_alone mark cells alone entry member
          · cases made
      | shared l => cases alone
      | _ => exact ⟨rfl, fun l => single _ l alone⟩

theorem cells_beside_alike (purpose : Purpose) (kind : CellKind) (v : Value) (alone : v.standsAlone = true) :
    v.cellsBeside around.opened purpose kind = v.cellsBeside other.opened purpose kind ∧
      ∀ cells, v.cellsBeside other.opened purpose kind = .ok cells → cells.StandAlone := by
  have laid : v.cells around.opened = v.cells other.opened ∧ ∀ cells, v.cells other.opened = .ok cells →
      cells.StandAlone := by
    have same := layout_alike around other Grid.mostAxes v alone
    refine ⟨by simp only [Value.cells, same.1], fun cells made => ?_⟩
    obtain ⟨l, found, made⟩ := (Fallible.bind_ok_iff _ _ _).mp made
    rw [← Except.ok.inj made]
    exact of_values_alone _ _ (same.2 l found)
  unfold Value.cellsBeside
  split
  · exact ⟨rfl, fun cells made => whole_beside_alone purpose kind _ _ cells made⟩
  · exact laid

theorem between_alike {α : Type} (purpose : Purpose) (ask askToo : Cells Value → Cells Value → Fallible α)
    (same : ∀ x y : Cells Value, x.StandAlone → y.StandAlone → ask x y = askToo x y) (a b : Value)
    (alone : a.standsAlone = true) (aloneToo : b.standsAlone = true) :
    around.betweenCells purpose ask a b = other.betweenCells purpose askToo a b := by
  simp only [betweenCells, opened_alone around a alone, opened_alone around b aloneToo, opened_alone other a alone,
    opened_alone other b aloneToo]
  cases a with
  | array m x =>
      have left := array_cells_alone m x alone
      cases b with
      | array n y => exact congrArg some (same x y left (array_cells_alone n y aloneToo))
      | _ =>
          obtain ⟨beside, right⟩ := cells_beside_alike around other purpose x.kind _ aloneToo
          exact congrArg some (Fallible.bind_alike _ _ _ _ beside fun y made => same x y left (right y made))
  | _ =>
      cases b with
      | array n y =>
          obtain ⟨beside, left⟩ := cells_beside_alike around other purpose y.kind _ alone
          have right := array_cells_alone n y aloneToo
          exact congrArg some (Fallible.bind_alike _ _ _ _ beside fun x made => same x y (left x made) right)
      | _ => rfl

end Surroundings

end LayoutAlgebra
