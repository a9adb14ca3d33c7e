import LayoutAlgebra.Report
import Mathlib.Algebra.GroupWithZero.Nat
import Mathlib.Data.List.Induction
import Mathlib.Data.List.Perm.Basic
set_option autoImplicit false

namespace LayoutAlgebra

section

variable {α : Type} [DecidableEq α]

theorem erase_dups_snoc (keys : List α) (key : α) :
    (keys ++ [key]).eraseDups = if key ∈ keys then keys.eraseDups else keys.eraseDups ++ [key] := by
  rw [List.eraseDups_append]
  by_cases seen : key ∈ keys
  · simp [List.removeAll, seen]
  · simp [List.removeAll, seen, List.eraseDups_cons]

theorem erase_dups_nodup (keys : List α) : keys.eraseDups.Nodup := by
  induction keys using List.reverseRecOn with
  | nil => exact List.nodup_nil
  | append_singleton keys key ih =>
      rw [erase_dups_snoc]
      split
      · exact ih
      · rename_i unseen
        refine List.nodup_append.mpr ⟨ih, by simp, fun a member b last => ?_⟩
        rintro rfl
        exact unseen (List.mem_singleton.mp last ▸ List.mem_eraseDups.mp member)

theorem tally_into_counts (key : α) (keys : List α) (count : α → Nat) (distinct : keys.Nodup) :
    tallyInto (· == ·) key (keys.map fun k => (k, count k)) =
      if key ∈ keys then keys.map fun k => (k, if k = key then count k + 1 else count k)
      else keys.map (fun k => (k, count k)) ++ [(key, 1)] := by
  induction keys with
  | nil => simp [tallyInto]
  | cons first rest ih =>
      obtain ⟨unseen, distinctToo⟩ := List.nodup_cons.mp distinct
      rw [List.map_cons, tallyInto]
      by_cases here : first = key
      · subst here
        have others : ∀ k ∈ rest, k ≠ first := fun k member same => unseen (same ▸ member)
        simp only [beq_self_eq_true, if_true, List.mem_cons_self, List.map_cons, List.cons.injEq, true_and]
        exact List.map_congr_left fun k member => by rw [if_neg (others k member)]
      · rw [ih distinctToo]
        by_cases seen : key ∈ rest
        · simp [here, seen]
        · simp [here, seen, Ne.symm here]

theorem tally_counts (keys : List α) : tally (· == ·) keys = keys.eraseDups.map fun key => (key, keys.count key) := by
  induction keys using List.reverseRecOn with
  | nil => rfl
  | append_singleton keys key ih =>
      rw [tally, List.foldl_append]
      change tallyInto (· == ·) key (tally (· == ·) keys) = _
      rw [ih, tally_into_counts key _ _ (erase_dups_nodup keys), erase_dups_snoc]
      have others : ∀ k, (keys ++ [key]).count k = if k = key then keys.count k + 1 else keys.count k := by
        intro k
        by_cases here : k = key <;> simp [here, Ne.symm]
      simp only [List.mem_eraseDups, others]
      by_cases seen : key ∈ keys
      · rw [if_pos seen, if_pos seen]
      · rw [if_neg seen, if_neg seen, List.map_append]
        have distinct : ∀ k ∈ keys.eraseDups, k ≠ key := fun k member same => seen (same ▸ List.mem_eraseDups.mp member)
        have kept : keys.eraseDups.map (fun k => (k, if k = key then keys.count k + 1 else keys.count k))
            = keys.eraseDups.map fun k => (k, keys.count k) :=
          List.map_congr_left fun k member => by rw [if_neg (distinct k member)]
        rw [kept]
        simp [List.count_eq_zero_of_not_mem seen]

theorem tally_read (keys : List α) (key : α) :
    (((tally (· == ·) keys).find? fun entry => entry.1 == key).map Prod.snd).getD 0 = keys.count key := by
  rw [tally_counts, List.find?_map]
  change (((keys.eraseDups.find? fun k => k == key).map fun k => (k, keys.count k)).map Prod.snd).getD 0 = _
  cases found : keys.eraseDups.find? fun k => k == key with
  | none =>
      have unseen : key ∉ keys := fun seen =>
        List.find?_eq_none.mp found key (List.mem_eraseDups.mpr seen) (beq_self_eq_true key)
      simp [List.count_eq_zero_of_not_mem unseen]
  | some k =>
      have here : (k == key) = true := by simpa using List.find?_some found
      obtain rfl := eq_of_beq here
      rfl

theorem tally_permuted (keys others : List α) (same : keys.Perm others) :
    (tally (· == ·) keys).Perm (tally (· == ·) others) := by
  rw [tally_counts, tally_counts]
  have distinct : keys.eraseDups.Perm others.eraseDups :=
    (List.perm_ext_iff_of_nodup (erase_dups_nodup keys) (erase_dups_nodup others)).mpr fun key => by
      rw [List.mem_eraseDups, List.mem_eraseDups, same.mem_iff]
  simpa only [same.count_eq] using distinct.map fun key => (key, others.count key)

end

variable {α β : Type} (same : β → β → Bool)

theorem tally_into_total (key : β) (entries : List (β × Nat)) :
    ((tallyInto same key entries).map Prod.snd).sum = (entries.map Prod.snd).sum + 1 := by
  induction entries with
  | nil => rfl
  | cons entry rest ih =>
      rw [tallyInto]
      split
      · simp only [List.map_cons, List.sum_cons]
        omega
      · simp only [List.map_cons, List.sum_cons, ih]
        omega

theorem tally_total (keys : List β) : ((tally same keys).map Prod.snd).sum = keys.length := by
  induction keys using List.reverseRecOn with
  | nil => rfl
  | append_singleton keys key ih =>
      rw [tally, List.foldl_append]
      change ((tallyInto same key (tally same keys)).map Prod.snd).sum = _
      rw [tally_into_total, ih, List.length_append, List.length_singleton]

theorem tally_map [BEq α] (key : α → β) (alike : ∀ a b, same (key a) (key b) = (a == b)) (sources : List α) :
    tally same (sources.map key) = (tally (· == ·) sources).map fun entry => (key entry.1, entry.2) := by
  have step : ∀ (source : α) (entries : List (α × Nat)),
      tallyInto same (key source) (entries.map fun entry => (key entry.1, entry.2))
        = (tallyInto (· == ·) source entries).map fun entry => (key entry.1, entry.2) := by
    intro source entries
    induction entries with
    | nil => rfl
    | cons entry rest ih =>
        rw [List.map_cons, tallyInto, tallyInto, alike]
        split
        · rfl
        · rw [ih]
          rfl
  induction sources using List.reverseRecOn with
  | nil => rfl
  | append_singleton sources source ih =>
      rw [List.map_append, tally, tally, List.foldl_append, List.foldl_append]
      change tallyInto same (key source) (tally same (sources.map key)) = _
      rw [ih, step]
      rfl

end LayoutAlgebra
