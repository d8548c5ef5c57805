import Mathlib.Algebra.BigOperators.Group.List.Basic
import Mathlib.Algebra.GroupWithZero.Nat
import Mathlib.Data.List.Nodup
import Mathlib.Data.List.Perm.Basic
import Treebank.Proofs.Basic
import Treebank.Reduction.Result

/-!
# Totals are sums

Totals in which results have been counted are sums over these results, whatever the order of counting.
-/

namespace Treebank

variable {name : String} {n : Nat} {counts : List (String × Nat)} {τ : Type}

/-! ## Counts by name -/

/-- The number of a name; zero for a name without a number. -/
def countOf (name : String) (counts : List (String × Nat)) : Nat := (counts.lookup name).getD 0

theorem lookup_addCount (m : String) (k : Nat) (counts : List (String × Nat)) :
    (addCount m k counts).lookup name =
      if name = m then some (countOf m counts + k) else counts.lookup name := by
  rw [addCount]
  split
  · rename_i hknown
    obtain ⟨j, hj⟩ := Option.isSome_iff_exists.mp hknown
    rw [lookup_map (· + k), countOf, hj]
    split
    · rename_i hname
      rw [hname, hj]
      rfl
    · rfl
  · rename_i hnew
    rw [Option.not_isSome_iff_eq_none] at hnew
    rw [countOf, hnew, List.lookup_append]
    by_cases hm : name = m
    · subst hm
      simp [hnew]
    · rw [List.lookup_cons, beq_eq_false_iff_ne.mpr hm, if_neg hm]
      simp

theorem countOf_addCount (m : String) (k : Nat) (counts : List (String × Nat)) :
    countOf name (addCount m k counts) = countOf name counts + if name = m then k else 0 := by
  rw [countOf, lookup_addCount]
  split
  · rename_i hname
    rw [hname]
    rfl
  · rfl

theorem keys_add (name : String) (n : Nat) (counts : List (String × Nat)) :
    (counts.map fun (m, k) => if m == name then (m, k + n) else (m, k)).map (·.1) =
      counts.map (·.1) := by
  rw [List.map_map]
  refine List.map_congr_left fun e _ => ?_
  show (if e.1 == name then (e.1, e.2 + n) else (e.1, e.2)).1 = e.1
  split <;> rfl

theorem nodup_addCount (h : (counts.map (·.1)).Nodup) :
    ((addCount name n counts).map (·.1)).Nodup := by
  rw [addCount]
  split
  · rwa [keys_add]
  · rename_i hnew
    rw [Option.not_isSome_iff_eq_none, List.lookup_eq_none_iff] at hnew
    rw [List.map_append, List.nodup_append]
    refine ⟨h, List.nodup_singleton name, ?_⟩
    rintro m hm _ hname rfl
    obtain ⟨e, he, rfl⟩ := List.mem_map.mp hm
    have hne := hnew e he
    rw [List.map_singleton, List.mem_singleton] at hname
    simp [hname] at hne

/-- Counts for different names, added one by one. -/
theorem countOf_foldl_addCount (added : List (String × Nat)) (h : (added.map (·.1)).Nodup) :
    countOf name (added.foldl (fun counts (m, k) => addCount m k counts) counts) =
      countOf name counts + countOf name added := by
  induction added generalizing counts with
  | nil => rfl
  | cons e added ih =>
      obtain ⟨m, k⟩ := e
      rw [List.map_cons, List.nodup_cons] at h
      rw [List.foldl_cons, ih h.2, countOf_addCount]
      by_cases hm : name = m
      · subst hm
        have hnone : added.lookup name = none := by
          refine List.lookup_eq_none_iff.mpr fun e he => ?_
          rw [bne_iff_ne]
          intro hname
          exact h.1 (List.mem_map.mpr ⟨e, he, hname.symm⟩)
        simp [countOf, hnone]
      · rw [if_neg hm, Nat.add_zero, countOf, countOf, countOf, List.lookup_cons,
          beq_eq_false_iff_ne.mpr hm]

/-! ## Sums over results -/

/-- The later totals are the earlier ones and the sums over results. Of failed trees nothing is summed
up but their failures. -/
structure Totals.Sums (before after : Totals) (rs : List (Result τ)) : Prop where
  trees : after.trees = before.trees + rs.length
  failed : after.failed = before.failed + rs.countP (·.error.isSome)
  matched : after.matched = before.matched + rs.countP Result.matched
  deleted : after.deleted = before.deleted + rs.countP (·.tree.isNone)
  budgetExhausted : after.budgetExhausted = before.budgetExhausted + rs.countP (·.budgetExhausted)
  ruleCounts : ∀ name, countOf name after.ruleCounts = countOf name before.ruleCounts +
    ((rs.filter (·.error.isNone)).map fun r => countOf name r.ruleCounts).sum

/-- A result as it comes from work on a tree: a failed one has the tree back, and nothing else. -/
structure Result.Proper (r : Result τ) : Prop where
  nodup : (r.ruleCounts.map (·.1)).Nodup
  of_failed : r.error.isSome → r.tree.isSome ∧ r.applications = 0 ∧ r.budgetExhausted = false

namespace Totals

variable {before after : Totals} {r : Result τ} {rs rs' : List (Result τ)}

theorem sums_nil (s : Totals) : Sums s s ([] : List (Result τ)) := by
  constructor <;> intros <;> rfl

theorem Sums.perm (h : Sums before after rs) (hperm : rs.Perm rs') : Sums before after rs' where
  trees := hperm.length_eq ▸ h.trees
  failed := hperm.countP_eq _ ▸ h.failed
  matched := hperm.countP_eq _ ▸ h.matched
  deleted := hperm.countP_eq _ ▸ h.deleted
  budgetExhausted := hperm.countP_eq _ ▸ h.budgetExhausted
  ruleCounts name := by
    have hsum := ((hperm.filter (·.error.isNone)).map fun r => countOf name r.ruleCounts).sum_eq
    rw [← hsum]
    exact h.ruleCounts name

theorem countIf_eq (b : Bool) (n : Nat) : countIf b n = n + if b then 1 else 0 := by
  cases b <;> rfl

theorem Sums.add (h : Sums before after rs) (hr : r.Proper) :
    Sums before (after.add r) (r :: rs) := by
  by_cases hfailed : r.error.isSome = true
  · obtain ⟨htree, happlied, hbudget⟩ := hr.of_failed hfailed
    have hnone : r.error.isNone = false := by simpa using hfailed
    have hmatched : r.matched = false := by simp [Result.matched, happlied]
    have htree : r.tree.isNone = false := by simpa using htree
    rw [Totals.add, if_pos hfailed]
    refine ⟨?_, ?_, ?_, ?_, ?_, fun name => ?_⟩
    · simp only [h.trees, List.length_cons]
      omega
    · simp only [h.failed, List.countP_cons, hfailed, if_true]
      omega
    · simp [h.matched, hmatched]
    · simp [h.deleted, htree]
    · simp [h.budgetExhausted, hbudget]
    · simp [h.ruleCounts, hnone]
  · have hnone : r.error.isNone = true := by simpa using hfailed
    rw [Totals.add, if_neg hfailed]
    refine ⟨?_, ?_, ?_, ?_, ?_, fun name => ?_⟩
    · simp only [h.trees, List.length_cons]
      omega
    · simp [h.failed, hfailed]
    · simp only [countIf_eq, h.matched, List.countP_cons]
      omega
    · simp only [countIf_eq, h.deleted, List.countP_cons]
      omega
    · simp only [countIf_eq, h.budgetExhausted, List.countP_cons]
      omega
    · simp only [countOf_foldl_addCount _ hr.nodup, h.ruleCounts, List.filter_cons, hnone, if_true,
        List.map_cons, List.sum_cons]
      omega

end Totals

/-- The results are counted alike: they differ in the number of the tree, and in how trees are told. -/
structure Result.SameAccount {σ : Type} (r : Result σ) (r' : Result τ) : Prop where
  error_eq : r.error = r'.error
  applications_eq : r.applications = r'.applications
  tree_eq : r.tree.isNone = r'.tree.isNone
  budgetExhausted_eq : r.budgetExhausted = r'.budgetExhausted
  ruleCounts_eq : r.ruleCounts = r'.ruleCounts

theorem countP_eq_of_forall₂ {α β : Type} {p : α → Bool} {q : β → Bool} {l : List α} {l' : List β}
    (h : List.Forall₂ (fun a b => p a = q b) l l') : l.countP p = l'.countP q := by
  induction h with
  | nil => rfl
  | cons hab _ ih => rw [List.countP_cons, List.countP_cons, ih, hab]

theorem Totals.Sums.of_sameAccount {σ : Type} {before after : Totals} {rs : List (Result σ)}
    {rs' : List (Result τ)} (h : Sums before after rs)
    (hsame : List.Forall₂ Result.SameAccount rs rs') : Sums before after rs' where
  trees := hsame.length_eq ▸ h.trees
  failed := by
    rw [h.failed, countP_eq_of_forall₂ (hsame.imp fun _ _ hr => congrArg _ hr.error_eq)]
  matched := by
    have hmatched := hsame.imp fun _ _ hr => congrArg (· != 0) hr.applications_eq
    rw [h.matched]
    exact congrArg _ (countP_eq_of_forall₂ hmatched)
  deleted := by
    rw [h.deleted, countP_eq_of_forall₂ (hsame.imp fun _ _ hr => hr.tree_eq)]
  budgetExhausted := by
    rw [h.budgetExhausted, countP_eq_of_forall₂ (hsame.imp fun _ _ hr => hr.budgetExhausted_eq)]
  ruleCounts name := by
    rw [h.ruleCounts]
    refine congrArg (countOf name before.ruleCounts + ·) ?_
    clear h
    induction hsame with
    | nil => rfl
    | cons hr _ ih =>
        rw [List.filter_cons, List.filter_cons, hr.error_eq]
        split
        · rw [List.map_cons, List.map_cons, List.sum_cons, List.sum_cons, ih, hr.ruleCounts_eq]
        · exact ih

end Treebank
