import Treebank.Proofs.Forest.Standing
import Treebank.Proofs.Reduction.Course
import Treebank.Proofs.Search.Reports
import Treebank.Reduction.Result

/-!
# A finished reduction is a fixpoint

Where reduction comes to its end with some of the budget left, a rule has no match in the tree that
is left unless a rule after it has changed the tree. A tree to which no rule has been applied is as
it was. After a tree has been removed, no further rule is tried on it.
-/

namespace Treebank

open Progress Reduction

variable {budget : Option Nat} {rules left : List Rule} {turns : Nat} {index : Int} {f : Forest}
  {top root : NodeId} {c : Point} {p q : Progress} {r : Rule}

theorem passes_of_reduce (h : (reduce rules budget turns index f top).1 = none) :
    Passes budget (rules, start index f top) ([], (reduce rules budget turns index f top).2) := by
  have hrun : runFrom (start index f top) (byRules budget turns rules) =
      (.ok (), (reduce rules budget turns index f top).2) := by
    rw [snd_reduce]
    exact Prod.ext (fst_reduce_eq_none.mp h) rfl
  exact passes_of_byRules hrun

/-- Every application that has taken place is counted. -/
theorem Reduction.Applied.applications_lt (h : Applied budget c left)
    (hpasses : Passes budget c ([], q)) : c.2.applications < q.applications := by
  obtain ⟨p, p', hbefore, hleft, hturns⟩ := h
  obtain ⟨r, rest, rfl⟩ := List.exists_cons_of_ne_nil hleft
  have hlt : p.applications < p'.applications := by
    cases hturns.step with
    | applied _ _ _ _ _ => exact Nat.lt_succ_self _
  have hle := Passes.applications_le hbefore
  rcases Relation.ReflTransGen.total_of_right_unique (turns_rightUnique budget)
    (hbefore.tail hturns) hpasses with hafter | hafter
  · have hle' := Passes.applications_le hafter
    simp only at hle hle'
    omega
  · exact absurd (List.suffix_nil.mp (Passes.isSuffix hafter)) hleft

theorem applications_eq_iff (hpasses : Passes budget c ([], q)) :
    q.applications = c.2.applications ↔ ∀ left, ¬Applied budget c left := by
  constructor
  · intro heq left happlied
    have hlt := happlied.applications_lt hpasses
    omega
  · exact Passes.applications_eq hpasses

/-- Where the tree has been removed, this has been done by the last rule that was tried. -/
theorem Reduction.Passes.exists_remover (h : Passes budget c ([], q)) (hroot : q.root = none)
    (hnot : c.2.isOver = false) : ∃ r rest q₁, Passes budget c (r :: rest, q₁) ∧ q₁.root.isSome ∧
      Turns budget (r :: rest, q₁) (r :: rest, q) ∧ StopsIn budget c (r :: rest) := by
  have hover : q.isOver = true := by simp [isOver, hroot]
  obtain ⟨r, rest, q₁, left, hpasses, hq₁, hturns, hstops⟩ := Passes.exists_stopsIn h hover hnot
  refine ⟨r, rest, q₁, hpasses, ?_, ?_, hstops⟩
  · obtain ⟨top, htop⟩ := root_of_isOver_eq_false hq₁
    simp [htop]
  · cases hturns.step with
    | ended hover => simp [hover] at hq₁
    | unmatched _ htop _ => simp [hroot] at htop
    | exhausted _ htop _ _ _ =>
        have hsome := htop.symm.trans hroot
        cases hsome
    | applied _ _ _ _ _ => exact hturns

/-- A rule that has no match in a tree leaves it as it is. -/
theorem reduce_of_no_match (hends : f.endlessBelow root = false)
    (hmatch : r.pattern.firstMatch? (f.tree root) = none) (hturns : 1 ≤ turns) :
    reduce [r] budget turns index f root = (none, start index f root) := by
  obtain ⟨turns, rfl⟩ := Nat.exists_eq_add_of_le' hturns
  have hturn : runFrom (start index f root) (r.turn budget) = _ :=
    Rule.runFrom_turn_of_no_match rfl hends hmatch
  have hrun : runFrom (start index f root) (byRules budget (turns + 1) [r]) =
      (.ok (), start index f root) := by
    rw [runFrom_byRules_succ, runFrom_turn_cons, hturn]
    exact runFrom_byRules_nil budget turns _
  rw [reduce_eq, hrun]

/-- A rule that has no match any more after an application is applied once. -/
theorem reduce_of_one_match {m : Match} {s : Surgery.State} (hbudget : ∀ b, budget = some b → 0 < b)
    (hends : f.endlessBelow top = false) (hmatch : r.pattern.firstMatch? (f.tree top) = some m)
    (hrun : (Statement.applyAll r.statements).runFrom (.within f top m.bindings) = (.ok (), s))
    (hroot : s.root = some root) (hends' : s.forest.endlessBelow root = false)
    (hmatch' : r.pattern.firstMatch? (s.forest.tree root) = none) (hturns : 2 ≤ turns) :
    reduce [r] budget turns index f top =
      (none, (start index f top).applied r.name (f.tree top) m s) := by
  obtain ⟨turns, rfl⟩ := Nat.exists_eq_add_of_le' hturns
  have hnot : ((start index f top).applied r.name (f.tree top) m s).isOver = false := by
    simp [isOver, applied, start, hroot]
  have hfirst : runFrom (start index f top) (byRules budget (turns + 2) [r]) = _ :=
    runFrom_byRules_of_match rfl rfl hends hmatch hbudget
  have hsecond : runFrom _ (byRules budget (turns + 1) [r]) = _ :=
    runFrom_byRules_of_no_match hnot hroot hends' hmatch'
  have hboth : runFrom (start index f top) (byRules budget (turns + 2) [r]) =
      (.ok (), (start index f top).applied r.name (f.tree top) m s) := by
    rw [hfirst, show (start index f top).forest = f from rfl, hrun]
    exact hsecond.trans (runFrom_byRules_nil budget turns _)
  rw [reduce_eq, hboth]

/-- One of two children is deleted, which is the only match. -/
theorem exists_reduce_of_one_deletion :
    let t := Tree.node "S" [.node "NP" [], .node "VP" []]
    let p : CompiledPattern := ⟨"NP=n", .node (some ⟨[.literal "NP"], false⟩) (some "n") none,
      ⟨HeadFinder.firstChild, id⟩⟩
    let rule : Rule := ⟨"cut", p, [.delete ["n"]], none⟩
    let root := Forest.empty.plant t
    ∃ q, reduce [rule] none 2 0 root.2 root.1 = (none, q) ∧ q.applications = 1 ∧
      q.root = some root.1 ∧ q.budgetExhausted = false := by
  intro t p rule root
  have htop : root.2.tree root.1 = t := by decide +kernel
  have hends : root.2.endlessBelow root.1 = false := by decide +kernel
  let child : Site := ⟨.node "NP" [], [(0, t)]⟩
  have hmatch : rule.pattern.firstMatch? (root.2.tree root.1) =
      some ⟨child, [("n", child)]⟩ := by
    rw [htop, CompiledPattern.firstMatch?_eq]
    rfl
  let s : Surgery.State :=
    ⟨⟨#[⟨"S", none, [2]⟩, ⟨"NP", none, []⟩, ⟨"VP", some 0, []⟩]⟩, some 0, [("n", 1)]⟩
  have hrun : (Statement.applyAll rule.statements).runFrom
      (.within root.2 root.1 [("n", child)]) = (.ok (), s) := by decide +kernel
  have hleft : s.forest.tree 0 = .node "S" [.node "VP" []] := by decide +kernel
  have hmatch' : rule.pattern.firstMatch? (s.forest.tree 0) = none := by
    rw [hleft, CompiledPattern.firstMatch?_eq]
    rfl
  have hreduce : reduce [rule] none 2 0 root.2 root.1 = _ :=
    reduce_of_one_match nofun hends hmatch hrun rfl (by decide +kernel) hmatch' (Nat.le_refl 2)
  exact ⟨_, hreduce, rfl, rfl, rfl⟩

/-- Where reduction of a tree has come to its end with a tree left, and some of the budget:

- a rule has no match in the tree that is left if none of the rules after it has been applied;
- the result is matched exactly if a rule has been applied, and if not, the tree, with the whole
  forest, is as it was;
- if there is only one rule, then reduction of the tree that is left changes nothing.

If no tree is left, then the rule that has removed it is the last one that was tried. -/
theorem reduce_fixpoint (rules : List Rule) (budget : Option Nat) (turns : Nat) (index : Int)
    {f : Forest} {top : NodeId} {t : Tree} (h : f.TreeAt top t) :
    let run := reduce rules budget turns index f top
    let c : Point := (rules, start index f top)
    let result := Result.ofProgress top run.2
    run.1 = none →
      (∀ root, run.2.root = some root → run.2.budgetExhausted = false →
        (∀ pre r post, rules = pre ++ r :: post →
          (∀ left, left <:+ post → ¬Applied budget c left) →
          r.pattern.allMatches (run.2.forest.tree root) = []) ∧
        (result.matched = false ↔ ∀ left, ¬Applied budget c left) ∧
        (result.matched = false → root = top ∧ run.2.forest = f) ∧
        ∀ r, rules = [r] → ∀ turns', 1 ≤ turns' →
          reduce rules budget turns' index run.2.forest root =
            (none, start index run.2.forest root)) ∧
      (run.2.root = none → ∃ r rest q, Passes budget c (r :: rest, q) ∧ q.root.isSome ∧
        Turns budget (r :: rest, q) (r :: rest, run.2) ∧
        ∀ left, Tried budget c left → r :: rest <:+ left) := by
  intro run c result hdone
  have hpasses : Passes budget c ([], run.2) := passes_of_reduce hdone
  have happlied : result.matched = false ↔ ∀ left, ¬Applied budget c left := by
    rw [← applications_eq_iff hpasses]
    simp [Result.matched, result, Result.ofProgress, c, start]
  refine ⟨fun root hroot hexhausted => ⟨fun pre r post hrules hpost => ?_, happlied,
    fun hmatched => ?_, fun r hrule turns' hturns' => ?_⟩, fun hroot => ?_⟩
  · exact CompiledPattern.firstMatch?_eq_none.mp
      (Passes.unmatched hpasses hexhausted hroot hrules hpost)
  · have hsame : run.2 = start index f top := Passes.eq_of_applications_eq hpasses hexhausted
      (Passes.applications_eq hpasses (happlied.mp hmatched))
    rw [hsame] at hroot ⊢
    cases hroot
    exact ⟨rfl, rfl⟩
  · -- no rule comes after the only one
    have hsplit : rules = [] ++ r :: [] := hrule
    have hmatch := Passes.unmatched hpasses hexhausted hroot hsplit fun _ => not_applied_nil
    have hends := not_endlessBelow_of_reduce h.not_endlessBelow hdone root hroot
    rw [hrule]
    exact reduce_of_no_match hends hmatch hturns'
  · obtain ⟨r, rest, q, hq, hsome, hturns, hstops⟩ := Passes.exists_remover hpasses hroot rfl
    exact ⟨r, rest, q, hq, hsome, hturns, hstops.2⟩

/-- One of two children is deleted; what is left has no match. -/
theorem reduce_fixpoint_after_deletion :
    let t := Tree.node "S" [.node "NP" [], .node "VP" []]
    let p : CompiledPattern := ⟨"NP=n", .node (some ⟨[.literal "NP"], false⟩) (some "n") none,
      ⟨HeadFinder.firstChild, id⟩⟩
    let rule : Rule := ⟨"cut", p, [.delete ["n"]], none⟩
    let root := Forest.empty.plant t
    ∃ q, reduce [rule] none 2 0 root.2 root.1 = (none, q) ∧ q.applications = 1 ∧
      q.root = some root.1 ∧ p.allMatches (q.forest.tree root.1) = [] := by
  intro t p rule root
  obtain ⟨q, hreduce, happlications, hroot, hleft⟩ := exists_reduce_of_one_deletion
  have hfixpoint := reduce_fixpoint [rule] none 2 0 (Forest.treeAt_plant Forest.empty t)
  rw [hreduce] at hfixpoint
  refine ⟨q, hreduce, happlications, hroot, ?_⟩
  exact ((hfixpoint rfl).1 root.1 hroot hleft).1 [] rule [] rfl fun _ => not_applied_nil

end Treebank
