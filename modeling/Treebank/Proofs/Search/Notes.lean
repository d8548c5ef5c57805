import Treebank.Proofs.Search.Answers
import Treebank.Proofs.Search.Meaning

/-!
# Notes never change a search

A search notes a question when a part of the pattern fits a node under no bindings. The question keeps
only the bindings of the names that the part uses. That is enough: where it is noted, the part has no
answer under any bindings that give the same question. So a search gives the answers that the pattern
means, whatever earlier searches have noted.
-/

namespace Treebank

/-! ## Parts of a pattern -/

/-- A part of a pattern: a node pattern or a constraint. -/
inductive PatternPart where
  | node (p : NodePattern)
  | constraint (c : Constraint)

/-- The part directly within another one that a search gives this number. -/
def PatternPart.child? : PatternPart → Nat → Option PatternPart
  | node p, 0 => p.constraint.map constraint
  | node _, _ + 1 => none
  | constraint (.rel _ partner), 0 => some (node partner)
  | constraint (.rel _ _), _ + 1 => none
  | constraint (.all items), i => items[i]?.map constraint
  | constraint (.choice items), i => items[i]?.map constraint
  | constraint (.not item), 0 => some (constraint item)
  | constraint (.not _), _ + 1 => none
  | constraint (.maybe item), 0 => some (constraint item)
  | constraint (.maybe _), _ + 1 => none

/-- The part of a pattern where a search stands, given the numbers on the way, the last first. -/
def NodePattern.part? (root : NodePattern) : List Nat → Option PatternPart
  | [] => some (.node root)
  | i :: part => (root.part? part).bind (·.child? i)

/-! ## Hopeless questions -/

variable {root p : NodePattern} {g : Grounds} {t : Tree} {s : Site} {b : Bindings} {part : List Nat}

/-- The question is whether the part of the pattern fits the node under the bindings. -/
def Question.Asks (root : NodePattern) (t : Tree) (k : Question) (p : NodePattern) (s : Site)
    (b : Bindings) : Prop :=
  root.part? k.part = some (.node p) ∧ s.In t ∧ b.In t ∧ p.question k.part s b = k

/-- The question has been asked at some time, and there was no answer. -/
def Question.Hopeless (root : NodePattern) (g : Grounds) (t : Tree) (k : Question) : Prop :=
  ∃ p s b, k.Asks root t p s b ∧ p.answers g s b = []

/-- Wherever a hopeless question is asked, there is no answer. -/
theorem Question.Hopeless.answers_eq_nil {k : Question} (h : k.Hopeless root g t)
    (hk : k.Asks root t p s b) : p.answers g s b = [] := by
  obtain ⟨p', s', b', ⟨hp', hs', hb', hk'⟩, hnil⟩ := h
  obtain ⟨hp, hs, hb, hk⟩ := hk
  rw [hp, Option.some.injEq, PatternPart.node.injEq] at hp'
  subst hp'
  have hsame := hk'.trans hk.symm
  simp only [NodePattern.question, Question.mk.injEq, true_and] at hsame
  obtain ⟨hsteps, hplaces⟩ := hsame
  rw [hs'.eq_of_steps hs hsteps] at hnil
  have hsame := ((hb'.restrict _).sortedPlaces_eq_iff (hb.restrict _)).mp hplaces
  have hagree : Bindings.AgreeOn p.names b' b := by
    intro n hn
    rw [← Bindings.find?_restrict hn, hsame, Bindings.find?_restrict hn]
  have hempty := (NodePattern.answers_parallel g p s hagree).isEmpty_eq
  rwa [hnil, List.isEmpty_nil, eq_comm, List.isEmpty_iff] at hempty

/-! ## Searches give what patterns mean -/

open Answers in
/-- A search that notes its question when it has no answer gives the same answers. -/
theorem Answers.Gives.noting {s : Found} {Hopeless : Question → Prop} {k : Question}
    {as : List Bindings} (hs : s.Gives Hopeless as) (hk : as = [] → Hopeless k) :
    (s.orElse fun _ => .record k fun _ => .done).Gives Hopeless as := by
  have hnoting : (s.orElse fun _ => .record k fun _ => .done).Gives Hopeless
      (if as.isEmpty then [] else as) := hs.orElse fun hnil => .record (hk hnil) .done
  cases as with
  | nil => exact hnoting
  | cons a as => exact hnoting

open Answers in
mutual
/-- The search for a part of a pattern gives the answers of that part. -/
theorem NodePattern.search_gives (hg : g.Within t) : (p : NodePattern) → {part : List Nat} →
    {s : Site} → {b : Bindings} → root.part? part = some (.node p) → s.In t → b.In t →
    (p.search g part s b).Gives (Question.Hopeless root g t) (p.answers g s b)
  | .node label name constraint, part, s, b, hp, hs, hb => by
      simp only [NodePattern.search]
      have hasks : ((NodePattern.node label name constraint).question part s b).Asks root t
          (.node label name constraint) s b := ⟨hp, hs, hb, rfl⟩
      refine .consult (fun hk => ?_) (Gives.noting ?_ fun hnil => ⟨_, s, b, hasks, hnil⟩)
      · rw [hk.answers_eq_nil hasks]
        exact .done
      · simp only [NodePattern.answers]
        by_cases hlabel : g.admits label s = true
        · rw [if_pos hlabel, if_pos hlabel]
          cases hcap : b.capture? name s with
          | none => exact .done
          | some b₁ =>
              refine Constraint.searchOption_gives hg constraint ?_ hs (hb.capture? hs hcap)
              rintro c rfl
              simp [NodePattern.part?, hp, PatternPart.child?, NodePattern.constraint]
        · rw [if_neg hlabel, if_neg hlabel]
          exact .done
theorem Constraint.searchOption_gives (hg : g.Within t) : (c : Option Constraint) →
    {part : List Nat} → {s : Site} → {b : Bindings} →
    (∀ d, c = some d → root.part? part = some (.constraint d)) → s.In t → b.In t →
    (Constraint.searchOption g part c s b).Gives (Question.Hopeless root g t)
      (Constraint.answersOption g c s b)
  | none, _, _, b, _, _, _ => .one b
  | some c, _, _, _, hc, hs, hb => Constraint.search_gives hg c (hc c rfl) hs hb
theorem Constraint.search_gives (hg : g.Within t) : (c : Constraint) → {part : List Nat} →
    {s : Site} → {b : Bindings} → root.part? part = some (.constraint c) → s.In t → b.In t →
    (c.search g part s b).Gives (Question.Hopeless root g t) (c.answers g s b)
  | .rel r partner, part, s, b, hc, hs, hb =>
      Gives.flatMap _ fun u hu =>
        NodePattern.search_gives hg partner (by simp [NodePattern.part?, hc, PatternPart.child?])
          (Relation.in_of_mem_candidates hg hs hu) hb
  | .all items, part, s, b, hc, hs, hb =>
      Constraint.searchAll_gives hg items
        (fun j d hd => by simp [NodePattern.part?, hc, PatternPart.child?, hd]) hs hb
  | .choice items, part, s, b, hc, hs, hb =>
      Constraint.searchEach_gives hg items
        (fun j d hd => by simp [NodePattern.part?, hc, PatternPart.child?, hd]) hs hb
  | .not item, part, s, b, hc, hs, hb =>
      (Constraint.search_gives hg item (by simp [NodePattern.part?, hc, PatternPart.child?])
        hs hb).ifNone fun _ => .one b
  | .maybe item, part, s, b, hc, hs, hb =>
      (Constraint.search_gives hg item (by simp [NodePattern.part?, hc, PatternPart.child?])
        hs hb).orElse fun _ => .one b
theorem Constraint.searchAll_gives (hg : g.Within t) : (cs : List Constraint) →
    {part : List Nat} → {i : Nat} → {s : Site} → {b : Bindings} →
    (∀ j d, cs[j]? = some d → root.part? ((i + j) :: part) = some (.constraint d)) → s.In t →
    b.In t → (Constraint.searchAll g part i cs s b).Gives (Question.Hopeless root g t)
      (Constraint.answersAll g cs s b)
  | [], _, _, _, b, _, _, _ => .one b
  | c :: cs, part, i, s, b, hc, hs, hb =>
      (Constraint.search_gives hg c (hc 0 c rfl) hs hb).bind fun d hd =>
        Constraint.searchAll_gives hg cs
          (fun j e he => by simpa [Nat.add_assoc, Nat.add_comm 1] using hc (j + 1) e he) hs
          (Constraint.answers_in hg c hs hb hd)
theorem Constraint.searchEach_gives (hg : g.Within t) : (cs : List Constraint) →
    {part : List Nat} → {i : Nat} → {s : Site} → {b : Bindings} →
    (∀ j d, cs[j]? = some d → root.part? ((i + j) :: part) = some (.constraint d)) → s.In t →
    b.In t → (Constraint.searchEach g part i cs s b).Gives (Question.Hopeless root g t)
      (Constraint.answersEach g cs s b)
  | [], _, _, _, _, _, _, _ => .done
  | c :: cs, part, i, s, b, hc, hs, hb =>
      (Constraint.search_gives hg c (hc 0 c rfl) hs hb).append
        (Constraint.searchEach_gives hg cs
          (fun j e he => by simpa [Nat.add_assoc, Nat.add_comm 1] using hc (j + 1) e he) hs hb)
end

end Treebank
