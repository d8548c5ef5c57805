import Treebank.Proofs.Candidates
import Treebank.Proofs.Search.Bindings
import Treebank.Search.Matching

/-!
# What a pattern means

The bindings under which a node fits a pattern, as a list, without notes and without a search that
can be left. They depend on the given bindings only through the names of the pattern, and what they
add does not depend on the other names.
-/

namespace Treebank

mutual
/-- The bindings that make a node fit a node pattern, extending given ones. -/
def NodePattern.answers (g : Grounds) : NodePattern → Site → Bindings → List Bindings
  | .node label name constraint, s, b =>
    if g.admits label s then
      match b.capture? name s with
      | none => []
      | some b => Constraint.answersOption g constraint s b
    else []
/-- The bindings that make a constraint hold, if there is one. -/
def Constraint.answersOption (g : Grounds) : Option Constraint → Site → Bindings → List Bindings
  | none, _, b => [b]
  | some c, s, b => c.answers g s b
/-- The bindings that make a constraint hold at a node, extending given ones. -/
def Constraint.answers (g : Grounds) : Constraint → Site → Bindings → List Bindings
  | .rel r partner, s, b => (r.candidates g s).flatMap fun c => partner.answers g c b
  | .all items, s, b => Constraint.answersAll g items s b
  | .choice items, s, b => Constraint.answersEach g items s b
  | .not item, s, b => if (item.answers g s b).isEmpty then [b] else []
  | .maybe item, s, b =>
    let found := item.answers g s b
    if found.isEmpty then [b] else found
/-- The bindings that make all constraints hold, each extending those for the ones before. -/
def Constraint.answersAll (g : Grounds) : List Constraint → Site → Bindings → List Bindings
  | [], _, b => [b]
  | c :: cs, s, b => (c.answers g s b).flatMap fun b => Constraint.answersAll g cs s b
/-- The bindings for the first constraint, then those for the second, and so on. -/
def Constraint.answersEach (g : Grounds) : List Constraint → Site → Bindings → List Bindings
  | [], _, _ => []
  | c :: cs, s, b => c.answers g s b ++ Constraint.answersEach g cs s b
end

/-! ## Answers stay in their tree -/

variable {t : Tree} {g : Grounds}

mutual
theorem NodePattern.answers_in (hg : g.Within t) : (p : NodePattern) → {s : Site} →
    {b d : Bindings} → s.In t → b.In t → d ∈ p.answers g s b → d.In t
  | .node label name constraint, s, b, d, hs, hb, hd => by
      simp only [NodePattern.answers] at hd
      split at hd
      · split at hd
        · simp at hd
        · rename_i b₁ hcap
          exact Constraint.answersOption_in hg constraint hs (hb.capture? hs hcap) hd
      · simp at hd
theorem Constraint.answersOption_in (hg : g.Within t) : (c : Option Constraint) → {s : Site} →
    {b d : Bindings} → s.In t → b.In t → d ∈ Constraint.answersOption g c s b → d.In t
  | none, _, _, _, _, hb, hd => List.mem_singleton.mp hd ▸ hb
  | some c, _, _, _, hs, hb, hd => Constraint.answers_in hg c hs hb hd
theorem Constraint.answers_in (hg : g.Within t) : (c : Constraint) → {s : Site} →
    {b d : Bindings} → s.In t → b.In t → d ∈ c.answers g s b → d.In t
  | .rel r partner, s, b, d, hs, hb, hd => by
      simp only [Constraint.answers, List.mem_flatMap] at hd
      obtain ⟨u, hu, hd⟩ := hd
      exact NodePattern.answers_in hg partner (Relation.in_of_mem_candidates hg hs hu) hb hd
  | .all items, s, b, d, hs, hb, hd => Constraint.answersAll_in hg items hs hb hd
  | .choice items, s, b, d, hs, hb, hd => Constraint.answersEach_in hg items hs hb hd
  | .not item, s, b, d, hs, hb, hd => by
      simp only [Constraint.answers] at hd
      split at hd
      · exact List.mem_singleton.mp hd ▸ hb
      · simp at hd
  | .maybe item, s, b, d, hs, hb, hd => by
      simp only [Constraint.answers] at hd
      split at hd
      · exact List.mem_singleton.mp hd ▸ hb
      · exact Constraint.answers_in hg item hs hb hd
theorem Constraint.answersAll_in (hg : g.Within t) : (cs : List Constraint) → {s : Site} →
    {b d : Bindings} → s.In t → b.In t → d ∈ Constraint.answersAll g cs s b → d.In t
  | [], _, _, _, _, hb, hd => List.mem_singleton.mp hd ▸ hb
  | c :: cs, s, b, d, hs, hb, hd => by
      simp only [Constraint.answersAll, List.mem_flatMap] at hd
      obtain ⟨b₁, hb₁, hd⟩ := hd
      exact Constraint.answersAll_in hg cs hs (Constraint.answers_in hg c hs hb hb₁) hd
theorem Constraint.answersEach_in (hg : g.Within t) : (cs : List Constraint) → {s : Site} →
    {b d : Bindings} → s.In t → b.In t → d ∈ Constraint.answersEach g cs s b → d.In t
  | [], _, _, _, _, _, hd => by simp [Constraint.answersEach] at hd
  | c :: cs, s, b, d, hs, hb, hd => by
      rcases List.mem_append.mp hd with hd | hd
      · exact Constraint.answers_in hg c hs hb hd
      · exact Constraint.answersEach_in hg cs hs hb hd
end

/-! ## Answers depend on the names of the pattern -/

namespace Bindings

/-- The members of the two lists extend `b` and `b'` by the same bindings. -/
def Parallel (b b' : Bindings) (as as' : List Bindings) : Prop :=
  ∃ ds : List Bindings, as = ds.map (b ++ ·) ∧ as' = ds.map (b' ++ ·)

variable {b b' : Bindings} {as as' : List Bindings}

theorem parallel_nil : Parallel b b' [] [] := ⟨[], rfl, rfl⟩

theorem parallel_self : Parallel b b' [b] [b'] := ⟨[[]], by simp, by simp⟩

theorem Parallel.isEmpty_eq (h : Parallel b b' as as') : as.isEmpty = as'.isEmpty := by
  obtain ⟨ds, rfl, rfl⟩ := h
  simp

theorem Parallel.append {bs bs' : List Bindings} (ha : Parallel b b' as as')
    (hb : Parallel b b' bs bs') : Parallel b b' (as ++ bs) (as' ++ bs') := by
  obtain ⟨ds, rfl, rfl⟩ := ha
  obtain ⟨es, rfl, rfl⟩ := hb
  exact ⟨ds ++ es, by simp, by simp⟩

theorem Parallel.of_append {d : Bindings} (h : Parallel (b ++ d) (b' ++ d) as as') :
    Parallel b b' as as' := by
  obtain ⟨ds, rfl, rfl⟩ := h
  exact ⟨ds.map (d ++ ·), by simp [Function.comp_def], by simp [Function.comp_def]⟩

theorem parallel_flatMap {α : Type} {f f' : α → List Bindings} (xs : List α)
    (h : ∀ x ∈ xs, Parallel b b' (f x) (f' x)) :
    Parallel b b' (xs.flatMap f) (xs.flatMap f') := by
  induction xs with
  | nil => exact parallel_nil
  | cons x xs ih =>
      simp only [List.flatMap_cons]
      exact (h x List.mem_cons_self).append (ih fun y hy => h y (List.mem_cons_of_mem _ hy))

theorem Parallel.flatMap {f f' : Bindings → List Bindings} (h : Parallel b b' as as')
    (hf : ∀ d, Parallel (b ++ d) (b' ++ d) (f (b ++ d)) (f' (b' ++ d))) :
    Parallel b b' (as.flatMap f) (as'.flatMap f') := by
  obtain ⟨ds, rfl, rfl⟩ := h
  simp only [List.flatMap_map]
  exact parallel_flatMap ds fun d _ => (hf d).of_append

end Bindings

theorem NodePattern.name_subset_names (label : Option Description) (name : Option String)
    (constraint : Option Constraint) :
    name.toList ⊆ (NodePattern.node label name constraint).names := by
  cases constraint with
  | none => exact List.Subset.refl _
  | some c => exact List.subset_append_left _ _

theorem NodePattern.namesOption_subset_names (label : Option Description) (name : Option String)
    (constraint : Option Constraint) :
    constraint.elim [] Constraint.names ⊆ (NodePattern.node label name constraint).names := by
  cases constraint with
  | none => exact List.nil_subset _
  | some c => exact List.subset_append_right _ _

open Bindings in
mutual
/-- Bindings that agree on the names of a pattern are extended by it in the same ways. -/
theorem NodePattern.answers_parallel (g : Grounds) : (p : NodePattern) → (s : Site) →
    {b b' : Bindings} → AgreeOn p.names b b' → Parallel b b' (p.answers g s b) (p.answers g s b')
  | .node label name constraint, s, b, b', h => by
      have hname := h.mono (NodePattern.name_subset_names label name constraint)
      have hconstraint := h.mono (NodePattern.namesOption_subset_names label name constraint)
      obtain ⟨new, hb, hb'⟩ := hname.capture? s
      simp only [NodePattern.answers, hb, hb']
      split
      · cases new with
        | none => exact parallel_nil
        | some d =>
            exact (Constraint.answersOption_parallel g constraint s (hconstraint.append d)).of_append
      · exact parallel_nil
theorem Constraint.answersOption_parallel (g : Grounds) : (c : Option Constraint) → (s : Site) →
    {b b' : Bindings} → AgreeOn (c.elim [] Constraint.names) b b' →
    Parallel b b' (Constraint.answersOption g c s b) (Constraint.answersOption g c s b')
  | none, _, _, _, _ => parallel_self
  | some c, s, _, _, h => Constraint.answers_parallel g c s h
theorem Constraint.answers_parallel (g : Grounds) : (c : Constraint) → (s : Site) →
    {b b' : Bindings} → AgreeOn c.names b b' → Parallel b b' (c.answers g s b) (c.answers g s b')
  | .rel r partner, s, b, b', h =>
      parallel_flatMap _ fun u _ => NodePattern.answers_parallel g partner u h
  | .all items, s, b, b', h => Constraint.answersAll_parallel g items s h
  | .choice items, s, b, b', h => Constraint.answersEach_parallel g items s h
  | .not item, s, b, b', h => by
      have hitem := Constraint.answers_parallel g item s h
      simp only [Constraint.answers, hitem.isEmpty_eq]
      split
      · exact parallel_self
      · exact parallel_nil
  | .maybe item, s, b, b', h => by
      have hitem := Constraint.answers_parallel g item s h
      simp only [Constraint.answers, hitem.isEmpty_eq]
      split
      · exact parallel_self
      · exact hitem
theorem Constraint.answersAll_parallel (g : Grounds) : (cs : List Constraint) → (s : Site) →
    {b b' : Bindings} → AgreeOn (Constraint.namesOf cs) b b' →
    Parallel b b' (Constraint.answersAll g cs s b) (Constraint.answersAll g cs s b')
  | [], _, _, _, _ => parallel_self
  | c :: cs, s, b, b', h => by
      have hc := h.mono (List.subset_append_left c.names (Constraint.namesOf cs))
      have hcs := h.mono (List.subset_append_right c.names (Constraint.namesOf cs))
      exact (Constraint.answers_parallel g c s hc).flatMap fun d =>
        Constraint.answersAll_parallel g cs s (hcs.append d)
theorem Constraint.answersEach_parallel (g : Grounds) : (cs : List Constraint) → (s : Site) →
    {b b' : Bindings} → AgreeOn (Constraint.namesOf cs) b b' →
    Parallel b b' (Constraint.answersEach g cs s b) (Constraint.answersEach g cs s b')
  | [], _, _, _, _ => parallel_nil
  | c :: cs, s, b, b', h => by
      have hc := h.mono (List.subset_append_left c.names (Constraint.namesOf cs))
      have hcs := h.mono (List.subset_append_right c.names (Constraint.namesOf cs))
      exact (Constraint.answers_parallel g c s hc).append
        (Constraint.answersEach_parallel g cs s hcs)
end

end Treebank
