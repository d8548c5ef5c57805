import Treebank.Proofs.Search.Meaning

/-!
# Assignments

For patterns without negated and optional constraints, what a pattern means can be said without an
order of evaluation. An assignment gives every choice of the pattern one of its items, and every node
pattern a node. The answers of the pattern are what the names are assigned by the assignments that
satisfy it.
-/

namespace Treebank

/-! ## Patterns without negation and options -/

mutual
/-- No constraint of the pattern is negated or optional. -/
def NodePattern.Positive : NodePattern → Prop
  | .node _ _ none => True
  | .node _ _ (some c) => c.Positive
def Constraint.Positive : Constraint → Prop
  | .rel _ partner => partner.Positive
  | .all items => Constraint.PositiveAll items
  | .choice items => Constraint.PositiveAll items
  | .not _ => False
  | .maybe _ => False
def Constraint.PositiveAll : List Constraint → Prop
  | [] => True
  | c :: cs => c.Positive ∧ Constraint.PositiveAll cs
end

/-! ## Assignments -/

/-- A choice of one item for every choice of a pattern, and of a site for every node pattern of it.
The parts of the pattern are told apart by the numbers on the way to them, the first number first. -/
structure Assignment where
  item : List Nat → Nat
  node : List Nat → Site

namespace Assignment

/-- What is assigned within a part of the pattern. -/
def under (a : Assignment) (i : Nat) : Assignment where
  item part := a.item (i :: part)
  node part := a.node (i :: part)

/-- The assignment for a pattern, from those for its parts. -/
def ofParts (item : Nat) (node : Site) (parts : Nat → Assignment) : Assignment where
  item
    | [] => item
    | i :: part => (parts i).item part
  node
    | [] => node
    | i :: part => (parts i).node part

theorem item_ofParts (item : Nat) (node : Site) (parts : Nat → Assignment) :
    (ofParts item node parts).item [] = item := rfl

end Assignment

mutual
/-- Every label accepts the node assigned to its node pattern, and every partner is assigned a node
that stands in its relation. -/
def NodePattern.Satisfied (g : Grounds) (a : Assignment) : NodePattern → Prop
  | .node label _ constraint =>
    g.admits label (a.node []) = true ∧
      Constraint.SatisfiedOption g (a.under 0) (a.node []) constraint
def Constraint.SatisfiedOption (g : Grounds) (a : Assignment) (s : Site) : Option Constraint → Prop
  | none => True
  | some c => c.Satisfied g a s
/-- The constraint holds at a node under the assignment; of a choice, the chosen item does. -/
def Constraint.Satisfied (g : Grounds) (a : Assignment) (s : Site) : Constraint → Prop
  | .rel r partner =>
    (a.under 0).node [] ∈ r.candidates g s ∧ partner.Satisfied g (a.under 0)
  | .all items => Constraint.SatisfiedAll g a s 0 items
  | .choice items => Constraint.SatisfiedChoice g a s 0 items
  | .not _ => False
  | .maybe _ => False
def Constraint.SatisfiedAll (g : Grounds) (a : Assignment) (s : Site) (i : Nat) :
    List Constraint → Prop
  | [] => True
  | c :: cs => c.Satisfied g (a.under i) s ∧ Constraint.SatisfiedAll g a s (i + 1) cs
def Constraint.SatisfiedChoice (g : Grounds) (a : Assignment) (s : Site) (i : Nat) :
    List Constraint → Prop
  | [] => False
  | c :: cs =>
    if a.item [] = i then c.Satisfied g (a.under i) s
    else Constraint.SatisfiedChoice g a s (i + 1) cs
end

mutual
/-- The capture names of the node patterns that the assignment reaches, with their nodes. -/
def NodePattern.captured (a : Assignment) : NodePattern → List (String × Site)
  | .node _ name constraint =>
    name.toList.map (·, a.node []) ++ Constraint.capturedOption (a.under 0) constraint
def Constraint.capturedOption (a : Assignment) : Option Constraint → List (String × Site)
  | none => []
  | some c => c.captured a
def Constraint.captured (a : Assignment) : Constraint → List (String × Site)
  | .rel _ partner => partner.captured (a.under 0)
  | .all items => Constraint.capturedAll a 0 items
  | .choice items => Constraint.capturedChoice a 0 items
  | .not _ => []
  | .maybe _ => []
def Constraint.capturedAll (a : Assignment) (i : Nat) : List Constraint → List (String × Site)
  | [] => []
  | c :: cs => c.captured (a.under i) ++ Constraint.capturedAll a (i + 1) cs
def Constraint.capturedChoice (a : Assignment) (i : Nat) : List Constraint → List (String × Site)
  | [] => []
  | c :: cs =>
    if a.item [] = i then c.captured (a.under i) else Constraint.capturedChoice a (i + 1) cs
end

variable {g : Grounds} {t : Tree} {s : Site} {a a' : Assignment}

/-- Whether the members of a list hold depends only on what is assigned within them. -/
theorem Constraint.satisfiedAll_congr : (cs : List Constraint) → {i : Nat} →
    (∀ j, i ≤ j → a.under j = a'.under j) →
    (Constraint.SatisfiedAll g a s i cs ↔ Constraint.SatisfiedAll g a' s i cs) ∧
      Constraint.capturedAll a i cs = Constraint.capturedAll a' i cs
  | [], _, _ => ⟨Iff.rfl, rfl⟩
  | c :: cs, i, h => by
      obtain ⟨hsat, hcap⟩ :=
        Constraint.satisfiedAll_congr (i := i + 1) cs fun j hj => h j (Nat.le_of_succ_le hj)
      simp only [Constraint.SatisfiedAll, Constraint.capturedAll]
      rw [h i (Nat.le_refl i), hsat, hcap]
      exact ⟨Iff.rfl, rfl⟩

/-! ## Bindings joined with captured nodes -/

namespace Bindings

variable {b d e : Bindings} {cap cap' : List (String × Site)}

/-- The bindings `d` are the map `b` and the captured names and nodes together. -/
def Joins (b : Bindings) (cap : List (String × Site)) (d : Bindings) : Prop :=
  ∀ n u, d.find? n = some u ↔ b.find? n = some u ∨ (n, u) ∈ cap

theorem joins_nil : Joins b [] b := fun n u => by simp

theorem Joins.trans (h : Joins b cap d) (h' : Joins d cap' e) : Joins b (cap ++ cap') e := by
  intro n u
  rw [h' n u, h n u, List.mem_append, or_assoc]

theorem In.joins_capture? {name : Option String} (hb : b.In t) (hs : s.In t)
    (h : b.capture? name s = some d) : Joins b (name.toList.map (·, s)) d := by
  intro n u
  rcases capture?_cases h with ⟨rfl, rfl⟩ | ⟨m, rfl, hm, rfl⟩ | ⟨m, v, rfl, hm, hsame, rfl⟩
  · simp
  · rw [find?_append]
    by_cases hnm : n = m
    · subst hnm
      rw [hm]
      simp [find?, eq_comm]
    · have hother : find? [(m, s)] n = none := find?_eq_none_iff.mpr (by simpa using hnm)
      simp [hother, hnm]
  · obtain rfl : v = s := ((hb.site_in hm).same_iff hs).mp hsame
    simp only [Option.toList_some, List.map_cons, List.map_nil, List.mem_singleton, Prod.mk.injEq]
    refine ⟨Or.inl, ?_⟩
    rintro (hu | ⟨rfl, rfl⟩)
    · exact hu
    · exact hm

/-- The map sends the names to these nodes. -/
def Assigns (f : String → Option Site) (cap : List (String × Site)) : Prop :=
  ∀ e ∈ cap, f e.1 = some e.2

/-- The map extends the bindings. -/
def Extends (f : String → Option Site) (b : Bindings) : Prop :=
  ∀ n u, b.find? n = some u → f n = some u

theorem Extends.joins {f : String → Option Site} (hb : Extends f b) (hcap : Assigns f cap)
    (h : Joins b cap d) : Extends f d := by
  intro n u hu
  rcases (h n u).mp hu with hu | hu
  · exact hb n u hu
  · exact hcap (n, u) hu

/-- A node can be captured if some map extends the bindings and sends the name to the node. -/
theorem Extends.exists_capture? {f : String → Option Site} {name : Option String}
    (hb : Extends f b) (hname : Assigns f (name.toList.map (·, s))) :
    ∃ d, b.capture? name s = some d := by
  cases name with
  | none => exact ⟨b, rfl⟩
  | some n =>
      have hn : f n = some s := hname (n, s) (by simp)
      simp only [capture?, bind?]
      split
      · exact ⟨_, rfl⟩
      · rename_i u hu
        obtain rfl : u = s := Option.some.inj ((hb n u hu).symm.trans hn)
        exact ⟨b, by simp [Site.same]⟩

end Bindings

/-! ## Answers come from assignments -/

open Bindings in
mutual
/-- Every answer of a pattern comes from an assignment that satisfies it. -/
theorem NodePattern.exists_satisfied (hg : g.Within t) : (p : NodePattern) → {s : Site} →
    {b d : Bindings} → p.Positive → s.In t → b.In t → d ∈ p.answers g s b →
    ∃ a : Assignment, a.node [] = s ∧ p.Satisfied g a ∧ Joins b (p.captured a) d
  | .node label name constraint, s, b, d, hp, hs, hb, hd => by
      simp only [NodePattern.answers] at hd
      split at hd
      · rename_i hlabel
        split at hd
        · simp at hd
        · rename_i b₁ hcap
          have hpos : ∀ c, constraint = some c → c.Positive := by
            rintro c rfl
            exact hp
          obtain ⟨a, hsat, hjoin⟩ := Constraint.exists_satisfiedOption hg constraint hpos hs
            (hb.capture? hs hcap) hd
          exact ⟨.ofParts 0 s fun _ => a, rfl, ⟨hlabel, hsat⟩,
            (hb.joins_capture? hs hcap).trans hjoin⟩
      · simp at hd
theorem Constraint.exists_satisfiedOption (hg : g.Within t) : (c : Option Constraint) →
    {s : Site} → {b d : Bindings} → (∀ e, c = some e → e.Positive) → s.In t → b.In t →
    d ∈ Constraint.answersOption g c s b → ∃ a : Assignment,
      Constraint.SatisfiedOption g a s c ∧ Joins b (Constraint.capturedOption a c) d
  | none, s, _, _, _, _, _, hd =>
      ⟨.ofParts 0 s fun _ => ⟨fun _ => 0, fun _ => s⟩, trivial, List.mem_singleton.mp hd ▸ joins_nil⟩
  | some c, _, _, _, hpos, hs, hb, hd => Constraint.exists_satisfied hg c (hpos c rfl) hs hb hd
/-- Every answer of a constraint comes from an assignment under which it holds. -/
theorem Constraint.exists_satisfied (hg : g.Within t) : (c : Constraint) → {s : Site} →
    {b d : Bindings} → c.Positive → s.In t → b.In t → d ∈ c.answers g s b →
    ∃ a : Assignment, c.Satisfied g a s ∧ Joins b (c.captured a) d
  | .rel r partner, s, b, d, hp, hs, hb, hd => by
      simp only [Constraint.answers, List.mem_flatMap] at hd
      obtain ⟨u, hu, hd⟩ := hd
      obtain ⟨a, hnode, hsat, hjoin⟩ := NodePattern.exists_satisfied hg partner hp
        (Relation.in_of_mem_candidates hg hs hu) hb hd
      exact ⟨.ofParts 0 s fun _ => a, ⟨hnode ▸ hu, hsat⟩, hjoin⟩
  | .all items, _, _, _, hp, hs, hb, hd => Constraint.exists_satisfiedAll hg items 0 hp hs hb hd
  | .choice items, _, _, _, hp, hs, hb, hd => by
      obtain ⟨a, _, hsat, hjoin⟩ := Constraint.exists_satisfiedChoice hg items 0 hp hs hb hd
      exact ⟨a, hsat, hjoin⟩
theorem Constraint.exists_satisfiedAll (hg : g.Within t) : (cs : List Constraint) → (i : Nat) →
    {s : Site} → {b d : Bindings} → Constraint.PositiveAll cs → s.In t → b.In t →
    d ∈ Constraint.answersAll g cs s b → ∃ a : Assignment,
      Constraint.SatisfiedAll g a s i cs ∧ Joins b (Constraint.capturedAll a i cs) d
  | [], _, s, _, _, _, _, _, hd =>
      ⟨.ofParts 0 s fun _ => ⟨fun _ => 0, fun _ => s⟩, trivial, List.mem_singleton.mp hd ▸ joins_nil⟩
  | c :: cs, i, s, b, d, hp, hs, hb, hd => by
      simp only [Constraint.answersAll, List.mem_flatMap] at hd
      obtain ⟨b₁, hb₁, hd⟩ := hd
      obtain ⟨a, hsat, hjoin⟩ := Constraint.exists_satisfied hg c hp.1 hs hb hb₁
      obtain ⟨a', hsat', hjoin'⟩ := Constraint.exists_satisfiedAll hg cs (i + 1) hp.2 hs
        (Constraint.answers_in hg c hs hb hb₁) hd
      -- the first assignment serves within the first member, the second within the others
      let merged : Assignment := .ofParts 0 s fun j => if j = i then a else a'.under j
      have hfirst : merged.under i = a := if_pos rfl
      have hothers : ∀ j, i + 1 ≤ j → merged.under j = a'.under j :=
        fun j hj => if_neg (by omega)
      obtain ⟨hiff, hcap⟩ := Constraint.satisfiedAll_congr (s := s) (g := g) cs hothers
      refine ⟨merged, ⟨hfirst ▸ hsat, hiff.mpr hsat'⟩, ?_⟩
      rw [Constraint.capturedAll, hfirst, hcap]
      exact hjoin.trans hjoin'
theorem Constraint.exists_satisfiedChoice (hg : g.Within t) : (cs : List Constraint) →
    (i : Nat) → {s : Site} → {b d : Bindings} → Constraint.PositiveAll cs → s.In t → b.In t →
    d ∈ Constraint.answersEach g cs s b → ∃ a : Assignment, i ≤ a.item [] ∧
      Constraint.SatisfiedChoice g a s i cs ∧ Joins b (Constraint.capturedChoice a i cs) d
  | [], _, _, _, _, _, _, _, hd => by simp [Constraint.answersEach] at hd
  | c :: cs, i, s, b, d, hp, hs, hb, hd => by
      rcases List.mem_append.mp hd with hd | hd
      · obtain ⟨a, hsat, hjoin⟩ := Constraint.exists_satisfied hg c hp.1 hs hb hd
        refine ⟨.ofParts i s fun _ => a, Nat.le_refl i, ?_, ?_⟩
        · rw [Constraint.SatisfiedChoice, if_pos (Assignment.item_ofParts i s _)]
          exact hsat
        · rw [Constraint.capturedChoice, if_pos (Assignment.item_ofParts i s _)]
          exact hjoin
      · obtain ⟨a, hle, hsat, hjoin⟩ :=
          Constraint.exists_satisfiedChoice hg cs (i + 1) hp.2 hs hb hd
        have hne : a.item [] ≠ i := by omega
        refine ⟨a, by omega, ?_, ?_⟩
        · rw [Constraint.SatisfiedChoice, if_neg hne]
          exact hsat
        · rw [Constraint.capturedChoice, if_neg hne]
          exact hjoin
end

/-! ## Assignments give answers -/

open Bindings in
mutual
/-- An assignment that satisfies a pattern gives an answer, if no name has two nodes. -/
theorem NodePattern.exists_answer {f : String → Option Site} (hg : g.Within t) :
    (p : NodePattern) → {a : Assignment} → {b : Bindings} → (a.node []).In t → b.In t →
    p.Satisfied g a → Extends f b → Assigns f (p.captured a) →
    ∃ d ∈ p.answers g (a.node []) b, Joins b (p.captured a) d
  | .node label name constraint, a, b, hs, hb, hsat, hext, hcap => by
      obtain ⟨hlabel, hsat⟩ := hsat
      simp only [NodePattern.captured, Assigns, List.forall_mem_append] at hcap
      obtain ⟨hname, hcap⟩ := hcap
      obtain ⟨b₁, hb₁⟩ := hext.exists_capture? hname
      have hjoin₁ := hb.joins_capture? hs hb₁
      obtain ⟨d, hd, hjoin⟩ := Constraint.exists_answerOption hg constraint hs
        (hb.capture? hs hb₁) hsat (hext.joins hname hjoin₁) hcap
      refine ⟨d, ?_, hjoin₁.trans hjoin⟩
      simp only [NodePattern.answers, hlabel, hb₁, if_true]
      exact hd
theorem Constraint.exists_answerOption {f : String → Option Site} (hg : g.Within t) :
    (c : Option Constraint) → {a : Assignment} → {s : Site} → {b : Bindings} → s.In t → b.In t →
    Constraint.SatisfiedOption g a s c → Extends f b → Assigns f (Constraint.capturedOption a c) →
    ∃ d ∈ Constraint.answersOption g c s b, Joins b (Constraint.capturedOption a c) d
  | none, _, _, b, _, _, _, _, _ => ⟨b, List.mem_singleton_self b, joins_nil⟩
  | some c, _, _, _, hs, hb, hsat, hext, hcap =>
      Constraint.exists_answer hg c hs hb hsat hext hcap
/-- An assignment under which a constraint holds gives an answer, if no name has two nodes. -/
theorem Constraint.exists_answer {f : String → Option Site} (hg : g.Within t) :
    (c : Constraint) → {a : Assignment} → {s : Site} → {b : Bindings} → s.In t → b.In t →
    c.Satisfied g a s → Extends f b → Assigns f (c.captured a) →
    ∃ d ∈ c.answers g s b, Joins b (c.captured a) d
  | .rel r partner, a, s, b, hs, hb, hsat, hext, hcap => by
      obtain ⟨hu, hsat⟩ := hsat
      obtain ⟨d, hd, hjoin⟩ := NodePattern.exists_answer hg partner
        (Relation.in_of_mem_candidates hg hs hu) hb hsat hext hcap
      exact ⟨d, List.mem_flatMap.mpr ⟨_, hu, hd⟩, hjoin⟩
  | .all items, _, _, _, hs, hb, hsat, hext, hcap =>
      Constraint.exists_answerAll hg items hs hb hsat hext hcap
  | .choice items, _, _, _, hs, hb, hsat, hext, hcap =>
      Constraint.exists_answerChoice hg items hs hb hsat hext hcap
theorem Constraint.exists_answerAll {f : String → Option Site} (hg : g.Within t) :
    (cs : List Constraint) → {a : Assignment} → {i : Nat} → {s : Site} → {b : Bindings} →
    s.In t → b.In t → Constraint.SatisfiedAll g a s i cs → Extends f b →
    Assigns f (Constraint.capturedAll a i cs) →
    ∃ d ∈ Constraint.answersAll g cs s b, Joins b (Constraint.capturedAll a i cs) d
  | [], _, _, _, b, _, _, _, _, _ => ⟨b, List.mem_singleton_self b, joins_nil⟩
  | c :: cs, a, i, s, b, hs, hb, hsat, hext, hcap => by
      obtain ⟨hsat₁, hsat⟩ := hsat
      simp only [Constraint.capturedAll, Assigns, List.forall_mem_append] at hcap
      obtain ⟨hcap₁, hcap⟩ := hcap
      obtain ⟨b₁, hb₁, hjoin₁⟩ := Constraint.exists_answer hg c hs hb hsat₁ hext hcap₁
      obtain ⟨d, hd, hjoin⟩ := Constraint.exists_answerAll hg cs hs
        (Constraint.answers_in hg c hs hb hb₁) hsat (hext.joins hcap₁ hjoin₁) hcap
      exact ⟨d, List.mem_flatMap.mpr ⟨b₁, hb₁, hd⟩, hjoin₁.trans hjoin⟩
theorem Constraint.exists_answerChoice {f : String → Option Site} (hg : g.Within t) :
    (cs : List Constraint) → {a : Assignment} → {i : Nat} → {s : Site} → {b : Bindings} →
    s.In t → b.In t → Constraint.SatisfiedChoice g a s i cs → Extends f b →
    Assigns f (Constraint.capturedChoice a i cs) →
    ∃ d ∈ Constraint.answersEach g cs s b, Joins b (Constraint.capturedChoice a i cs) d
  | [], _, _, _, _, _, _, hsat, _, _ => hsat.elim
  | c :: cs, a, i, s, b, hs, hb, hsat, hext, hcap => by
      simp only [Constraint.SatisfiedChoice] at hsat
      simp only [Constraint.capturedChoice] at hcap ⊢
      split at hsat
      · rename_i hitem
        rw [if_pos hitem] at hcap ⊢
        obtain ⟨d, hd, hjoin⟩ := Constraint.exists_answer hg c hs hb hsat hext hcap
        exact ⟨d, List.mem_append_left _ hd, hjoin⟩
      · rename_i hitem
        rw [if_neg hitem] at hcap ⊢
        obtain ⟨d, hd, hjoin⟩ := Constraint.exists_answerChoice hg cs hs hb hsat hext hcap
        exact ⟨d, List.mem_append_right _ hd, hjoin⟩
end

end Treebank
