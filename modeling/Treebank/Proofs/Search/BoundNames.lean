import Treebank.Proofs.Search.Reports
import Treebank.Proofs.Search.SurelyBound

/-!
# The names that a match binds

A match binds the names that are sure, and no others than those that the pattern can bind: what is
negated binds nothing. They are bound to nodes of the tree, and the name of the pattern itself to the
node that it is found at.
-/

namespace Treebank

mutual
/-- The capture names in negated constraints, as often as they occur there. -/
def NodePattern.negated : NodePattern → List String
  | .node _ _ none => []
  | .node _ _ (some c) => c.negated
def Constraint.negated : Constraint → List String
  | .rel _ partner => partner.negated
  | .all items => Constraint.negatedOf items
  | .choice items => Constraint.negatedOf items
  | .not item => item.names
  | .maybe item => item.negated
def Constraint.negatedOf : List Constraint → List String
  | [] => []
  | c :: cs => c.negated ++ Constraint.negatedOf cs
end

/-! ## Names that can be bound -/

variable {g : Grounds} {n : String}

mutual
/-- Each occurrence of a name is in a negated constraint, or the name can be bound there. -/
theorem NodePattern.count_names :
    (p : NodePattern) → p.names.count n = p.bindable.count n + p.negated.count n
  | .node _ own none => by simp [NodePattern.names, NodePattern.bindable, NodePattern.negated]
  | .node _ own (some c) => by
      have hc := Constraint.count_names c
      simp only [NodePattern.names, NodePattern.bindable, NodePattern.negated, List.count_append]
      omega
theorem Constraint.count_names :
    (c : Constraint) → c.names.count n = c.bindable.count n + c.negated.count n
  | .rel _ partner => by
      have hpartner := NodePattern.count_names partner
      simpa only [Constraint.names, Constraint.bindable, Constraint.negated] using hpartner
  | .all items => by
      have hitems := Constraint.count_namesOf items
      simpa only [Constraint.names, Constraint.bindable, Constraint.negated] using hitems
  | .choice items => by
      have hitems := Constraint.count_namesOf items
      simpa only [Constraint.names, Constraint.bindable, Constraint.negated] using hitems
  | .not item => by simp [Constraint.names, Constraint.bindable, Constraint.negated]
  | .maybe item => by
      have hitem := Constraint.count_names item
      simpa only [Constraint.names, Constraint.bindable, Constraint.negated] using hitem
theorem Constraint.count_namesOf : (cs : List Constraint) → (Constraint.namesOf cs).count n =
    (Constraint.bindableOf cs).count n + (Constraint.negatedOf cs).count n
  | [] => by simp [Constraint.namesOf, Constraint.bindableOf, Constraint.negatedOf]
  | c :: cs => by
      have hc := Constraint.count_names c
      have hcs := Constraint.count_namesOf cs
      simp only [Constraint.namesOf, Constraint.bindableOf, Constraint.negatedOf, List.count_append]
      omega
end

/-- A name cannot be bound if and only if it occurs in negated constraints only. -/
theorem NodePattern.not_mem_bindable {p : NodePattern} :
    n ∉ p.bindable ↔ p.names.count n = p.negated.count n := by
  have hcount := NodePattern.count_names p (n := n)
  rw [← List.count_eq_zero]
  omega

theorem mem_sortedNames {names : List String} : n ∈ sortedNames names ↔ n ∈ names := by
  simp [sortedNames]

namespace Bindings

variable {b d : Bindings} {s u : Site} {as : List Bindings}

theorem find?_capture?_of_ne {name : Option String} (h : b.capture? name s = some d)
    (hn : n ∉ name.toList) : d.find? n = b.find? n := by
  rcases capture?_cases h with ⟨_, rfl⟩ | ⟨m, rfl, _, rfl⟩ | ⟨m, u, rfl, _, _, rfl⟩
  · rfl
  · have hother : find? [(m, s)] n = none := find?_eq_none_iff.mpr (by simpa using hn)
    rw [find?_append, hother, Option.or_none]
  · rfl

/-- The node of a name stays when the answers of a pattern extend the bindings. -/
theorem Parallel.find?_eq (h : Parallel b b as as) (hd : d ∈ as) (hn : b.find? n = some u) :
    d.find? n = some u := by
  obtain ⟨ds, rfl, _⟩ := h
  obtain ⟨e, _, rfl⟩ := List.mem_map.mp hd
  rw [find?_append, hn, Option.some_or]

end Bindings

mutual
/-- A name that a pattern cannot bind stands for what it stood for before. -/
theorem NodePattern.find?_eq : (p : NodePattern) → {s : Site} → {b d : Bindings} →
    n ∉ p.bindable → d ∈ p.answers g s b → d.find? n = b.find? n
  | .node label own constraint, s, b, d, hn, hd => by
      have hown : n ∉ own.toList := by
        intro hmem
        cases constraint <;> simp [NodePattern.bindable, hmem] at hn
      have hconstraint : ∀ c, constraint = some c → n ∉ c.bindable := by
        intro c hc hmem
        subst hc
        simp [NodePattern.bindable, hmem] at hn
      simp only [NodePattern.answers] at hd
      split at hd
      · split at hd
        · simp at hd
        · rename_i b₁ hcap
          rw [← Bindings.find?_capture?_of_ne hcap hown]
          cases constraint with
          | none => rw [List.mem_singleton.mp hd]
          | some c => exact Constraint.find?_eq c (hconstraint c rfl) hd
      · simp at hd
theorem Constraint.find?_eq : (c : Constraint) → {s : Site} → {b d : Bindings} →
    n ∉ c.bindable → d ∈ c.answers g s b → d.find? n = b.find? n
  | .rel r partner, s, b, d, hn, hd => by
      simp only [Constraint.answers, List.mem_flatMap] at hd
      obtain ⟨u, _, hd⟩ := hd
      exact NodePattern.find?_eq partner hn hd
  | .all items, s, b, d, hn, hd => Constraint.find?_eq_all items hn hd
  | .choice items, s, b, d, hn, hd => Constraint.find?_eq_choice items hn hd
  | .not item, s, b, d, hn, hd => by
      simp only [Constraint.answers] at hd
      split at hd
      · rw [List.mem_singleton.mp hd]
      · simp at hd
  | .maybe item, s, b, d, hn, hd => by
      simp only [Constraint.answers] at hd
      split at hd
      · rw [List.mem_singleton.mp hd]
      · exact Constraint.find?_eq item hn hd
theorem Constraint.find?_eq_all : (cs : List Constraint) → {s : Site} → {b d : Bindings} →
    n ∉ Constraint.bindableOf cs → d ∈ Constraint.answersAll g cs s b → d.find? n = b.find? n
  | [], _, _, _, _, hd => by rw [List.mem_singleton.mp hd]
  | c :: cs, s, b, d, hn, hd => by
      simp only [Constraint.bindableOf, List.mem_append, not_or] at hn
      simp only [Constraint.answersAll, List.mem_flatMap] at hd
      obtain ⟨b₁, hb₁, hd⟩ := hd
      rw [Constraint.find?_eq_all cs hn.2 hd, Constraint.find?_eq c hn.1 hb₁]
theorem Constraint.find?_eq_choice : (cs : List Constraint) → {s : Site} → {b d : Bindings} →
    n ∉ Constraint.bindableOf cs → d ∈ Constraint.answersEach g cs s b → d.find? n = b.find? n
  | [], _, _, _, _, hd => by simp [Constraint.answersEach] at hd
  | c :: cs, s, b, d, hn, hd => by
      simp only [Constraint.bindableOf, List.mem_append, not_or] at hn
      rcases List.mem_append.mp hd with hd | hd
      · exact Constraint.find?_eq c hn.1 hd
      · exact Constraint.find?_eq_choice cs hn.2 hd
end

/-! ## The name of the pattern itself -/

/-- The name of a pattern is bound to the node that the pattern fits, unless it was bound before. -/
theorem NodePattern.find?_name {p : NodePattern} {s : Site} {b d : Bindings}
    (hname : p.name = some n) (hfree : b.find? n = none) (hd : d ∈ p.answers g s b) :
    d.find? n = some s := by
  obtain ⟨label, own, constraint⟩ := p
  obtain rfl : own = some n := hname
  have hcap : b.capture? (some n) s = some (b ++ [(n, s)]) := by
    simp [Bindings.capture?, Bindings.bind?, hfree]
  have hbound : Bindings.find? (b ++ [(n, s)]) n = some s := by
    rw [Bindings.find?_append, hfree]
    simp [Bindings.find?]
  simp only [NodePattern.answers, hcap] at hd
  split at hd
  · cases constraint with
    | none => rw [List.mem_singleton.mp hd, hbound]
    | some c =>
        have hextends := Constraint.answers_parallel g c s (Bindings.agreeOn_self _ (b ++ [(n, s)]))
        exact hextends.find?_eq hd hbound
  · simp at hd

namespace CompiledPattern

/-- The names that a match binds can be bound by the pattern, and not only in negated constraints; the
sure names are among them. The nodes are nodes of the tree, and the name of the pattern stands for the
node that it is found at. -/
theorem bindings_within_captures {p : CompiledPattern} {t : Tree} {m : Match}
    (h : p.Reports t m) :
    (∀ e ∈ m.bindings, e.1 ∈ p.captures ∧ e.2.In t) ∧
    (∀ n, p.root.names.count n = p.root.negated.count n → m.bindings.find? n = none) ∧
    (∀ n, p.root.surelyBinds n = true → (m.bindings.find? n).isSome) ∧
    m.anchor.In t ∧
    ∀ n, p.root.name = some n → m.bindings.find? n = some m.anchor := by
  obtain ⟨hanchor, hanswer⟩ := h.means
  have hin := bindings_in_of_mem_answers hanchor hanswer
  have hfree : ∀ n, n ∉ p.root.bindable → m.bindings.find? n = none :=
    fun n hn => NodePattern.find?_eq p.root hn hanswer
  refine ⟨?_, ?_, ?_, hanchor, ?_⟩
  · intro e he
    refine ⟨?_, hin.sites_in e he⟩
    rw [captures, mem_sortedNames]
    by_cases hn : e.1 ∈ p.root.bindable
    · exact hn
    · have hbound := hin.find?_eq_some_iff.mpr he
      rw [hfree e.1 hn] at hbound
      cases hbound
  · intro n hn
    exact hfree n (NodePattern.not_mem_bindable.mpr hn)
  · intro n hn
    exact NodePattern.find?_isSome p.root hn hanswer
  · intro n hn
    exact NodePattern.find?_name hn rfl hanswer

/-- A phrase with a determiner, without a verb, and with an adjective if it can be had. -/
theorem bindings_within_captures_of_phrase :
    let labelled (label name : String) :=
      NodePattern.node (some ⟨[.literal label], false⟩) (some name) none
    let root := NodePattern.node (some ⟨[.literal "NP"], false⟩) (some "n") (some (.all [
      .rel .parentOf (labelled "DT" "d"), .not (.rel .dominates (labelled "VB" "v")),
      .maybe (.rel .parentOf (labelled "JJ" "j"))]))
    let p : CompiledPattern := ⟨"NP=n < DT=d !<< VB=v ?< JJ=j", root, ⟨HeadFinder.firstChild, id⟩⟩
    let determiner := Tree.node "DT" [.leaf "the"]
    let t := Tree.node "NP" [determiner, .node "NN" [.leaf "dog"]]
    let m : Match := ⟨.top t, [("n", .top t), ("d", ⟨determiner, [(0, t)]⟩)]⟩
    p.Reports t m ∧ "d" ∈ p.captures ∧ "v" ∉ p.captures ∧ m.bindings.find? "v" = none ∧
      (m.bindings.find? "d").isSome ∧ m.bindings.find? "n" = some m.anchor := by
  intro labelled root p determiner t m
  have hfirst : p.firstMatch? t = some m := by
    rw [firstMatch?_eq]
    rfl
  have hreports : p.Reports t m := by
    rw [firstMatch?_eq_head?] at hfirst
    exact Or.inl (List.mem_of_head? hfirst)
  obtain ⟨hcaptures, hnegated, hsure, _, hroot⟩ := bindings_within_captures hreports
  have hd : "d" ∈ p.captures := (hcaptures ("d", ⟨determiner, [(0, t)]⟩) (by simp [m])).1
  have hv : "v" ∉ p.captures := by
    rw [captures, mem_sortedNames]
    decide +kernel
  exact ⟨hreports, hd, hv, hnegated "v" (by decide +kernel), hsure "d" (by decide +kernel),
    hroot "n" rfl⟩

end CompiledPattern

end Treebank
