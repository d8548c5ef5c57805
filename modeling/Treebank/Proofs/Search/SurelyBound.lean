import Treebank.Proofs.Search.Meaning

/-!
# Names that every answer binds

A node pattern surely binds its own name and what its constraint surely binds. Of alternatives, each
must bind a name for it to be sure; what is negated or optional makes no name sure.
-/

namespace Treebank

mutual
/-- Whether the name is bound under every answer of the pattern. -/
def NodePattern.surelyBinds (name : String) : NodePattern → Bool
  | .node _ own none => own == some name
  | .node _ own (some c) => own == some name || c.surelyBinds name
def Constraint.surelyBinds (name : String) : Constraint → Bool
  | .rel _ partner => partner.surelyBinds name
  | .all items => Constraint.someSurelyBinds name items
  | .choice items => Constraint.eachSurelyBinds name items
  | .not _ => false
  | .maybe _ => false
def Constraint.someSurelyBinds (name : String) : List Constraint → Bool
  | [] => false
  | c :: cs => c.surelyBinds name || Constraint.someSurelyBinds name cs
def Constraint.eachSurelyBinds (name : String) : List Constraint → Bool
  | [] => true
  | c :: cs => c.surelyBinds name && Constraint.eachSurelyBinds name cs
end

/-! ## Answers extend given bindings -/

namespace Bindings

variable {b d : Bindings} {as : List Bindings} {name : String}

theorem agreeOn_self (names : List String) (b : Bindings) : AgreeOn names b b := fun _ _ => rfl

/-- Bindings of a name stay when the answers of a pattern extend them. -/
theorem Parallel.find?_isSome (h : Parallel b b as as) (hd : d ∈ as)
    (hname : (b.find? name).isSome) : (d.find? name).isSome := by
  obtain ⟨ds, rfl, _⟩ := h
  obtain ⟨e, _, rfl⟩ := List.mem_map.mp hd
  rw [find?_append, Option.isSome_or, hname, Bool.true_or]

theorem find?_capture? {s : Site} (h : b.capture? (some name) s = some d) :
    (d.find? name).isSome := by
  rcases capture?_cases h with ⟨hname, _⟩ | ⟨n, hname, hfree, rfl⟩ | ⟨n, u, hname, hu, _, rfl⟩
  · cases hname
  · cases hname
    rw [find?_append, hfree]
    simp [find?]
  · cases hname
    rw [hu]
    rfl

end Bindings

/-! ## Sure names are bound -/

variable {g : Grounds} {name : String}

mutual
theorem NodePattern.find?_isSome : (p : NodePattern) → {s : Site} → {b d : Bindings} →
    p.surelyBinds name = true → d ∈ p.answers g s b → (d.find? name).isSome
  | .node label own constraint, s, b, d, hsure, hd => by
      simp only [NodePattern.answers] at hd
      split at hd
      · split at hd
        · simp at hd
        · rename_i b₁ hcap
          cases constraint with
          | none =>
              simp only [NodePattern.surelyBinds, beq_iff_eq] at hsure
              subst hsure
              rw [Constraint.answersOption, List.mem_singleton] at hd
              exact hd ▸ Bindings.find?_capture? hcap
          | some c =>
              simp only [NodePattern.surelyBinds, Bool.or_eq_true, beq_iff_eq] at hsure
              rw [Constraint.answersOption] at hd
              rcases hsure with rfl | hsure
              · have hextends := Constraint.answers_parallel g c s (Bindings.agreeOn_self _ b₁)
                exact hextends.find?_isSome hd (Bindings.find?_capture? hcap)
              · exact Constraint.find?_isSome c hsure hd
      · simp at hd
theorem Constraint.find?_isSome : (c : Constraint) → {s : Site} → {b d : Bindings} →
    c.surelyBinds name = true → d ∈ c.answers g s b → (d.find? name).isSome
  | .rel r partner, s, b, d, hsure, hd => by
      simp only [Constraint.answers, List.mem_flatMap] at hd
      obtain ⟨u, _, hd⟩ := hd
      exact NodePattern.find?_isSome partner hsure hd
  | .all items, _, _, _, hsure, hd => Constraint.find?_isSome_all items hsure hd
  | .choice items, _, _, _, hsure, hd => Constraint.find?_isSome_choice items hsure hd
  | .not _, _, _, _, hsure, _ => by simp [Constraint.surelyBinds] at hsure
  | .maybe _, _, _, _, hsure, _ => by simp [Constraint.surelyBinds] at hsure
theorem Constraint.find?_isSome_all : (cs : List Constraint) → {s : Site} → {b d : Bindings} →
    Constraint.someSurelyBinds name cs = true → d ∈ Constraint.answersAll g cs s b →
    (d.find? name).isSome
  | [], _, _, _, hsure, _ => by simp [Constraint.someSurelyBinds] at hsure
  | c :: cs, s, b, d, hsure, hd => by
      simp only [Constraint.answersAll, List.mem_flatMap] at hd
      obtain ⟨b₁, hb₁, hd⟩ := hd
      simp only [Constraint.someSurelyBinds, Bool.or_eq_true] at hsure
      rcases hsure with hsure | hsure
      · have hextends := Constraint.answersAll_parallel g cs s (Bindings.agreeOn_self _ b₁)
        exact hextends.find?_isSome hd (Constraint.find?_isSome c hsure hb₁)
      · exact Constraint.find?_isSome_all cs hsure hd
theorem Constraint.find?_isSome_choice : (cs : List Constraint) → {s : Site} → {b d : Bindings} →
    Constraint.eachSurelyBinds name cs = true → d ∈ Constraint.answersEach g cs s b →
    (d.find? name).isSome
  | [], _, _, _, _, hd => by simp [Constraint.answersEach] at hd
  | c :: cs, s, b, d, hsure, hd => by
      simp only [Constraint.eachSurelyBinds, Bool.and_eq_true] at hsure
      rcases List.mem_append.mp hd with hd | hd
      · exact Constraint.find?_isSome c hsure.1 hd
      · exact Constraint.find?_isSome_choice cs hsure.2 hd
end

end Treebank
