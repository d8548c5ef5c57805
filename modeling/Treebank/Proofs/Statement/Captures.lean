import Treebank.Proofs.Basic
import Treebank.Statement.Captures

/-!
# Statements one after the other

Statements are accepted one by one, each with the names known so far. What is found so is what is found
of all of them at once: they are accepted together if and only if none of them is the first to have a
fault.
-/

namespace Treebank.Statement

variable {p : CompiledPattern} {known : List String}

/-! ## One by one -/

/-- The numbered texts write these statements, which use only names known before them. -/
inductive Accepts : (known : List String) → List (Nat × String) → List (String × Statement) → Prop
  | nil {known : List String} : Accepts known [] []
  | cons {known : List String} {n : Nat} {text : String} {rest : List (Nat × String)} {st : Statement}
      {pairs : List (String × Statement)} : read text = .ok st → (∀ name ∈ st.referenced, name ∈ known) →
      Accepts (known ++ st.introduced) rest pairs →
      Accepts known ((n, text) :: rest) ((Text.trim text, st) :: pairs)

/-- The text with this number is the first that writes no statement or uses a name not known before it;
`declared` are the names that the fault tells. -/
inductive Fails (declared : List String) :
    (known : List String) → List (Nat × String) → Nat → Error → Prop
  | unread {known : List String} {n : Nat} {text : String} {rest : List (Nat × String)} {e : Error} :
      read text = .error e → Fails declared known ((n, text) :: rest) n e
  | unknown {known : List String} {n : Nat} {text name : String} {rest : List (Nat × String)}
      {st : Statement} : read text = .ok st →
      st.referenced.find? (fun name => !known.contains name) = some name →
      Fails declared known ((n, text) :: rest) n
        (.unboundCapture name (sortedNames declared) (Text.trim text))
  | later {known : List String} {n m : Nat} {text : String} {rest : List (Nat × String)}
      {st : Statement} {e : Error} : read text = .ok st →
      (∀ name ∈ st.referenced, name ∈ known) → Fails declared (known ++ st.introduced) rest m e →
      Fails declared known ((n, text) :: rest) m e

/-- Either all of the texts are accepted or one of them is the first to fail. -/
theorem accepts_or_fails (declared known : List String) (texts : List (Nat × String)) :
    (∃ pairs, Accepts known texts pairs) ∨ ∃ n e, Fails declared known texts n e := by
  induction texts generalizing known with
  | nil => exact Or.inl ⟨[], .nil⟩
  | cons numbered rest ih =>
      obtain ⟨n, text⟩ := numbered
      cases hread : read text with
      | error e => exact Or.inr ⟨n, e, .unread hread⟩
      | ok st =>
          cases hunknown : st.referenced.find? fun name => !known.contains name with
          | some name => exact Or.inr ⟨n, _, .unknown hread hunknown⟩
          | none =>
              have hknown : ∀ name ∈ st.referenced, name ∈ known := by simpa using hunknown
              rcases ih (known ++ st.introduced) with ⟨pairs, hpairs⟩ | ⟨m, e, hfails⟩
              · exact Or.inl ⟨_, .cons hread hknown hpairs⟩
              · exact Or.inr ⟨m, e, .later hread hknown hfails⟩

theorem Accepts.not_fails {declared : List String} {texts : List (Nat × String)}
    {pairs : List (String × Statement)} (h : Accepts known texts pairs) {n : Nat} {e : Error} :
    ¬ Fails declared known texts n e := by
  intro hfails
  induction h with
  | nil => cases hfails
  | cons hread hknown _ ih =>
      cases hfails with
      | unread hread' =>
          rw [hread] at hread'
          cases hread'
      | unknown hread' hunknown =>
          rw [hread] at hread'
          cases hread'
          have hmem := hknown _ (List.mem_of_find?_eq_some hunknown)
          simpa [hmem] using List.find?_some hunknown
      | later hread' _ hlater =>
          rw [hread] at hread'
          cases hread'
          exact ih hlater

/-! ## All at once -/

theorem firstUnknown?_cons_eq_none {text : String} {st : Statement}
    {pairs : List (String × Statement)} :
    firstUnknown? known ((text, st) :: pairs) = none ↔
      (∀ name ∈ st.referenced, name ∈ known) ∧ firstUnknown? (known ++ st.introduced) pairs = none := by
  rw [firstUnknown?]
  split
  · rename_i name hname
    have hmem := List.mem_of_find?_eq_some hname
    have hnew := List.find?_some hname
    simp only [Bool.not_eq_true', List.contains_eq_mem, decide_eq_false_iff_not] at hnew
    exact ⟨nofun, fun hknown => absurd (hknown.1 name hmem) hnew⟩
  · rename_i hnone
    have hknown : ∀ name ∈ st.referenced, name ∈ known := by simpa using hnone
    exact ⟨fun h => ⟨hknown, h⟩, And.right⟩

theorem firstUnknown?_append {before after : List (String × Statement)}
    (h : firstUnknown? known before = none) :
    firstUnknown? known (before ++ after) =
      firstUnknown? (known ++ before.flatMap (·.2.introduced)) after := by
  induction before generalizing known with
  | nil => rw [List.flatMap_nil, List.append_nil, List.nil_append]
  | cons pair before ih =>
      obtain ⟨text, st⟩ := pair
      obtain ⟨hknown, hmore⟩ := firstUnknown?_cons_eq_none.mp h
      have hnone : (st.referenced.find? fun name => !known.contains name) = none := by
        simpa using hknown
      rw [List.cons_append, firstUnknown?, hnone, List.flatMap_cons, ← List.append_assoc]
      exact ih hmore

/-- Statements are accepted one by one if and only if they are read and use known names only. -/
theorem accepts_iff {texts : List (Nat × String)} {pairs : List (String × Statement)} :
    Accepts known texts pairs ↔
      ((texts.map (·.2)).mapM fun t => return (Text.trim t, ← read t)) = Except.ok pairs ∧
        firstUnknown? known pairs = none := by
  constructor
  · intro h
    induction h with
    | nil => exact ⟨rfl, rfl⟩
    | cons hread hknown _ ih =>
        refine ⟨?_, firstUnknown?_cons_eq_none.mpr ⟨hknown, ih.2⟩⟩
        rw [List.map_cons, List.mapM_cons, hread, ok_bind, ih.1]
        rfl
  · rintro ⟨hread, hknown⟩
    induction texts generalizing known pairs with
    | nil =>
        cases hread
        exact .nil
    | cons numbered rest ih =>
        rw [List.map_cons, List.mapM_cons] at hread
        obtain ⟨pair, hpair, hread⟩ := exists_of_bind_eq_ok hread
        obtain ⟨others, hothers, hread⟩ := exists_of_bind_eq_ok hread
        obtain ⟨st, hst, hpair⟩ := exists_of_bind_eq_ok hpair
        cases hpair
        cases hread
        obtain ⟨hnames, hmore⟩ := firstUnknown?_cons_eq_none.mp hknown
        exact .cons hst hnames (ih hothers hmore)

section
variable {texts : List (Nat × String)} {pairs : List (String × Statement)}

theorem Accepts.unique {others : List (String × Statement)} (h : Accepts known texts pairs)
    (hothers : Accepts known texts others) : pairs = others :=
  Except.ok.inj ((accepts_iff.mp h).1.symm.trans (accepts_iff.mp hothers).1)

theorem Accepts.ne_nil_iff (h : Accepts known texts pairs) : pairs ≠ [] ↔ texts ≠ [] := by
  cases h <;> simp

end

/-- Statements are compiled together if and only if they are accepted one by one, and there are some. -/
theorem compile_eq_ok_iff {texts : List (Nat × String)} {sts : List Statement} :
    compile (texts.map (·.2)) (some p) = .ok sts ↔
      texts ≠ [] ∧ ∃ pairs, Accepts p.captures texts pairs ∧ sts = pairs.map (·.2) := by
  have hsome {pairs : List (String × Statement)} (h : Accepts p.captures texts pairs) :
      pairs.isEmpty = false ↔ texts ≠ [] := by
    rw [List.isEmpty_eq_false_iff, h.ne_nil_iff]
  simp only [compile]
  constructor
  · intro h
    obtain ⟨pairs, hpairs, h⟩ := exists_of_bind_eq_ok h
    split at h
    · cases h
    · rename_i hnotempty
      rw [checkCaptures] at h
      split at h
      · rename_i hknown
        cases h
        have haccepts : Accepts p.captures texts pairs := accepts_iff.mpr ⟨hpairs, hknown⟩
        exact ⟨(hsome haccepts).mp (Bool.eq_false_iff.mpr hnotempty), pairs, haccepts, rfl⟩
      · cases h
  · rintro ⟨hne, pairs, haccepts, rfl⟩
    obtain ⟨hpairs, hknown⟩ := accepts_iff.mp haccepts
    rw [hpairs, ok_bind]
    simp only [(hsome haccepts).mpr hne, Bool.false_eq_true, if_false, checkCaptures, hknown]
    rfl

end Treebank.Statement
