import Mathlib.Logic.Relation
import Treebank.Proofs.Reduction.Turn

/-!
# The course of reduction

Turn by turn, reduction goes from one point to the next: a point is given by the rules that are left
and by what has become of the tree. In the course of a reduction rules are tried and applied; when
there is nothing left to do, no further rule is tried.
-/

namespace Treebank.Reduction

open Progress

/-- Rules that are left, and the progress so far. -/
abbrev Point := List Rule × Progress

/-- A turn leads from the first point to the second. -/
def Turns (budget : Option Nat) (c c' : Point) : Prop :=
  runFrom c.2 (turn budget c.1) = (.ok c'.1, c'.2)

/-- Turns lead from the first point to the second. -/
abbrev Passes (budget : Option Nat) : Point → Point → Prop := Relation.ReflTransGen (Turns budget)

/-- The first of these rules is tried when they are left, in the course of reduction from a point. -/
def Tried (budget : Option Nat) (c : Point) (left : List Rule) : Prop :=
  ∃ q, Passes budget c (left, q) ∧ left ≠ [] ∧ q.isOver = false

/-- The first of these rules is applied when they are left, in the course of reduction from a point:
it is left again after its turn. -/
def Applied (budget : Option Nat) (c : Point) (left : List Rule) : Prop :=
  ∃ q q', Passes budget c (left, q) ∧ left ≠ [] ∧ Turns budget (left, q) (left, q')

/-- The first of these rules is tried, and no rule after it. -/
def StopsIn (budget : Option Nat) (c : Point) (left : List Rule) : Prop :=
  Tried budget c left ∧ ∀ other, Tried budget c other → left <:+ other

variable {budget : Option Nat} {c c' : Point} {p q : Progress} {r : Rule} {rules rest left : List Rule}

/-! ## One turn -/

/-- What a turn leads to that does not fail, the first rule and the rules after it being left. -/
inductive Step (budget : Option Nat) (r : Rule) (rest : List Rule) (p : Progress) : Point → Prop where
  | ended : p.isOver = true → Step budget r rest p ([], p)
  | unmatched {top : NodeId} : p.isOver = false → p.root = some top →
      r.pattern.firstMatch? (p.forest.tree top) = none → Step budget r rest p (rest, p)
  | exhausted {top : NodeId} {m : Match} {b : Nat} : p.isOver = false → p.root = some top →
      r.pattern.firstMatch? (p.forest.tree top) = some m → budget = some b → b ≤ p.applications →
      Step budget r rest p (rest, p.exhausted r.name b)
  | applied {top : NodeId} {m : Match} {s : Surgery.State} : p.isOver = false → p.root = some top →
      r.pattern.firstMatch? (p.forest.tree top) = some m →
      (∀ b, budget = some b → p.applications < b) →
      (Statement.applyAll r.statements).runFrom (.within p.forest top m.bindings) = (.ok (), s) →
      Step budget r rest p (r :: rest, p.applied r.name (p.forest.tree top) m s)

theorem root_of_isOver_eq_false (h : p.isOver = false) : ∃ top, p.root = some top := by
  rw [isOver, Bool.or_eq_false_iff] at h
  exact Option.isSome_iff_exists.mp (by simpa using h.1)

theorem Turns.step (h : Turns budget (r :: rest, p) c) : Step budget r rest p c := by
  obtain ⟨left, q⟩ := c
  rw [Turns, runFrom_turn_cons] at h
  cases hover : p.isOver with
  | true =>
      rw [hover] at h
      cases h
      exact .ended hover
  | false =>
      simp only [hover, Bool.false_eq_true, if_false] at h
      have hturned := r.turned budget p
      generalize runFrom p (r.turn budget) = out at hturned h
      cases hturned with
      | gone hroot =>
          obtain ⟨top, htop⟩ := root_of_isOver_eq_false hover
          rw [hroot] at htop
          cases htop
      | endless => cases h
      | unmatched hroot _ hmatch =>
          cases h
          exact .unmatched hover hroot hmatch
      | exhausted hroot _ hmatch hbudget hle =>
          cases h
          exact .exhausted hover hroot hmatch hbudget hle
      | applied hroot _ hmatch hbudget hrun =>
          cases h
          exact .applied hover hroot hmatch hbudget hrun
      | failed => cases h

theorem Turns.of_nil (h : Turns budget ([], p) c) : c = ([], p) := by
  obtain ⟨left, q⟩ := c
  obtain ⟨hleft, rfl⟩ := Prod.mk.inj h
  cases hleft
  rfl

theorem turns_rightUnique (budget : Option Nat) : Relator.RightUnique (Turns budget) := by
  rintro c ⟨left, q⟩ ⟨left', q'⟩ h h'
  rw [Turns, h] at h'
  cases h'
  rfl

theorem Turns.isSuffix (h : Turns budget c c') : c'.1 <:+ c.1 := by
  obtain ⟨_ | ⟨r, rest⟩, p⟩ := c
  · obtain rfl := h.of_nil
    exact List.suffix_refl []
  · cases h.step with
    | ended _ => exact List.nil_suffix
    | unmatched _ _ _ => exact List.suffix_cons r rest
    | exhausted _ _ _ _ _ => exact List.suffix_cons r rest
    | applied _ _ _ _ _ => exact List.suffix_refl _

theorem Turns.eq_of_isOver (h : Turns budget c c') (hover : c.2.isOver = true) : c'.2 = c.2 := by
  obtain ⟨_ | ⟨r, rest⟩, p⟩ := c
  · rw [h.of_nil]
  · have hnot : p.isOver ≠ false := by simp [hover]
    cases h.step with
    | ended _ => rfl
    | unmatched hfalse _ _ => exact absurd hfalse hnot
    | exhausted hfalse _ _ _ _ => exact absurd hfalse hnot
    | applied hfalse _ _ _ _ => exact absurd hfalse hnot

/-! ## Some turns -/

theorem Kept.passes {I : Progress → Prop} (hI : Kept I) (h : Passes budget c c') (hc : I c.2) :
    I c'.2 := by
  induction h with
  | refl => exact hc
  | @tail c c' _ hturns ih =>
      have hkept := hI.turn budget c.1 ih
      rwa [hturns] at hkept

theorem Passes.isSuffix (h : Passes budget c c') : c'.1 <:+ c.1 := by
  induction h with
  | refl => exact List.suffix_refl _
  | tail _ hturns ih => exact hturns.isSuffix.trans ih

theorem Passes.eq_of_isOver (h : Passes budget c c') (hover : c.2.isOver = true) : c'.2 = c.2 := by
  induction h with
  | refl => rfl
  | tail _ hturns ih => exact (hturns.eq_of_isOver (ih ▸ hover)).trans ih

theorem kept_le_applications (n : Nat) : Kept fun q => n ≤ q.applications where
  forest _ _ h := h
  applied _ _ _ _ _ h := Nat.le_succ_of_le h
  exhausted _ _ _ h := h

theorem Passes.applications_le (h : Passes budget c c') : c.2.applications ≤ c'.2.applications :=
  (kept_le_applications c.2.applications).passes h (Nat.le_refl _)

/-- The point that reduction starts from leads to the end of it. -/
theorem passes_of_byRules {turns : Nat} (h : runFrom p (byRules budget turns rules) = (.ok (), q)) :
    Passes budget (rules, p) ([], q) := by
  induction turns generalizing p rules with
  | zero =>
      cases rules with
      | nil =>
          cases h
          exact .refl
      | cons r rest => cases h
  | succ turns ih =>
      cases rules with
      | nil =>
          cases h
          exact .refl
      | cons r rest =>
          rw [runFrom_byRules_succ] at h
          rcases hturn : runFrom p (turn budget (r :: rest)) with ⟨e | left, p'⟩
          · rw [hturn] at h
            cases h
          · rw [hturn] at h
            exact .head (b := (left, p')) hturn (ih h)

/-! ## Rules that are tried and applied -/

theorem Tried.of_turns (hturns : Turns budget c c') (h : Tried budget c' left) :
    Tried budget c left := by
  obtain ⟨q, hpasses, hleft⟩ := h
  exact ⟨q, .head hturns hpasses, hleft⟩

theorem Tried.cases_turns (hturns : Turns budget c c') (h : Tried budget c left) :
    left = c.1 ∧ c.2.isOver = false ∨ Tried budget c' left := by
  obtain ⟨q, hpasses, hleft, hq⟩ := h
  rcases hpasses.cases_head with rfl | ⟨c'', hturns', hpasses⟩
  · exact Or.inl ⟨rfl, hq⟩
  · cases turns_rightUnique budget hturns hturns'
    exact Or.inr ⟨q, hpasses, hleft, hq⟩

theorem Tried.isSuffix (h : Tried budget c left) : left <:+ c.1 := by
  obtain ⟨q, hpasses, _⟩ := h
  exact hpasses.isSuffix

theorem not_tried_of_isOver (hover : c.2.isOver = true) : ¬Tried budget c left := by
  rintro ⟨q, hpasses, _, hq⟩
  have heq : q = c.2 := Passes.eq_of_isOver hpasses hover
  rw [heq, hover] at hq
  cases hq

theorem Applied.of_turns (hturns : Turns budget c c') (h : Applied budget c' left) :
    Applied budget c left := by
  obtain ⟨q, q', hpasses, hleft⟩ := h
  exact ⟨q, q', .head hturns hpasses, hleft⟩

/-- After the last rule there is none to apply. -/
theorem not_applied_nil (h : left <:+ []) : ¬Applied budget c left := by
  rintro ⟨_, _, _, hne, _⟩
  exact hne (List.suffix_nil.mp h)

/-- A rule that is applied has been tried. -/
theorem Applied.tried (h : Applied budget c left) : Tried budget c left := by
  obtain ⟨q, q', hpasses, hleft, hturns⟩ := h
  refine ⟨q, hpasses, hleft, ?_⟩
  obtain ⟨r, rest, rfl⟩ := List.exists_cons_of_ne_nil hleft
  cases hturns.step with
  | applied hover _ _ _ _ => exact hover

/-! ## The end -/

/-- Without an application, and with some of the budget left, all is as it was. -/
theorem Passes.eq_of_applications_eq (h : Passes budget c ([], q))
    (hexhausted : q.budgetExhausted = false) (heq : q.applications = c.2.applications) : q = c.2 := by
  induction h using Relation.ReflTransGen.head_induction_on with
  | refl => rfl
  | @head c c' hturns hpasses ih =>
      obtain ⟨_ | ⟨r, rest⟩, p⟩ := c
      · cases hturns.of_nil
        exact ih heq
      · cases hturns.step with
        | ended _ => exact ih heq
        | unmatched _ _ _ => exact ih heq
        | @exhausted top m b _ _ _ _ _ =>
            have hover : (p.exhausted r.name b).isOver = true := Bool.or_true _
            have hsame : q = p.exhausted r.name b := Passes.eq_of_isOver hpasses hover
            rw [hsame] at hexhausted
            cases hexhausted
        | applied _ _ _ _ _ =>
            have hle := Passes.applications_le hpasses
            simp only [Progress.applied] at hle heq
            omega

theorem Passes.applications_eq (h : Passes budget c ([], q))
    (hnone : ∀ left, ¬Applied budget c left) : q.applications = c.2.applications := by
  induction h using Relation.ReflTransGen.head_induction_on with
  | refl => rfl
  | @head c c' hturns hpasses ih =>
      have hrest := ih fun left hleft => hnone left (hleft.of_turns hturns)
      obtain ⟨_ | ⟨r, rest⟩, p⟩ := c
      · cases hturns.of_nil
        exact hrest
      · cases hturns.step with
        | ended _ => exact hrest
        | unmatched _ _ _ => exact hrest
        | exhausted _ _ _ _ _ => exact hrest
        | applied _ _ _ _ _ =>
            exact absurd ⟨p, _, .refl, List.cons_ne_nil r rest, hturns⟩ (hnone (r :: rest))

/-- A rule has no match in what is left of the tree at the end, if no rule after it has been
applied. -/
theorem Passes.unmatched {pre post : List Rule} {root : NodeId} (h : Passes budget c ([], q))
    (hexhausted : q.budgetExhausted = false) (hroot : q.root = some root)
    (hrules : c.1 = pre ++ r :: post) (hpost : ∀ left, left <:+ post → ¬Applied budget c left) :
    r.pattern.firstMatch? (q.forest.tree root) = none := by
  have hnot : q.isOver = false := by simp [isOver, hexhausted, hroot]
  induction h using Relation.ReflTransGen.head_induction_on generalizing pre with
  | refl => simp at hrules
  | @head c c' hturns hpasses ih =>
      have hpost' : ∀ left, left <:+ post → ¬Applied budget c' left :=
        fun left hleft happlied => hpost left hleft (happlied.of_turns hturns)
      obtain ⟨_ | ⟨x, rest⟩, p⟩ := c
      · simp at hrules
      · cases hturns.step with
        | ended hover =>
            have hsame : q = p := Passes.eq_of_isOver hpasses hover
            rw [hsame, hover] at hnot
            cases hnot
        | @unmatched top _ htop hmatch =>
            rcases List.cons_eq_append_iff.mp hrules with ⟨rfl, hcons⟩ | ⟨pre', rfl, hrest⟩
            · -- the rules after this one change nothing
              cases hcons
              have hsame : q = p := Passes.eq_of_applications_eq hpasses hexhausted
                (Passes.applications_eq hpasses fun left hleft =>
                  hpost' left hleft.tried.isSuffix hleft)
              rw [hsame] at hroot ⊢
              cases htop.symm.trans hroot
              exact hmatch
            · exact ih hrest hpost'
        | @exhausted top m b _ _ _ _ _ =>
            have hover : (p.exhausted x.name b).isOver = true := Bool.or_true _
            have hsame : q = p.exhausted x.name b := Passes.eq_of_isOver hpasses hover
            rw [hsame] at hexhausted
            cases hexhausted
        | applied _ _ _ _ _ => exact ih hrules hpost'

/-- Where reduction ends with nothing left to do, there is a turn that leads to this, of the last rule
that is tried. -/
theorem Passes.exists_stopsIn (h : Passes budget c ([], q)) (hover : q.isOver = true)
    (hnot : c.2.isOver = false) : ∃ r rest q₁ left, Passes budget c (r :: rest, q₁) ∧
      q₁.isOver = false ∧ Turns budget (r :: rest, q₁) (left, q) ∧ StopsIn budget c (r :: rest) := by
  induction h using Relation.ReflTransGen.head_induction_on with
  | refl =>
      rw [hover] at hnot
      cases hnot
  | @head c c' hturns hpasses ih =>
      cases hc' : c'.2.isOver with
      | true =>
          obtain ⟨_ | ⟨r, rest⟩, p⟩ := c
          · rw [hturns.of_nil] at hc'
            rw [hc'] at hnot
            cases hnot
          · have hsame : q = c'.2 := Passes.eq_of_isOver hpasses hc'
            refine ⟨r, rest, p, c'.1, .refl, hnot, hsame ▸ hturns, ⟨p, .refl, by simp, hnot⟩, ?_⟩
            intro other hother
            rcases hother.cases_turns hturns with ⟨rfl, _⟩ | hother
            · exact List.suffix_refl _
            · exact absurd hother (not_tried_of_isOver hc')
      | false =>
          obtain ⟨r, rest, q₁, left, hpasses', hq₁, hlast, htried, hstops⟩ := ih hc'
          refine ⟨r, rest, q₁, left, .head hturns hpasses', hq₁, hlast, htried.of_turns hturns, ?_⟩
          intro other hother
          rcases hother.cases_turns hturns with ⟨rfl, _⟩ | hother
          · exact htried.isSuffix.trans hturns.isSuffix
          · exact hstops other hother

/-- The last rule tried has no match in what is left of the tree, if the budget is not used up. -/
theorem StopsIn.unmatched {root : NodeId} (h : StopsIn budget c (r :: rest))
    (hpasses : Passes budget c ([], q)) (hexhausted : q.budgetExhausted = false)
    (hroot : q.root = some root) : r.pattern.firstMatch? (q.forest.tree root) = none := by
  obtain ⟨htried, hlast⟩ := h
  obtain ⟨pre, hpre⟩ := htried.isSuffix
  refine hpasses.unmatched hexhausted hroot hpre.symm fun left hleft happlied => ?_
  have hle := ((hlast left happlied.tried).trans hleft).length_le
  rw [List.length_cons] at hle
  omega

end Treebank.Reduction
