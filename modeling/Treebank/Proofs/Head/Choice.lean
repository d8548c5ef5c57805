import Mathlib.Data.List.Basic
import Mathlib.Data.Prod.Lex
import Treebank.Head.Finder

/-!
# Which child is the head

A rule prefers the child of the least rank: first by the place of its category in the list of the rule,
then by its own place in the direction of the rule. The head that a table finds is told here without
searches, by the categories of the children alone.
-/

namespace Treebank

variable {α : Type}

/-! ## Places in a direction -/

namespace Direction

variable {d : Direction} {count i j k : Nat} {xs : List α} {x : α}

/-- At which place the member of this index is met, among so many. -/
def place (d : Direction) (count i : Nat) : Nat :=
  match d with
  | left => i
  | right => count - 1 - i

/-- The other side. -/
def flip : Direction → Direction
  | left => right
  | right => left

/-- The child is met before all others. -/
def IsFirst (d : Direction) (count i : Nat) : Prop := i < count ∧ d.place count i = 0

theorem place_lt (d : Direction) (h : i < count) : d.place count i < count := by
  cases d with
  | left => exact h
  | right =>
      simp only [place]
      omega

/-- The index of what is met at a place is found in the same way as the place. -/
theorem place_place (d : Direction) (h : i < count) : d.place count (d.place count i) = i := by
  cases d with
  | left => rfl
  | right =>
      simp only [place]
      omega

theorem eq_of_place (hi : i < count) (hj : j < count) (h : d.place count i = d.place count j) :
    i = j := by
  rw [← d.place_place hi, h, d.place_place hj]

theorem place_flip (d : Direction) (h : i < count) :
    d.flip.place count (count - 1 - i) = d.place count i := by
  cases d with
  | left =>
      simp only [place, flip]
      omega
  | right => rfl

theorem length_arrange (d : Direction) (xs : List α) : (d.arrange xs).length = xs.length := by
  cases d <;> simp [arrange]

/-- What is met at a place. -/
theorem getElem?_arrange (d : Direction) (h : k < xs.length) :
    (d.arrange xs)[k]? = xs[d.place xs.length k]?.map (d.place xs.length k, ·) := by
  cases d with
  | left => simp [arrange, place, Function.comp_def]
  | right =>
      rw [arrange, List.getElem?_reverse (by simpa using h)]
      simp [place, Function.comp_def]

theorem mem_arrange : (i, x) ∈ d.arrange xs ↔ xs[i]? = some x := by
  cases d <;> simp [arrange, List.mem_zipIdx_iff_getElem?]

end Direction

open Direction (place)

/-! ## The first hit -/

/-- The category of this number passes a test. -/
def Hits (test : String → Bool) (ks : List String) (i : Nat) : Prop :=
  ∃ k, ks[i]? = some k ∧ test k = true

/-- The category of this number passes a test and is met before all others that do. -/
structure MetFirst (d : Direction) (test : String → Bool) (ks : List String) (i : Nat) : Prop where
  hits : Hits test ks i
  le : ∀ j, Hits test ks j → d.place ks.length i ≤ d.place ks.length j

theorem Hits.lt {test : String → Bool} {ks : List String} {i : Nat} (h : Hits test ks i) :
    i < ks.length := by
  obtain ⟨k, hk, _⟩ := h
  exact (List.getElem?_eq_some_iff.mp hk).1

theorem MetFirst.unique {d : Direction} {test : String → Bool} {ks : List String} {i j : Nat}
    (hi : MetFirst d test ks i) (hj : MetFirst d test ks j) : i = j :=
  Direction.eq_of_place hi.hits.lt hj.hits.lt
    (Nat.le_antisymm (hi.le j hj.hits) (hj.le i hi.hits))

namespace HeadTable

variable {table : HeadTable} {d : Direction} {test : String → Bool} {children : List Tree} {i : Nat}

/-- The categories of some nodes. -/
def categories (table : HeadTable) (children : List Tree) : List String :=
  children.map fun c => table.category c.label

theorem hits_categories : Hits test (table.categories children) i ↔
    ∃ c, children[i]? = some c ∧ test (table.category c.label) = true := by
  simp [Hits, categories]

theorem length_categories (table : HeadTable) (children : List Tree) :
    (table.categories children).length = children.length := List.length_map ..

theorem seek_eq_none_iff :
    table.seek d test children = none ↔ ∀ i, ¬Hits test (table.categories children) i := by
  simp only [seek, Option.map_eq_none_iff, List.find?_eq_none, Prod.forall, Direction.mem_arrange,
    hits_categories, not_exists, not_and]

/-- The child that is met at the place of another one is this other one. -/
theorem getElem?_arrange_place {c : Tree} (hc : children[i]? = some c) :
    (d.arrange children)[d.place children.length i]? = some (i, c) := by
  have hlt := (List.getElem?_eq_some_iff.mp hc).1
  rw [Direction.getElem?_arrange d (d.place_lt hlt), d.place_place hlt, hc]
  rfl

theorem metFirst_of_seek (h : table.seek d test children = some i) :
    MetFirst d test (table.categories children) i := by
  obtain ⟨⟨i', c⟩, hfind, hi'⟩ := Option.map_eq_some_iff.mp h
  obtain rfl : i = i' := Eq.symm hi'
  obtain ⟨htest, k, hk, hget, hbefore⟩ := List.find?_eq_some_iff_getElem.mp hfind
  have hi := Direction.mem_arrange.mp (List.mem_of_find?_eq_some hfind)
  have hplace : d.place children.length i = k := by
    have hlt : k < children.length := Direction.length_arrange d children ▸ hk
    have hmet := Direction.getElem?_arrange d hlt
    rw [List.getElem?_eq_getElem hk, hget] at hmet
    obtain ⟨_, _, hpair⟩ := Option.map_eq_some_iff.mp hmet.symm
    rw [← (Prod.mk.inj hpair).1, d.place_place hlt]
  refine ⟨hits_categories.mpr ⟨c, hi, htest⟩, fun j hj => ?_⟩
  obtain ⟨c', hj, htest'⟩ := hits_categories.mp hj
  rw [length_categories, hplace]
  by_contra hlt
  obtain ⟨hj', hget'⟩ := List.getElem?_eq_some_iff.mp (getElem?_arrange_place hj)
  have hfails := hbefore _ (Nat.lt_of_not_le hlt)
  rw [hget'] at hfails
  simp [htest'] at hfails

theorem seek_eq_some_iff : table.seek d test children = some i ↔
    MetFirst d test (table.categories children) i := by
  refine ⟨metFirst_of_seek, fun h => ?_⟩
  cases hseek : table.seek d test children with
  | none => exact absurd h.hits (seek_eq_none_iff.mp hseek i)
  | some j => rw [(metFirst_of_seek hseek).unique h]

end HeadTable

/-! ## Rules -/

namespace HeadRule

variable {rule : HeadRule} {ks : List String} {i j : Nat} {r r' : Nat ×ₗ Nat}

/-- The child of this number has a category of the rule, and this is its rank: the place of the category
in the list, then its own place in the direction. -/
def Ranks (rule : HeadRule) (ks : List String) (i : Nat) (r : Nat ×ₗ Nat) : Prop :=
  ∃ k ∈ rule.priorities, ks[i]? = some k ∧
    r = toLex (rule.priorities.idxOf k, rule.direction.place ks.length i)

/-- The child of this number has a category of the rule, and no other one that has is of a lesser
rank. -/
def Prefers (rule : HeadRule) (ks : List String) (i : Nat) : Prop :=
  ∃ r, rule.Ranks ks i r ∧ ∀ j r', rule.Ranks ks j r' → r ≤ r'

theorem Ranks.lt (h : rule.Ranks ks i r) : i < ks.length := by
  obtain ⟨k, _, hk, _⟩ := h
  exact (List.getElem?_eq_some_iff.mp hk).1

theorem Prefers.lt (h : rule.Prefers ks i) : i < ks.length := h.choose_spec.1.lt

/-- Different children are of different ranks. -/
theorem Ranks.eq_of_eq (hi : rule.Ranks ks i r) (hj : rule.Ranks ks j r) : i = j := by
  have hlt := hi.lt
  have hlt' := hj.lt
  obtain ⟨k, _, _, hr⟩ := hi
  obtain ⟨l, _, _, hr'⟩ := hj
  have hpair := toLex_inj.mp (hr.symm.trans hr')
  exact Direction.eq_of_place hlt hlt' (Prod.mk.inj hpair).2

theorem Prefers.unique (hi : rule.Prefers ks i) (hj : rule.Prefers ks j) : i = j := by
  obtain ⟨r, hr, hle⟩ := hi
  obtain ⟨r', hr', hle'⟩ := hj
  obtain rfl := le_antisymm (hle j r' hr') (hle' i r hr)
  exact hr.eq_of_eq hr'

/-- The first of the categories of the rule that any child has, and the first child that has it. -/
theorem prefers_of_metFirst {before after : List String} {k : String}
    (hlist : rule.priorities = before ++ k :: after)
    (hnone : ∀ l ∈ before, ∀ j, ¬Hits (· == l) ks j)
    (h : MetFirst rule.direction (· == k) ks i) : rule.Prefers ks i := by
  obtain ⟨k', hk, htest⟩ := h.hits
  obtain rfl : k = k' := (eq_of_beq htest).symm
  have habsent : ∀ l j, ks[j]? = some l → l ∉ before := fun l j hl hmem =>
    hnone l hmem j ⟨l, hl, beq_self_eq_true l⟩
  have hidx : ∀ l j, ks[j]? = some l →
      rule.priorities.idxOf l = before.length + (k :: after).idxOf l := fun l j hl => by
    rw [hlist, List.idxOf_append_of_notMem (habsent l j hl)]
  have hmem : k ∈ rule.priorities := by simp [hlist]
  refine ⟨_, ⟨k, hmem, hk, rfl⟩, ?_⟩
  rintro j _ ⟨l, _, hl, rfl⟩
  rw [Prod.Lex.toLex_le_toLex, hidx k i hk, hidx l j hl, List.idxOf_cons_self]
  by_cases hlk : l = k
  · subst hlk
    exact Or.inr ⟨by rw [List.idxOf_cons_self], h.le j ⟨l, hl, beq_self_eq_true l⟩⟩
  · rw [List.idxOf_cons_ne _ (Ne.symm hlk)]
    exact Or.inl (Nat.lt_succ_of_le (Nat.le_add_right _ _))

end HeadRule

namespace HeadTable

variable {table : HeadTable} {rule : HeadRule} {d : Direction} {label : String}
  {children : List Tree} {ks : List String} {i j : Nat}

/-- The head is the child that the rule prefers, and where it prefers none, the outermost one. -/
theorem ruleHead_cases (table : HeadTable) (rule : HeadRule) (children : List Tree) :
    rule.Prefers (table.categories children) (table.ruleHead rule children) ∨
    (∀ j r, ¬rule.Ranks (table.categories children) j r) ∧
      table.ruleHead rule children = outermost rule.direction children := by
  rw [ruleHead]
  cases hfirst : rule.priorities.findSome? fun wanted =>
      table.seek rule.direction (· == wanted) children with
  | some i =>
      obtain ⟨before, k, after, hlist, hseek, hnone⟩ := List.findSome?_eq_some_iff.mp hfirst
      refine Or.inl (HeadRule.prefers_of_metFirst hlist (fun l hl => ?_) (seek_eq_some_iff.mp hseek))
      exact seek_eq_none_iff.mp (hnone l hl)
  | none =>
      refine Or.inr ⟨?_, rfl⟩
      rintro j _ ⟨k, hk, hget, _⟩
      have hnone := List.findSome?_eq_none_iff.mp hfirst k hk
      exact seek_eq_none_iff.mp hnone j ⟨k, hget, beq_self_eq_true k⟩

theorem isFirst_outermost (d : Direction) (h : children ≠ []) :
    d.IsFirst children.length (outermost d children) := by
  have hpos := List.length_pos_iff.mpr h
  cases d with
  | left => exact ⟨hpos, rfl⟩
  | right =>
      refine ⟨Nat.sub_lt hpos Nat.one_pos, ?_⟩
      simp only [place, outermost, Nat.sub_self]

/-! ## The choice of a table -/

/-- Noun phrases have a procedure of their own where the table has no rule for them. -/
def TakesNounPhrase (table : HeadTable) (label : String) : Prop :=
  table.category label = "NP" ∧ table.rules.lookup "NP" = none

/-- The head of a node with several children, by its label and their categories: the child that the
rule of its category prefers, and the first one in the direction of the rule where no child has a
category of the rule; the first one in the default direction where there is no rule. Without a rule for
noun phrases, the head of one is a last possessive marker, then what the first of the searches that hit
anything meets first, then the last child. -/
inductive Chooses (table : HeadTable) (label : String) (ks : List String) : Nat → Prop where
  | preferred {rule : HeadRule} {i : Nat} :
      table.rules.lookup (table.category label) = some rule → rule.Prefers ks i →
      Chooses table label ks i
  | unlisted {rule : HeadRule} {i : Nat} :
      table.rules.lookup (table.category label) = some rule → (∀ j r, ¬rule.Ranks ks j r) →
      rule.direction.IsFirst ks.length i → Chooses table label ks i
  | byDefault {i : Nat} :
      table.rules.lookup (table.category label) = none → table.category label ≠ "NP" →
      table.default.IsFirst ks.length i → Chooses table label ks i
  | possessive {i : Nat} :
      table.TakesNounPhrase label → ks.getLast? = some "POS" → i + 1 = ks.length →
      Chooses table label ks i
  | searched {before after : List (Direction × List String)} {d : Direction}
      {wanted : List String} {i : Nat} :
      table.TakesNounPhrase label → ks.getLast? ≠ some "POS" →
      nounPhraseSearches = before ++ (d, wanted) :: after →
      (∀ e ∈ before, ∀ j, ¬Hits e.2.contains ks j) → MetFirst d wanted.contains ks i →
      Chooses table label ks i
  | remaining {i : Nat} :
      table.TakesNounPhrase label → ks.getLast? ≠ some "POS" →
      (∀ e ∈ nounPhraseSearches, ∀ j, ¬Hits e.2.contains ks j) → i + 1 = ks.length →
      Chooses table label ks i

variable {s : Site}

theorem isFirst_unique {count : Nat} (hi : d.IsFirst count i) (hj : d.IsFirst count j) : i = j :=
  Direction.eq_of_place hi.1 hj.1 (hi.2.trans hj.2.symm)

theorem finder_of_several (table : HeadTable) (h : 2 ≤ s.tree.children.length) :
    table.finder s =
      match table.rules.lookup (table.category s.label) with
      | some rule => some (table.ruleHead rule s.tree.children)
      | none =>
        if table.category s.label == "NP" then some (table.nounPhraseHead s.tree.children)
        else some (outermost table.default s.tree.children) := by
  rw [finder]
  split
  · rename_i hnil
    simp [hnil] at h
  · rename_i hone
    simp [hone] at h
  · rfl

theorem finder_of_rule (h : 2 ≤ s.tree.children.length)
    (hrule : table.rules.lookup (table.category s.label) = some rule) :
    table.finder s = some (table.ruleHead rule s.tree.children) := by
  rw [table.finder_of_several h, hrule]

theorem finder_of_default (h : 2 ≤ s.tree.children.length)
    (hrule : table.rules.lookup (table.category s.label) = none)
    (hne : table.category s.label ≠ "NP") :
    table.finder s = some (outermost table.default s.tree.children) := by
  rw [table.finder_of_several h, hrule]
  exact if_neg (by simpa using hne)

theorem finder_of_nounPhrase (h : 2 ≤ s.tree.children.length)
    (hnoun : table.TakesNounPhrase s.label) :
    table.finder s = some (table.nounPhraseHead s.tree.children) := by
  rw [table.finder_of_several h, hnoun.1, hnoun.2]
  rfl

theorem nounPhraseHead_eq (table : HeadTable) (children : List Tree) :
    table.nounPhraseHead children =
      if (table.categories children).getLast? == some "POS" then children.length - 1
      else (nounPhraseSearches.findSome? fun e => table.seek e.1 e.2.contains children).getD
        (children.length - 1) := by
  rw [nounPhraseHead, categories, List.getLast?_map]

/-- The child that is told as the head is the one that is found. -/
theorem finder_of_chooses (h : 2 ≤ s.tree.children.length)
    (hchoice : table.Chooses s.label (table.categories s.tree.children) i) :
    table.finder s = some i := by
  have hsome : s.tree.children ≠ [] := by
    intro hnil
    simp [hnil] at h
  have hlength := table.length_categories s.tree.children
  cases hchoice with
  | @preferred rule _ hrule hprefers =>
      rw [finder_of_rule h hrule]
      rcases table.ruleHead_cases rule s.tree.children with hfound | ⟨hnone, _⟩
      · rw [hfound.unique hprefers]
      · obtain ⟨r, hr, _⟩ := hprefers
        exact absurd hr (hnone i r)
  | @unlisted rule _ hrule hnone hfirst =>
      rw [finder_of_rule h hrule]
      rcases table.ruleHead_cases rule s.tree.children with ⟨r, hr, _⟩ | ⟨_, hhead⟩
      · exact absurd hr (hnone _ r)
      · rw [hhead, isFirst_unique (isFirst_outermost rule.direction hsome) (hlength ▸ hfirst)]
  | byDefault hrule hne hfirst =>
      rw [finder_of_default h hrule hne,
        isFirst_unique (isFirst_outermost table.default hsome) (hlength ▸ hfirst)]
  | possessive hnoun hlast hi =>
      rw [finder_of_nounPhrase h hnoun, nounPhraseHead_eq, hlast, if_pos (beq_self_eq_true _)]
      rw [hlength] at hi
      rw [← hi, Nat.add_sub_cancel]
  | @searched before after d wanted _ hnoun hlast hsearches hbefore hfirst =>
      have hsearch : (nounPhraseSearches.findSome? fun e =>
          table.seek e.1 e.2.contains s.tree.children) = some i :=
        List.findSome?_eq_some_iff.mpr ⟨before, (d, wanted), after, hsearches,
          seek_eq_some_iff.mpr hfirst, fun e he => seek_eq_none_iff.mpr (hbefore e he)⟩
      rw [finder_of_nounPhrase h hnoun, nounPhraseHead_eq, if_neg (by simpa using hlast), hsearch]
      rfl
  | remaining hnoun hlast hnone hi =>
      have hsearch : (nounPhraseSearches.findSome? fun e =>
          table.seek e.1 e.2.contains s.tree.children) = none :=
        List.findSome?_eq_none_iff.mpr fun e he => seek_eq_none_iff.mpr (hnone e he)
      rw [finder_of_nounPhrase h hnoun, nounPhraseHead_eq, if_neg (by simpa using hlast), hsearch]
      rw [hlength] at hi
      rw [← hi, Nat.add_sub_cancel]
      rfl

/-- For every node with children some child is told as the head. -/
theorem exists_chooses (table : HeadTable) (label : String) (hsome : children ≠ []) :
    ∃ i, table.Chooses label (table.categories children) i := by
  have hlength := table.length_categories children
  have hlast : children.length - 1 + 1 = (table.categories children).length := by
    have hpos := List.length_pos_iff.mpr hsome
    omega
  cases hrule : table.rules.lookup (table.category label) with
  | some rule =>
      rcases table.ruleHead_cases rule children with hfound | ⟨hnone, _⟩
      · exact ⟨_, .preferred hrule hfound⟩
      · exact ⟨_, .unlisted hrule hnone (hlength ▸ isFirst_outermost rule.direction hsome)⟩
  | none =>
      by_cases hnoun : table.category label = "NP"
      · have htakes : table.TakesNounPhrase label := ⟨hnoun, hnoun ▸ hrule⟩
        by_cases hpos : (table.categories children).getLast? = some "POS"
        · exact ⟨_, .possessive htakes hpos hlast⟩
        · cases hsearch : nounPhraseSearches.findSome? fun e =>
              table.seek e.1 e.2.contains children with
          | some i =>
              obtain ⟨before, ⟨d, wanted⟩, after, hsearches, hseek, hbefore⟩ :=
                List.findSome?_eq_some_iff.mp hsearch
              refine ⟨i, .searched htakes hpos hsearches (fun e he => ?_)
                (seek_eq_some_iff.mp hseek)⟩
              exact seek_eq_none_iff.mp (hbefore e he)
          | none =>
              refine ⟨_, .remaining htakes hpos (fun e he => ?_) hlast⟩
              exact seek_eq_none_iff.mp (List.findSome?_eq_none_iff.mp hsearch e he)
      · exact ⟨_, .byDefault hrule hnoun (hlength ▸ isFirst_outermost table.default hsome)⟩

/-- Of several children, the head is the one that the table is told to choose. -/
theorem finder_eq_some_iff (h : 2 ≤ s.tree.children.length) :
    table.finder s = some i ↔ table.Chooses s.label (table.categories s.tree.children) i := by
  refine ⟨fun hfound => ?_, finder_of_chooses h⟩
  have hsome : s.tree.children ≠ [] := by
    intro hnil
    simp [hnil] at h
  obtain ⟨j, hj⟩ := table.exists_chooses s.label hsome
  rw [finder_of_chooses h hj, Option.some.injEq] at hfound
  exact hfound ▸ hj

theorem Chooses.lt (h : table.Chooses label ks i) : i < ks.length := by
  cases h with
  | preferred _ h => exact h.lt
  | unlisted _ _ h => exact h.1
  | byDefault _ _ h => exact h.1
  | possessive _ _ h => omega
  | searched _ _ _ _ h => exact h.hits.lt
  | remaining _ _ _ h => omega

end HeadTable

end Treebank
