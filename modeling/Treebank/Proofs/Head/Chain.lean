import Mathlib.Logic.Relation
import Treebank.Proofs.Head.Choice
import Treebank.Proofs.Relation.Order

/-!
# Heads of heads

Where every node with children has a head among them, the chain of heads leads from a node down to one
leaf. A table whose directions are turned round finds the mirrored head among children that are turned
round, but for noun phrases that it has no rule for.
-/

namespace Treebank

open Direction (place)

/-! ## The chain of heads -/

/-- Every node with children has one of them as its head. -/
def HeadFinder.Picks (head : HeadFinder) : Prop :=
  ∀ s : Site, s.tree.children ≠ [] → ∃ i < s.tree.children.length, head s = some i

namespace HeadFinder

variable {head : HeadFinder} {s u : Site}

theorem picked_leaf (head : HeadFinder) (h : s.tree.isLeaf = true) : s.picked head = [] := by
  rw [Site.picked]
  cases head s with
  | none => rfl
  | some i => simp [Site.child?, List.isEmpty_iff.mp h]

theorem Picks.exists_picked (h : head.Picks) (hs : s.tree.isLeaf = false) :
    ∃ c ∈ s.children, s.picked head = [c] := by
  obtain ⟨i, hi, hhead⟩ := h s (List.isEmpty_eq_false_iff.mp hs)
  refine ⟨⟨s.tree.children[i], (i, s.tree) :: s.above⟩, ?_, ?_⟩
  · exact Site.mem_children.mpr ⟨i, _, List.getElem?_eq_getElem hi, rfl⟩
  · rw [Site.picked, hhead]
    simp only [Site.child?, List.getElem?_eq_getElem hi]
    rfl

theorem eq_of_chain_leaf (hleaf : s.tree.isLeaf = true)
    (h : Relation.ReflTransGen (fun a b => b ∈ a.picked head) s u) : u = s := by
  rcases h.cases_head with heq | ⟨c, hc, _⟩
  · exact heq.symm
  · rw [picked_leaf head hleaf] at hc
    cases hc

theorem Picks.exists_leaf (h : head.Picks) (s : Site) :
    ∃ u : Site, Relation.ReflTransGen (fun a b => b ∈ a.picked head) s u ∧
      u.tree.isLeaf = true := by
  induction hsize : sizeOf s.tree using Nat.strongRecOn generalizing s with
  | ind k ih =>
      cases hleaf : s.tree.isLeaf with
      | true => exact ⟨s, .refl, hleaf⟩
      | false =>
          obtain ⟨c, hc, hpicked⟩ := h.exists_picked hleaf
          have hlt := Site.sizeOf_lt_of_mem_children hc
          obtain ⟨u, hchain, hu⟩ := ih _ (hsize ▸ hlt) c rfl
          exact ⟨u, .head (hpicked ▸ List.mem_singleton_self c) hchain, hu⟩

/-- The chain of heads goes down from a node to one leaf. -/
theorem Picks.existsUnique_leaf (h : head.Picks) (s : Site) :
    ∃! u : Site, Relation.ReflTransGen (fun a b => b ∈ a.picked head) s u ∧
      u.tree.isLeaf = true := by
  have hright : Relator.RightUnique fun a b : Site => b ∈ a.picked head := by
    intro a b c hb hc
    rw [Site.picked] at hb hc
    cases hhead : head a with
    | none =>
        rw [hhead] at hb
        cases hb
    | some i =>
        rw [hhead] at hb hc
        exact Option.some.inj ((Option.mem_toList.mp hb).symm.trans (Option.mem_toList.mp hc))
  obtain ⟨u, hchain, hu⟩ := h.exists_leaf s
  refine ⟨u, ⟨hchain, hu⟩, ?_⟩
  rintro u' ⟨hchain', hu'⟩
  rcases Relation.ReflTransGen.total_of_right_unique hright hchain hchain' with hon | hon
  · exact eq_of_chain_leaf hu hon
  · exact (eq_of_chain_leaf hu' hon).symm

end HeadFinder

/-! ## Turning round -/

/-- The rule with the other direction. -/
def HeadRule.flip (rule : HeadRule) : HeadRule := { rule with direction := rule.direction.flip }

/-- The table with all directions turned round. -/
def HeadTable.mirror (table : HeadTable) : HeadTable where
  rules := table.rules.map fun e => (e.1, e.2.flip)
  category := table.category
  default := table.default.flip

theorem getElem?_reverse_mirror {ks : List String} {i : Nat} (h : i < ks.length) :
    ks.reverse[ks.length - 1 - i]? = ks[i]? := by
  rw [List.getElem?_reverse (by omega)]
  congr 1
  omega

namespace HeadRule

variable {rule : HeadRule} {ks : List String} {i : Nat} {r : Nat ×ₗ Nat}

theorem Ranks.mirror (h : rule.Ranks ks i r) :
    rule.flip.Ranks ks.reverse (ks.length - 1 - i) r := by
  have hlt := h.lt
  obtain ⟨k, hk, hget, rfl⟩ := h
  refine ⟨k, hk, (getElem?_reverse_mirror hlt).trans hget, ?_⟩
  rw [List.length_reverse, flip, Direction.place_flip rule.direction hlt]

theorem flip_flip (rule : HeadRule) : rule.flip.flip = rule := by
  obtain ⟨d, priorities⟩ := rule
  cases d <;> rfl

theorem Ranks.of_mirror {j : Nat} (h : rule.flip.Ranks ks.reverse j r) :
    rule.Ranks ks (ks.length - 1 - j) r := by
  have hback := h.mirror
  rwa [flip_flip, List.reverse_reverse, List.length_reverse] at hback

theorem Prefers.mirror (h : rule.Prefers ks i) :
    rule.flip.Prefers ks.reverse (ks.length - 1 - i) := by
  obtain ⟨r, hr, hle⟩ := h
  exact ⟨r, hr.mirror, fun j r' hr' => hle _ r' hr'.of_mirror⟩

end HeadRule

namespace HeadTable

variable {table : HeadTable} {label : String} {ks : List String} {i : Nat} {s s' : Site}

theorem lookup_mirror (table : HeadTable) (k : String) :
    table.mirror.rules.lookup k = (table.rules.lookup k).map HeadRule.flip := by
  rw [mirror]
  induction table.rules with
  | nil => rfl
  | cons e rules ih =>
      obtain ⟨l, rule⟩ := e
      rw [List.map_cons, List.lookup_cons, List.lookup_cons]
      cases k == l with
      | true => rfl
      | false => exact ih

theorem isFirst_flip {d : Direction} {count : Nat} (h : d.IsFirst count i) :
    d.flip.IsFirst count (count - 1 - i) := by
  refine ⟨?_, (d.place_flip h.1).trans h.2⟩
  have hlt := h.1
  omega

theorem Chooses.mirror (h : table.Chooses label ks i) (hnoun : ¬table.TakesNounPhrase label) :
    table.mirror.Chooses label ks.reverse (ks.length - 1 - i) := by
  have hlookup := table.lookup_mirror (table.category label)
  cases h with
  | preferred hrule hprefers =>
      rw [hrule] at hlookup
      exact .preferred hlookup hprefers.mirror
  | unlisted hrule hnone hfirst =>
      rw [hrule] at hlookup
      refine .unlisted hlookup (fun j r hr => hnone _ r hr.of_mirror) ?_
      rw [List.length_reverse]
      exact isFirst_flip hfirst
  | byDefault hrule hne hfirst =>
      rw [hrule] at hlookup
      refine .byDefault hlookup hne ?_
      rw [List.length_reverse]
      exact isFirst_flip hfirst
  | possessive htakes => exact absurd htakes hnoun
  | searched htakes => exact absurd htakes hnoun
  | remaining htakes => exact absurd htakes hnoun

theorem finder_of_leaf (h : s.tree.children.length = 0) : table.finder s = none := by
  rw [finder, List.length_eq_zero_iff.mp h]

theorem finder_of_only (h : s.tree.children.length = 1) : table.finder s = some 0 := by
  obtain ⟨c, hc⟩ := List.length_eq_one_iff.mp h
  rw [finder, hc]

/-- The finder of a table picks a head for every node with children. -/
theorem picks_finder (table : HeadTable) : table.finder.Picks := by
  intro s hsome
  by_cases hseveral : 2 ≤ s.tree.children.length
  · obtain ⟨i, hi⟩ := table.exists_chooses s.label hsome
    exact ⟨i, table.length_categories s.tree.children ▸ hi.lt, finder_of_chooses hseveral hi⟩
  · have hone : s.tree.children.length = 1 := by
      have hpos := List.length_pos_iff.mpr hsome
      omega
    exact ⟨0, by omega, finder_of_only hone⟩

/-- Among children that are turned round, the table that is turned round finds the same child. -/
theorem finder_mirror (hnoun : ¬(2 ≤ s.tree.children.length ∧ table.TakesNounPhrase s.label))
    (hlabel : s'.label = s.label) (hchildren : s'.tree.children = s.tree.children.reverse) :
    table.mirror.finder s' = (table.finder s).map (s.tree.children.length - 1 - ·) := by
  have hlength : s'.tree.children.length = s.tree.children.length := by
    rw [hchildren, List.length_reverse]
  by_cases hseveral : 2 ≤ s.tree.children.length
  · have hsome : s.tree.children ≠ [] := List.length_pos_iff.mp (by omega)
    obtain ⟨i, hi⟩ := table.exists_chooses s.label hsome
    have hmirror := hi.mirror fun htakes => hnoun ⟨hseveral, htakes⟩
    have hcategories : table.mirror.categories s'.tree.children =
        (table.categories s.tree.children).reverse := by
      rw [hchildren]
      exact List.map_reverse
    rw [← hlabel, ← hcategories, length_categories] at hmirror
    rw [finder_of_chooses hseveral hi, finder_of_chooses (hlength ▸ hseveral) hmirror]
    rfl
  · by_cases hone : s.tree.children.length = 1
    · rw [finder_of_only hone, finder_of_only (hlength.trans hone), hone]
      rfl
    · have hnone : s.tree.children.length = 0 := by omega
      rw [finder_of_leaf hnone, finder_of_leaf (hlength.trans hnone)]
      rfl

/-- A table finds the head that its rules tell. Of several children, it is the one of the least rank by
the place of its category in the rule and then by its own place, and without such a child or without a
rule the first in the direction that holds then; a noun phrase without a rule has its own procedure. So
every node that is no leaf has one head, which is a child of it, and the chain of heads leads from every
node to one leaf. With children and directions turned round, the mirrored child is the head. -/
theorem head_is_preferred_child (table : HeadTable) (s : Site) :
    (2 ≤ s.tree.children.length → ∀ i, table.finder s = some i ↔
      table.Chooses s.label (table.categories s.tree.children) i) ∧
    (s.tree.isLeaf = false → ∃ c ∈ s.children, s.picked table.finder = [c]) ∧
    (∃! u : Site, Relation.ReflTransGen (fun a b => b ∈ a.picked table.finder) s u ∧
      u.tree.isLeaf = true) ∧
    ∀ s' : Site, ¬(2 ≤ s.tree.children.length ∧ table.TakesNounPhrase s.label) →
      s'.label = s.label → s'.tree.children = s.tree.children.reverse →
      table.mirror.finder s' = (table.finder s).map (s.tree.children.length - 1 - ·) :=
  ⟨fun hseveral _ => finder_eq_some_iff hseveral, table.picks_finder.exists_picked,
    table.picks_finder.existsUnique_leaf s, fun _ => finder_mirror⟩

/-- The second of the categories that the rule lists is not looked for, since two children have the
first one; the one further to the right is the head, with a tag on its label. The noun phrase has the
head that the first search meets. -/
theorem head_of_tagged_child :
    let table : HeadTable := ⟨[("X", ⟨.right, ["B", "A"]⟩)], .stripped, .left⟩
    let s := Site.top (.node "X-1" [.leaf "B", .leaf "B=2", .leaf "A", .leaf "C"])
    let s' := Site.top (.node "X-1" [.leaf "C", .leaf "A", .leaf "B=2", .leaf "B"])
    let noun := Site.top (.node "NP" [.leaf "NP", .leaf "NN", .leaf "PP"])
    table.Chooses s.label (table.categories s.tree.children) 1 ∧
      (∃ c ∈ s.children, s.picked table.finder = [c]) ∧ table.mirror.finder s' = some 2 ∧
      table.Chooses noun.label (table.categories noun.tree.children) 1 := by
  intro table s s' noun
  have hhead : table.finder s = some 1 := by decide
  have hnoun : table.finder noun = some 1 := by decide
  obtain ⟨hchooses, hone, -, hmirror⟩ := head_is_preferred_child table s
  refine ⟨(hchooses (by decide) 1).mp hhead, hone rfl, ?_, ?_⟩
  · rw [hmirror s' (fun h => absurd h.2.1 (by decide)) rfl rfl, hhead]
    rfl
  · exact ((head_is_preferred_child table noun).1 (by decide) 1).mp hnoun

end HeadTable

end Treebank
