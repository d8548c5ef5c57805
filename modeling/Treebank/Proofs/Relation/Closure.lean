import Mathlib.Data.List.Chain
import Mathlib.Logic.Relation
import Treebank.Proofs.Relation.Partition

/-!
# Relations over a distance

A relation over a distance is the transitive closure of a relation of one step: it holds of two nodes
if some steps lead from the first one to the second. Main statement: this is the case for every such
relation, whichever way its candidates are looked for, and the search for them comes to an end.
-/

namespace Treebank

namespace Site

variable {next : Site → List Site} {test : String → Bool} {f f' : Site → List Site}
  {size : Site → Nat} {s u v : Site} {t : Tree}

/-! ## Walks and chains -/

theorem walk_iff_transGen :
    Walk next (fun _ => true) s u ↔ Relation.TransGen (fun a b => b ∈ next a) s u := by
  constructor
  · intro h
    induction h with
    | step hstep => exact .single hstep
    | cons hstep _ _ ih => exact .head hstep ih
  · intro h
    induction h using Relation.TransGen.head_induction_on with
    | single hstep => exact .step hstep
    | head hstep _ ih => exact .cons hstep rfl ih

/-- A walk is a chain of steps in which the labels of all nodes in between pass the test. -/
theorem walk_iff_exists_between : Walk next test s u ↔ ∃ between : List Site,
    (s :: (between ++ [u])).IsChain (fun a b => b ∈ next a) ∧
      ∀ m ∈ between, test m.label = true := by
  constructor
  · intro h
    induction h with
    | step hstep => exact ⟨[], by simpa using hstep, by simp⟩
    | @cons s m u hstep hm _ ih =>
        obtain ⟨between, hchain, hbetween⟩ := ih
        exact ⟨m :: between, .cons_cons hstep hchain, List.forall_mem_cons.mpr ⟨hm, hbetween⟩⟩
  · intro h
    obtain ⟨between, hchain, hbetween⟩ := h
    induction between generalizing s with
    | nil => exact .step (by simpa using hchain)
    | cons m between ih =>
        obtain ⟨hm, hbetween⟩ := List.forall_mem_cons.mp hbetween
        simp only [List.cons_append, List.isChain_cons_cons] at hchain
        exact .cons hchain.1 hm (ih hchain.2 hbetween)

/-- A test that all nodes below pass cuts off nothing. -/
theorem Collects.eq_of_passed (h : Collects next test f) (h' : Collects next (fun _ => true) f')
    (hsize : ∀ s, ∀ c ∈ next s, size c < size s)
    (htest : ∀ m, Walk next (fun _ => true) s m → test m.label = true) : f s = f' s := by
  induction hk : size s using Nat.strongRecOn generalizing s with
  | ind k ih =>
      rw [h s, h' s]
      apply List.flatMap_congr
      intro c hc
      have hrest : f c = f' c :=
        ih _ (hk ▸ hsize s c hc) (fun m hm => htest m (.cons hc rfl hm)) rfl
      simp [htest c (.step hc), hrest]

/-- A test that no node passes cuts off everything but the first step. -/
theorem Collects.eq_next (h : Collects next test f) (htest : ∀ c ∈ next s, test c.label = false) :
    f s = next s := by
  rw [h s]
  conv => rhs; rw [← List.flatMap_singleton' (next s)]
  apply List.flatMap_congr
  intro c hc
  simp [htest c hc]

/-! ## Words one after the other -/

theorem Tiles.exists_mem {spans : List Span} {start stop k : Nat} (h : Tiles start stop spans)
    (hstart : start ≤ k) (hstop : k < stop) : ∃ span ∈ spans, span.start ≤ k ∧ k < span.stop := by
  induction spans generalizing start with
  | nil =>
      simp only [Tiles] at h
      omega
  | cons span spans ih =>
      obtain ⟨rfl, htail⟩ := h
      by_cases hk : k < span.stop
      · exact ⟨span, List.mem_cons_self, hstart, hk⟩
      · obtain ⟨other, hmem, hother⟩ := ih htail (Nat.le_of_not_lt hk)
        exact ⟨other, List.mem_cons_of_mem _ hmem, hother⟩

/-- Each word that a node covers is covered by a node that covers no other. -/
theorem In.exists_word (hs : In t s) {k : Nat} (hstart : s.span.start ≤ k)
    (hstop : k < s.span.stop) : ∃ v, In t v ∧ v.span.start = k ∧ v.span.stop = k + 1 := by
  induction hk : sizeOf s.tree using Nat.strongRecOn generalizing s with
  | ind n ih =>
      by_cases hleaf : s.tree.children = []
      · have hone : s.tree.leafCount = 1 := by
          obtain ⟨⟨l, cs⟩, above⟩ := s
          cases cs with
          | nil => rfl
          | cons c cs => simp [Tree.children] at hleaf
        rw [span_stop, hone] at hstop
        have heq : s.span.start = k := by omega
        exact ⟨s, hs, heq, by rw [span_stop, hone, heq]⟩
      · obtain ⟨span, hmem, hlow, hhigh⟩ := (tiles_children hleaf).exists_mem hstart hstop
        obtain ⟨c, hc, rfl⟩ := List.mem_map.mp hmem
        exact ih _ (hk ▸ sizeOf_lt_of_mem_children hc) (hs.of_mem_children hc) hlow hhigh rfl

end Site

namespace Relation

variable {t : Tree} {s u v : Site} {r step : Relation} {g : Grounds} {head : HeadFinder}
  {category : BasicCategory}

/-- The first node stands in the relation to the second. -/
def Holds (g : Grounds) (r : Relation) (s u : Site) : Prop := u ∈ r.candidates g s

/-- The relation of one step, for a relation over a distance. -/
def step? : Relation → Option Relation
  | dominates => some parentOf
  | dominatedBy => some childOf
  | leftSister => some immediateLeftSister
  | rightSister => some immediateRightSister
  | precedes => some immediatelyPrecedes
  | follows => some immediatelyFollows
  | headedBy => some immediatelyHeadedBy
  | headOf => some immediateHeadOf
  | leftmostDescendant => some firstChild
  | rightmostDescendant => some lastChild
  | leftmostDescendantOf => some firstChildOf
  | rightmostDescendantOf => some lastChildOf
  | unaryPathTo => some onlyChild
  | unaryPathFrom => some onlyChildOf
  | _ => none

theorem step?_converse (h : r.step? = some step) : r.converse.step? = some step.converse := by
  cases r <;> cases h <;> rfl

theorem ne_identity_of_step? (h : r.step? = some step) : r ≠ identity := by
  intro hr
  rw [hr] at h
  cases h

/-! ## Steps within a tree -/

theorem in_of_transGen (hs : Site.In t s)
    (h : Relation.TransGen (r.Holds (.ofTree t head category)) s u) : Site.In t u := by
  induction h with
  | single hstep => exact in_of_mem_candidates (Grounds.within_ofTree t head category) hs hstep
  | tail _ hstep ih => exact in_of_mem_candidates (Grounds.within_ofTree t head category) ih hstep

theorem transGen_converse (hs : Site.In t s)
    (h : Relation.TransGen (r.Holds (.ofTree t head category)) s u) :
    Relation.TransGen (r.converse.Holds (.ofTree t head category)) u s := by
  have hin := Grounds.within_ofTree t head category
  induction h with
  | single hstep =>
      exact .single ((mem_candidates_converse hs (in_of_mem_candidates hin hs hstep)).mp hstep)
  | tail hwalk hstep ih =>
      have hm := in_of_transGen hs hwalk
      exact .head ((mem_candidates_converse hm (in_of_mem_candidates hin hm hstep)).mp hstep) ih

/-! ## Sisters -/

theorem mem_leftSister : u ∈ leftSister.candidates g s ↔ ∃ i j p above, s.above = (i, p) :: above ∧
    u.above = (j, p) :: above ∧ p.children[j]? = some u.tree ∧ i < j := by
  simp [candidates, Site.mem_sistersBy]

theorem mem_immediateLeftSister : u ∈ immediateLeftSister.candidates g s ↔ ∃ i p above,
    s.above = (i, p) :: above ∧ u.above = (i + 1, p) :: above ∧
      p.children[i + 1]? = some u.tree := by
  simp only [candidates, Site.mem_sistersBy, beq_iff_eq]
  constructor
  · intro h
    obtain ⟨i, j, p, above, hi, hj, hc, rfl⟩ := h
    exact ⟨i, p, above, hi, hj, hc⟩
  · intro h
    obtain ⟨i, p, above, hi, hj, hc⟩ := h
    exact ⟨i, i + 1, p, above, hi, hj, hc, rfl⟩

theorem transGen_of_leftSister (h : leftSister.Holds g s u) :
    Relation.TransGen (immediateLeftSister.Holds g) s u := by
  obtain ⟨i, j, p, above, hi, hj, hc, hij⟩ := mem_leftSister.mp h
  obtain ⟨k, rfl⟩ := Nat.exists_eq_add_of_lt hij
  -- the sisters after the first one, one by one
  induction k generalizing u with
  | zero => exact .single (mem_immediateLeftSister.mpr ⟨i, p, above, hi, hj, hc⟩)
  | succ k ih =>
      have hlt : i + k + 1 < p.children.length := by
        have hj := (List.getElem?_eq_some_iff.mp hc).1
        omega
      have hm : p.children[i + k + 1]? = some p.children[i + k + 1] := List.getElem?_eq_getElem hlt
      let m : Site := ⟨p.children[i + k + 1], (i + k + 1, p) :: above⟩
      have hfirst : leftSister.Holds g s m :=
        mem_leftSister.mpr ⟨i, i + k + 1, p, above, hi, rfl, hm, by omega⟩
      have hlast : immediateLeftSister.Holds g m u :=
        mem_immediateLeftSister.mpr ⟨i + k + 1, p, above, rfl, hj, hc⟩
      exact (ih hfirst rfl hm (by omega)).tail hlast

theorem leftSister_of_transGen (h : Relation.TransGen (immediateLeftSister.Holds g) s u) :
    leftSister.Holds g s u := by
  induction h with
  | single hstep =>
      obtain ⟨i, p, above, hi, hj, hc⟩ := mem_immediateLeftSister.mp hstep
      exact mem_leftSister.mpr ⟨i, i + 1, p, above, hi, hj, hc, Nat.lt_succ_self i⟩
  | tail _ hstep ih =>
      obtain ⟨i, j, p, above, hi, hj, _, hij⟩ := mem_leftSister.mp ih
      obtain ⟨k, q, above', hk, hnext, hc⟩ := mem_immediateLeftSister.mp hstep
      simp only [hj, List.cons.injEq, Prod.mk.injEq] at hk
      obtain ⟨⟨rfl, rfl⟩, rfl⟩ := hk
      exact mem_leftSister.mpr ⟨i, j + 1, p, above, hi, hnext, hc, by omega⟩

theorem mem_sister_iff : u ∈ sister.candidates g s ↔
    u ∈ leftSister.candidates g s ∨ u ∈ rightSister.candidates g s := by
  simp only [candidates, Site.mem_sistersBy, bne_iff_ne, decide_eq_true_eq]
  constructor
  · intro h
    obtain ⟨i, j, p, above, hi, hj, hc, hne⟩ := h
    rcases Nat.lt_or_gt_of_ne hne with hlt | hlt
    · exact Or.inr ⟨i, j, p, above, hi, hj, hc, hlt⟩
    · exact Or.inl ⟨i, j, p, above, hi, hj, hc, hlt⟩
  · intro h
    cases h with
    | inl h =>
        obtain ⟨i, j, p, above, hi, hj, hc, hlt⟩ := h
        exact ⟨i, j, p, above, hi, hj, hc, by omega⟩
    | inr h =>
        obtain ⟨i, j, p, above, hi, hj, hc, hlt⟩ := h
        exact ⟨i, j, p, above, hi, hj, hc, by omega⟩

/-! ## Precedence -/

theorem mem_immediatelyPrecedes (hu : Site.In t u) :
    u ∈ immediatelyPrecedes.candidates (.ofTree t head category) s ↔
      u.span.start = s.span.stop := by
  simp [candidates, mem_spanning, hu]

theorem stop_le_words (hs : Site.In t s) : s.span.stop ≤ (Site.top t).span.stop := by
  have hmem := Site.mem_preorder_top.mpr hs
  rw [Site.preorder_eq] at hmem
  cases hmem with
  | head => exact Nat.le_refl _
  | tail _ hbelow => exact (Site.span_descendant_le hbelow).2

theorem transGen_of_precedes (hu : Site.In t u) (h : s.span.stop ≤ u.span.start) :
    Relation.TransGen (immediatelyPrecedes.Holds (.ofTree t head category)) s u := by
  induction hk : u.span.start - s.span.stop generalizing s with
  | zero => exact .single ((mem_immediatelyPrecedes hu).mpr (by omega))
  | succ k ih =>
      -- the word after those of the first node is the next one on the way
      have hlt : s.span.stop < (Site.top t).span.stop := by
        have hle := stop_le_words hu
        have hspan := u.start_lt_stop
        omega
      obtain ⟨v, hv, hstart, hstop⟩ := Site.In.exists_word (t := t) .top (Nat.zero_le _) hlt
      exact .head ((mem_immediatelyPrecedes hv).mpr hstart) (ih (by omega) (by omega))

theorem precedes_of_transGen (hs : Site.In t s)
    (h : Relation.TransGen (immediatelyPrecedes.Holds (.ofTree t head category)) s u) :
    s.span.stop ≤ u.span.start := by
  have hin := Grounds.within_ofTree t head category
  induction h with
  | single hstep =>
      have heq := (mem_immediatelyPrecedes (in_of_mem_candidates hin hs hstep)).mp hstep
      omega
  | @tail m u hwalk hstep ih =>
      have hu := in_of_mem_candidates hin (in_of_transGen hs hwalk) hstep
      have heq := (mem_immediatelyPrecedes hu).mp hstep
      have hspan := m.start_lt_stop
      omega

/-! ## Closures -/

theorem holds_iff_transGen_of_collects {next f : Site → List Site}
    (h : Site.Collects next (fun _ => true) f) (hnext : ∀ s, (next s).Sublist s.children)
    (hr : ∀ s, r.candidates g s = f s) (hstep : ∀ s, step.candidates g s = next s) :
    r.Holds g s u ↔ Relation.TransGen (step.Holds g) s u := by
  have hsteps : step.Holds g = fun a b => b ∈ next a := by
    funext a b
    rw [Holds, hstep]
  rw [Holds, hr, h.mem_iff_down hnext, Site.walk_iff_transGen, hsteps]

/-- The relations over a distance that lead down or on. -/
def onward : List Relation := [
  dominates, leftSister, precedes, headedBy, leftmostDescendant, rightmostDescendant, unaryPathTo]

theorem mem_onward_of_step? (h : r.step? = some step) : r ∈ onward ∨ r.converse ∈ onward := by
  cases r <;> cases h <;> simp [onward, converse]

theorem holds_iff_transGen_of_mem_onward (h : r.step? = some step) (hr : r ∈ onward)
    (hs : Site.In t s) (hu : Site.In t u) : r.Holds (.ofTree t head category) s u ↔
      Relation.TransGen (step.Holds (.ofTree t head category)) s u := by
  simp only [onward, List.mem_cons, List.not_mem_nil, or_false] at hr
  rcases hr with rfl | rfl | rfl | rfl | rfl | rfl | rfl <;> cases h
  · exact holds_iff_transGen_of_collects Site.collects_descendants (fun _ => .refl _)
      (fun _ => rfl) fun _ => rfl
  · exact ⟨transGen_of_leftSister, leftSister_of_transGen⟩
  · rw [Holds, mem_precedes hu]
    exact ⟨transGen_of_precedes hu, precedes_of_transGen hs⟩
  -- the others go down from pick to pick
  all_goals
    apply holds_iff_transGen_of_collects (Site.collects_pickedDown _) (Site.picked_sublist _)
    · exact fun _ => rfl
    · exact fun _ => rfl

theorem holds_iff_transGen_of_in (h : r.step? = some step) (hs : Site.In t s)
    (hu : Site.In t u) : r.Holds (.ofTree t head category) s u ↔
      Relation.TransGen (step.Holds (.ofTree t head category)) s u := by
  cases mem_onward_of_step? h with
  | inl hr => exact holds_iff_transGen_of_mem_onward h hr hs hu
  | inr hr =>
      rw [Holds, mem_candidates_converse hs hu]
      apply Iff.trans (holds_iff_transGen_of_mem_onward (step?_converse h) hr hu hs)
      constructor
      · intro hwalk
        have hback := transGen_converse hu hwalk
        rwa [converse_converse] at hback
      · exact transGen_converse hs

theorem holds_iff_transGen (h : r.step? = some step) (hs : Site.In t s) :
    r.Holds (.ofTree t head category) s u ↔
      Relation.TransGen (step.Holds (.ofTree t head category)) s u := by
  constructor
  · intro hmem
    have hu := in_of_mem_candidates (Grounds.within_ofTree t head category) hs hmem
    exact (holds_iff_transGen_of_in h hs hu).mp hmem
  · intro hwalk
    exact (holds_iff_transGen_of_in h hs (in_of_transGen hs hwalk)).mpr hwalk

/-! ## Searches that end -/

theorem ne_of_transGen (h : r.step? = some step) (hs : Site.In t s)
    (hwalk : Relation.TransGen (step.Holds (.ofTree t head category)) s u) : s ≠ u := by
  intro heq
  subst heq
  exact ne_identity_of_step? h
    ((mem_candidates_self hs).mp ((holds_iff_transGen h hs).mpr hwalk))

/-- Steps of one kind never come back to a node, so there are fewer of them than nodes. -/
theorem length_lt_of_isChain (h : r.step? = some step) (hs : Site.In t s) {way : List Site}
    (hway : (s :: way).IsChain (step.Holds (.ofTree t head category))) :
    way.length < (Site.top t).preorder.length := by
  have hpairs : (s :: way).Pairwise (Relation.TransGen (step.Holds (.ofTree t head category))) :=
    List.isChain_iff_pairwise.mp (hway.imp fun _ _ => .single)
  have hin : ∀ m ∈ s :: way, Site.In t m := by
    intro m hm
    cases hm with
    | head => exact hs
    | tail _ hm => exact in_of_transGen hs ((List.pairwise_cons.mp hpairs).1 m hm)
  have hnodup : (s :: way).Nodup := hpairs.imp_of_mem fun ha _ => ne_of_transGen h (hin _ ha)
  exact hnodup.length_le_of_subset fun m hm => Site.mem_preorder_top.mpr (hin m hm)

theorem length_candidates_le (head : HeadFinder) (category : BasicCategory) (r : Relation)
    (hs : Site.In t s) :
    (r.candidates (.ofTree t head category) s).length ≤ (Site.top t).preorder.length := by
  have hnodup : (r.candidates (.ofTree t head category) s).Nodup := by
    apply (pairwise_candidates head category r hs).imp
    intro a b hlt heq
    subst heq
    simp at hlt
  apply hnodup.length_le_of_subset
  intro u hu
  have hin := Grounds.within_ofTree t head category
  exact Site.mem_preorder_top.mpr (in_of_mem_candidates hin hs hu)

/-! ## Dominance through described nodes -/

theorem mem_dominatesVia {d : Description} : u ∈ (dominatesVia d).candidates g s ↔
    ∃ between : List Site, (s :: (between ++ [u])).IsChain (parentOf.Holds g) ∧
      ∀ m ∈ between, d.accepts g.category m.label = true := by
  have hcollects := Site.collects_descendThroughAll (d.accepts g.category)
  exact (hcollects.mem_iff_down fun _ => .refl _).trans Site.walk_iff_exists_between

theorem dominatesVia_eq_dominates {d : Description} (hs : Site.In t s)
    (hd : ∀ m, Site.In t m → d.accepts g.category m.label = true) :
    (dominatesVia d).candidates g s = dominates.candidates g s := by
  apply (Site.collects_descendThroughAll (d.accepts g.category)).eq_of_passed
    Site.collects_descendants fun _ _ => Site.sizeOf_lt_of_mem_children
  intro m hm
  exact hd m (hs.of_mem_descendants (Site.mem_descendants.mpr hm))

theorem dominatesVia_eq_parentOf {d : Description} (hs : Site.In t s)
    (hd : ∀ m, Site.In t m → d.accepts g.category m.label = false) :
    (dominatesVia d).candidates g s = parentOf.candidates g s := by
  apply (Site.collects_descendThroughAll (d.accepts g.category)).eq_next
  intro c hc
  exact hd c (hs.of_mem_children hc)

end Relation

/-- A relation over a distance is the transitive closure of its relation of one step, and sisters stand
on one side or the other. Dominance through described nodes is a chain of children whose inner nodes
fit the description; it lists all nodes below where every node fits, and the children where none does.
No search for candidates goes on for more steps than the tree has nodes. -/
theorem candidates_closure (t : Tree) (head : HeadFinder) (category : BasicCategory) {s : Site}
    (hs : Site.In t s) :
    let g := Grounds.ofTree t head category
    (∀ r step : Relation, r.step? = some step → ∀ u,
      (r.Holds g s u ↔ Relation.TransGen (step.Holds g) s u)) ∧
    (∀ u, Relation.sister.Holds g s u ↔
      Relation.leftSister.Holds g s u ∨ Relation.rightSister.Holds g s u) ∧
    (∀ d u, (Relation.dominatesVia d).Holds g s u ↔
      ∃ between : List Site, (s :: (between ++ [u])).IsChain (Relation.parentOf.Holds g) ∧
        ∀ m ∈ between, d.accepts category m.label = true) ∧
    (∀ d : Description, (∀ m, Site.In t m → d.accepts category m.label = true) →
      (Relation.dominatesVia d).candidates g s = Relation.dominates.candidates g s) ∧
    (∀ d : Description, (∀ m, Site.In t m → d.accepts category m.label = false) →
      (Relation.dominatesVia d).candidates g s = Relation.parentOf.candidates g s) ∧
    (∀ r step : Relation, r.step? = some step → ∀ way : List Site,
      (s :: way).IsChain (step.Holds g) → way.length < (Site.top t).preorder.length) ∧
    ∀ r : Relation, (r.candidates g s).length ≤ (Site.top t).preorder.length := by
  intro g
  refine ⟨?_, ?_, ?_, ?_, ?_, ?_, ?_⟩
  · intro r step h u
    exact Relation.holds_iff_transGen h hs
  · intro u
    exact Relation.mem_sister_iff
  · intro d u
    exact Relation.mem_dominatesVia
  · intro d hd
    exact Relation.dominatesVia_eq_dominates hs hd
  · intro d hd
    exact Relation.dominatesVia_eq_parentOf hs hd
  · intro r step h way hway
    exact Relation.length_lt_of_isChain h hs hway
  · intro r
    exact Relation.length_candidates_le head category r hs

/-- The last word of a sentence follows the first one: a chain of words leads there. -/
theorem candidates_closure_of_words :
    let phrase := Tree.node "NP" [.leaf "the", .leaf "dog"]
    let t := Tree.node "S" [phrase, .leaf "barked"]
    let s : Site := ⟨.leaf "the", [(0, phrase), (0, t)]⟩
    let u : Site := ⟨.leaf "barked", [(1, t)]⟩
    let g := Grounds.ofTree t HeadFinder.firstChild id
    Site.In t s ∧ Relation.precedes.Holds g s u ∧ ¬Relation.immediatelyPrecedes.Holds g s u ∧
      Relation.TransGen (Relation.immediatelyPrecedes.Holds g) s u := by
  intro phrase t s u g
  have hs : Site.In t s := .child (.child .top rfl) rfl
  have hmem : u ∈ Relation.precedes.candidates g s := by decide +kernel
  have hstep : u ∉ Relation.immediatelyPrecedes.candidates g s := by decide +kernel
  have hclosure := candidates_closure t HeadFinder.firstChild id hs
  exact ⟨hs, hmem, hstep, (hclosure.1 .precedes .immediatelyPrecedes rfl u).mp hmem⟩

end Treebank
