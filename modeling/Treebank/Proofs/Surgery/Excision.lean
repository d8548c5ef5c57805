import Treebank.Proofs.Forest.Splice
import Treebank.Proofs.Surgery.Run

/-!
# What an excision cuts out

An excision fails if the inner node is not below the outer one, or if it would leave a tree without a
top or with several; it then changes nothing. Otherwise it cuts out what is below the outer node and
not below the inner one, or a single node if the two are the same, and all else stays as it was.
-/

namespace Treebank

/-- What takes the slot of `a` when all from there down to `b` is cut out: `b`, or the children of the
node if it is the same. -/
def Forest.heirs (f : Forest) (a b : NodeId) : List NodeId := if a = b then f.children b else [b]

namespace Surgery

variable {s : State} {f : Forest} {a b n r : Nat} {cs : List Nat} {outer inner : String}

/-! ## Filling the slot -/

/-- The nodes stand in the slot of the node, or the first of them has become the root in its place. -/
structure State.Replaced (s : State) (a : NodeId) (cs : List NodeId) (s' : State) : Prop where
  spliced : s.forest.Spliced s'.forest a cs
  names_eq : s'.names = s.names
  root_eq : s'.root = if s.root = some a then cs.head? else s.root

theorem runFrom_supersede_root (hroot : s.root = some a) :
    (supersede a cs).runFrom s = (.ok (), { s with root := cs.head? }) := by
  rw [supersede, runFrom_root_bind]
  simp only [hroot, beq_self_eq_true, if_true]
  rfl

theorem runFrom_supersede_slot (hroot : s.root ≠ some a) : (supersede a cs).runFrom s =
    (edit (Forest.replaceWith a cs) >>= fun _ => pure ()).runFrom s := by
  rw [supersede, runFrom_root_bind]
  simp only [beq_iff_eq, hroot, if_false]

theorem succeeds_supersede_root (hs : s.Sound) (hroot : s.root = some a)
    (hreleased : s.forest.Released f cs) :
    Succeeds { s with forest := f } (supersede a cs) (s.Replaced a cs) := by
  refine ⟨_, runFrom_supersede_root hroot, ?_, rfl, ?_⟩
  · exact hreleased.spliced_top (hs.root_top a hroot).2
  · rw [if_pos hroot]

theorem succeeds_supersede_slot {p : Nat} (hs : s.Sound) (hroot : s.root ≠ some a)
    (hp : s.forest.parent? a = some p) (hcs : s.forest.Layer a cs) (hnodup : cs.Nodup)
    (hreleased : s.forest.Released f cs) :
    Succeeds { s with forest := f } (supersede a cs) (s.Replaced a cs) := by
  have hmoves := hreleased.moves
  have hmem : a ∉ cs := fun hac => (hcs.below a hac).2 rfl
  have hp' : f.parent? a = some p := (hmoves.parent?_of_not_mem hmem).trans hp
  have hsize : ∀ c ∈ cs, c < f.size := by
    intro c hc
    obtain ⟨hac, hne⟩ := hcs.below c hc
    obtain ⟨q, hq, _⟩ := hac.exists_parent hne
    rw [hmoves.size_eq]
    exact Forest.lt_size_of_parent? hq
  have htop : ∀ c ∈ cs, f.parent? c = none := fun c hc => hmoves.parent?_of_mem hc
  have hcov : ∀ c ∈ cs, ¬f.Covers c p := by
    intro c hc hcp
    obtain ⟨hac, hne⟩ := hcs.below c hc
    have hca : s.forest.Covers c a := .under hp (hmoves.covers hcp)
    exact hne ((hs.wellFormed.grounded c).eq_of_covers hac hca)
  rw [Succeeds, runFrom_supersede_slot (s := { s with forest := f }) hroot]
  apply succeeds_edit_bind
    (Forest.achieves_replaceWith cs hmoves.wellFormed hp' hnodup hsize htop hcov)
  rintro _ f'' ⟨⟨f', hout, hin⟩, hgroup⟩
  refine ⟨_, rfl, ?_, rfl, ?_⟩
  · exact hreleased.spliced_slot hs.wellFormed hcs.below hp hout hin hgroup
  · rw [if_neg hroot]

theorem succeeds_supersede (hs : s.Sound) (ha : s.InPlace a) (hcs : s.forest.Layer a cs)
    (hnodup : cs.Nodup) (hreleased : s.forest.Released f cs) :
    Succeeds { s with forest := f } (supersede a cs) (s.Replaced a cs) := by
  by_cases hroot : s.root = some a
  · exact succeeds_supersede_root hs hroot hreleased
  · obtain ⟨p, hp⟩ := Option.isSome_iff_exists.mp (ha.resolve_left hroot)
    exact succeeds_supersede_slot hs hroot hp hcs hnodup hreleased

/-! ## The two kinds of excisions -/

/-- A node is cut out by itself, unless it is the root and does not have exactly one child. -/
theorem runFrom_dissolve_root (hroot : s.root = some n) (hlength : (s.forest.children n).length ≠ 1) :
    (dissolve inner n).runFrom s =
      (.error (.rootWithChildren inner (s.forest.children n).length), s) := by
  rw [dissolve, runFrom_forest_bind, runFrom_root_bind]
  simp only [hroot, beq_self_eq_true, bne_iff_ne, Bool.true_and, ne_eq, hlength, not_false_eq_true,
    if_true]
  rfl

theorem succeeds_dissolve (hs : s.Sound) (hn : s.InPlace n)
    (hlength : s.root = some n → (s.forest.children n).length = 1) :
    Succeeds s (dissolve inner n) (s.Replaced n (s.forest.children n)) := by
  have hnodup := hs.wellFormed.nodup_children n
  have hlayer := hs.wellFormed.layer_children n
  have hrelease := achieves_releaseAll (s.forest.children n) hs.wellFormed hnodup
    fun c hc => hs.wellFormed.mem_children.mp hc
  have hstep : (dissolve inner n).runFrom s =
      (edit (releaseAll n (s.forest.children n)) >>= fun _ =>
        supersede n (s.forest.children n)).runFrom s := by
    rw [dissolve, runFrom_forest_bind, runFrom_root_bind]
    simp only [Bool.and_eq_true, beq_iff_eq, bne_iff_ne]
    rw [if_neg fun h => h.2 (hlength h.1)]
  rw [Succeeds, hstep]
  refine succeeds_edit_bind hrelease ?_
  intro _ f hreleased
  exact succeeds_supersede hs hn hlayer hnodup hreleased

theorem succeeds_detach_supersede (hs : s.Sound) (ha : s.InPlace a) (hcov : s.forest.Covers a b)
    (hne : a ≠ b) : Succeeds s (edit (Forest.detach b) >>= fun _ => supersede a [b])
      (s.Replaced a [b]) := by
  obtain ⟨q, hq, _⟩ := hcov.exists_parent hne
  refine succeeds_edit_bind (Forest.achieves_detach hs.wellFormed hq) ?_
  rintro _ _ rfl
  exact succeeds_supersede hs ha (hs.wellFormed.layer_single hcov hne) (List.nodup_singleton b)
    (hs.wellFormed.released_unlink hq)

/-! ## Excisions -/

theorem runFrom_checkNested (hs : s.Sound) (hb : b < s.forest.size) :
    (checkNested outer inner a b).runFrom s =
      if s.forest.spans a b then (.ok (), s) else (.error (.notAbove outer inner), s) := by
  rw [checkNested, Forest.spans]
  by_cases hab : a = b
  · simp [hab]
    rfl
  · simp only [beq_iff_eq, hab, if_false]
    rw [runFrom_bind, hs.runFrom_isAbove hb]
    cases s.forest.dominates a b <;> simp [hab] <;> rfl

/-- Below the root, an excision is refused only if the nodes are not nested, and goes on to cut. -/
theorem runFrom_excise (hs : s.Sound) (houter : s.names.lookup outer = some a)
    (hinner : s.names.lookup inner = some b) (ha : s.InPlace a) :
    (excise outer inner).runFrom s =
      if s.forest.spans a b then
        (if a = b then dissolve inner b
          else edit (Forest.detach b) >>= fun _ => supersede a [b]).runFrom s
      else (.error (.notAbove outer inner), s) := by
  have hcut : ¬((s.forest.parent? a).isNone && s.root != some a) = true := by
    rw [Bool.and_comm]
    exact State.inPlace_iff.mp ha
  rw [excise, runFrom_bind, runFrom_node, houter]
  simp only []
  rw [runFrom_bind, runFrom_node, hinner]
  simp only []
  rw [runFrom_bind, runFrom_checkNested hs (hs.names_known inner b hinner)]
  by_cases hspans : s.forest.spans a b = true
  · simp only [hspans, if_true]
    rw [runFrom_forest_bind, runFrom_root_bind, if_neg hcut]
    simp only [beq_iff_eq]
  · simp only [hspans, Bool.false_eq_true, if_false]

/-- Cutting all from `a` down to `b` out of the tree with the top `r` has made it the tree with the top
`r'`. The nodes that take the slot of `a` keep what hangs from them; just what is below `a` and not below
`b`, or `a` alone if it is `b`, has left the tree; and the others follow one another as before. -/
structure State.CutOut (s : State) (r a b : NodeId) (s' : State) (r' : NodeId) : Prop where
  root_eq : s'.root = some r'
  top : if a = r then s.forest.heirs a b = [r'] else r' = r
  names_eq : s'.names = s.names
  spliced : s.forest.Spliced s'.forest a (s.forest.heirs a b)
  tree_eq : ∀ c ∈ s.forest.heirs a b, s'.forest.tree c = s.forest.tree c
  covers_iff : ∀ n, s'.forest.Covers r' n ↔
    s.forest.Covers r n ∧ ¬if a = b then n = a else s.forest.Covers a n ∧ ¬s.forest.Covers b n
  preorder_eq : s'.forest.preorder r' =
    (s.forest.preorder r).filter (s.forest.isKept a (s.forest.heirs a b))

theorem layer_heirs (hs : s.Sound) (hcov : s.forest.Covers a b) :
    s.forest.Layer a (s.forest.heirs a b) := by
  rw [Forest.heirs]
  split
  · rename_i hab
    exact hab ▸ hs.wellFormed.layer_children a
  · rename_i hne
    exact hs.wellFormed.layer_single hcov hne

/-- What the heirs do not keep is what is below `a` and not below `b`, or `a` alone if it is `b`. -/
theorem isKept_heirs (hs : s.Sound) : s.forest.isKept a (s.forest.heirs a b) n = true ↔
    ¬if a = b then n = a else s.forest.Covers a n ∧ ¬s.forest.Covers b n := by
  rw [hs.wellFormed.isKept_iff, Forest.heirs]
  by_cases hab : a = b
  · subst hab
    rw [if_pos rfl, if_pos rfl]
    constructor
    · rintro (hnot | ⟨c, hc, hcov⟩) rfl
      · exact hnot .self
      · exact (hs.wellFormed.grounded c).not_covers (hs.wellFormed.mem_children.mp hc) hcov
    · intro hne
      by_cases hcov : s.forest.Covers a n
      · obtain ⟨c, hc, hcn⟩ := hcov.exists_child (Ne.symm hne)
        exact Or.inr ⟨c, hs.wellFormed.mem_children.mpr hc, hcn⟩
      · exact Or.inl hcov
  · rw [if_neg hab, if_neg hab, not_and_or, not_not]
    simp

theorem exists_heirs_eq_singleton (hlength : a = b → (f.children a).length = 1) :
    ∃ c, f.heirs a b = [c] := by
  rw [Forest.heirs]
  split
  · rename_i hab
    exact List.length_eq_one_iff.mp (hab ▸ hlength hab)
  · exact ⟨b, rfl⟩

theorem State.Replaced.cutOut {s' : State} (h : s.Replaced a (s.forest.heirs a b) s') (hs : s.Sound)
    (hr : s.root = some r) (hcov : s.forest.Covers a b)
    (hlength : a = b → a = r → (s.forest.children a).length = 1) : ∃ r', s.CutOut r a b s' r' := by
  have hlayer := layer_heirs hs hcov
  have htop : ∃ r', s'.root = some r' ∧ if a = r then s.forest.heirs a b = [r'] else r' = r := by
    rw [h.root_eq, hr]
    by_cases har : a = r
    · obtain ⟨c, hc⟩ := exists_heirs_eq_singleton fun hab => hlength hab har
      rw [har] at hc ⊢
      rw [if_pos rfl, hc]
      exact ⟨c, rfl, by rw [if_pos rfl]⟩
    · have hne : some r ≠ some a := by simpa using Ne.symm har
      exact ⟨r, if_neg hne, by rw [if_neg har]⟩
  obtain ⟨r', hroot, htop⟩ := htop
  have hpreorder := h.spliced.preorder_top hs.wellFormed hlayer (hs.root_top r hr).2 htop
  refine ⟨r', hroot, htop, h.names_eq, h.spliced, ?_, ?_, hpreorder⟩
  · intro c hc
    exact (h.spliced.below hs.wellFormed hlayer hc .self).2
  · intro n
    rw [← h.spliced.wellFormed.mem_preorder, hpreorder, List.mem_filter, hs.wellFormed.mem_preorder,
      isKept_heirs hs]

/-- A node of the tree is its root or has a parent. -/
theorem State.inPlace (hr : s.root = some r) (ha : s.forest.Covers r a) : s.InPlace a := by
  by_cases hra : r = a
  · exact Or.inl (hra ▸ hr)
  · obtain ⟨p, hp, _⟩ := ha.exists_parent hra
    exact Or.inr (by rw [hp]; rfl)

section
variable (hs : s.Sound) (hr : s.root = some r) (houter : s.names.lookup outer = some a)
  (hinner : s.names.lookup inner = some b) (ha : s.forest.Covers r a)
include hs hr houter hinner ha

theorem runFrom_excise_apart (hcov : ¬s.forest.Covers a b) :
    (excise outer inner).runFrom s = (.error (.notAbove outer inner), s) := by
  rw [runFrom_excise hs houter hinner (State.inPlace hr ha),
    if_neg fun h => hcov (hs.wellFormed.spans_iff.mp h)]

theorem runFrom_excise_root (hab : a = b) (har : a = r)
    (hlength : (s.forest.children a).length ≠ 1) : (excise outer inner).runFrom s =
      (.error (.rootWithChildren inner (s.forest.children a).length), s) := by
  subst hab har
  rw [runFrom_excise hs houter hinner (State.inPlace hr ha),
    if_pos (hs.wellFormed.spans_iff.mpr .self), if_pos rfl, runFrom_dissolve_root hr hlength]

theorem succeeds_excise (hcov : s.forest.Covers a b)
    (hlength : a = b → a = r → (s.forest.children a).length = 1) :
    Succeeds s (excise outer inner) fun s' => ∃ r', s.CutOut r a b s' r' := by
  have hplace := State.inPlace hr ha
  have hreplaced : Succeeds s (excise outer inner) (s.Replaced a (s.forest.heirs a b)) := by
    rw [Succeeds, runFrom_excise hs houter hinner hplace,
      if_pos (hs.wellFormed.spans_iff.mpr hcov)]
    by_cases hab : a = b
    · subst hab
      rw [if_pos rfl, Forest.heirs, if_pos rfl]
      apply succeeds_dissolve hs hplace
      intro hroot
      rw [hr, Option.some.injEq] at hroot
      exact hlength rfl hroot.symm
    · rw [if_neg hab, Forest.heirs, if_neg hab]
      exact succeeds_detach_supersede hs hplace hcov hab
  obtain ⟨s', hrun, hreplaced⟩ := hreplaced
  exact ⟨s', hrun, hreplaced.cutOut hs hr hcov hlength⟩

/-- An excision of nodes of a tree is refused, and then changes nothing, if and only if the inner node is
neither the outer one nor below it, or the two are the root and it does not have exactly one child. If
not, it cuts out all from the outer node down to the inner one, and nothing else. -/
theorem excise_cutOut :
    ((∃ e, (runFrom s (Statement.excise outer inner).apply).1 = .error e) ↔
      ¬s.forest.Covers a b ∨ a = b ∧ a = r ∧ (s.forest.children a).length ≠ 1) ∧
    (∀ e s', runFrom s (Statement.excise outer inner).apply = (.error e, s') → s' = s ∧
      (e = .notAbove outer inner ∨ e = .rootWithChildren inner (s.forest.children a).length)) ∧
    (s.forest.Covers a b → ¬(a = b ∧ a = r ∧ (s.forest.children a).length ≠ 1) →
      ∃ s' r', runFrom s (Statement.excise outer inner).apply = (.ok (), s') ∧
        s.CutOut r a b s' r') := by
  have happly : (Statement.excise outer inner).apply = excise outer inner := rfl
  rw [happly]
  by_cases hcov : s.forest.Covers a b
  · by_cases hrefused : a = b ∧ a = r ∧ (s.forest.children a).length ≠ 1
    · rw [runFrom_excise_root hs hr houter hinner ha hrefused.1 hrefused.2.1 hrefused.2.2]
      refine ⟨⟨fun _ => Or.inr hrefused, fun _ => ⟨_, rfl⟩⟩, ?_, fun _ h => absurd hrefused h⟩
      intro e s' h
      cases h
      exact ⟨rfl, Or.inr rfl⟩
    · have hlength : a = b → a = r → (s.forest.children a).length = 1 := by
        intro hab har
        by_cases hone : (s.forest.children a).length = 1
        · exact hone
        · exact absurd ⟨hab, har, hone⟩ hrefused
      obtain ⟨s', hrun, r', hcut⟩ := succeeds_excise hs hr houter hinner ha hcov hlength
      rw [hrun]
      refine ⟨⟨?_, ?_⟩, ?_, fun _ _ => ⟨s', r', rfl, hcut⟩⟩
      · rintro ⟨e, he⟩
        cases he
      · rintro (hnot | hrefused')
        · exact absurd hcov hnot
        · exact absurd hrefused' hrefused
      · intro e s'' h
        cases h
  · rw [runFrom_excise_apart hs hr houter hinner ha hcov]
    refine ⟨⟨fun _ => Or.inl hcov, fun _ => ⟨_, rfl⟩⟩, ?_, fun h _ => absurd h hcov⟩
    intro e s' h
    cases h
    exact ⟨rfl, Or.inl rfl⟩

end

/-- A noun takes the place of its phrase; the determiner leaves the tree with the phrase, and the verb
phrase stays the second child of the root. -/
theorem excise_cutOut_of_noun :
    let phrase := Tree.node "NP" [.node "DT" [.leaf "the"], .node "NN" [.leaf "dog"]]
    let t := Tree.node "S" [phrase, .node "VP" [.leaf "barked"]]
    let s := State.start t [("np", ⟨phrase, [(0, t)]⟩),
      ("nn", ⟨.node "NN" [.leaf "dog"], [(1, phrase), (0, t)]⟩)]
    ∃ s' r', runFrom s (Statement.excise "np" "nn").apply = (.ok (), s') ∧ s'.root = some r' ∧
      s'.forest.children 0 = [4, 6] ∧ s'.forest.preorder r' = [0, 4, 5, 6, 7] ∧
      ¬s'.forest.Covers r' 2 := by
  intro phrase t s
  have hs : s.Sound := State.sound_start t _
  have hroot : s.root = some 0 := rfl
  have houter : s.names.lookup "np" = some 1 := rfl
  have hinner : s.names.lookup "nn" = some 4 := rfl
  have hnp : s.forest.Covers 0 1 := .under rfl .self
  have hnn : s.forest.Covers 1 4 := .under rfl .self
  have hdt : s.forest.Covers 1 2 := .under rfl .self
  obtain ⟨_, _, hcuts⟩ := excise_cutOut hs hroot houter hinner hnp
  obtain ⟨s', r', hrun, hcut⟩ := hcuts hnn (by decide)
  have hr' : r' = 0 := hcut.top
  refine ⟨s', r', hrun, hcut.root_eq, ?_, ?_, ?_⟩
  · rw [hcut.spliced.slot 0 rfl]
    rfl
  · rw [hcut.preorder_eq]
    rfl
  · rw [hcut.covers_iff 2, if_neg (by decide)]
    rintro ⟨_, hout⟩
    refine hout ⟨hdt, ?_⟩
    rw [← hs.wellFormed.spans_iff]
    decide

end Surgery

end Treebank
