import Treebank.Proofs.Forest.Plugging
import Treebank.Proofs.Relation.Span
import Treebank.Proofs.Surgery.Excision
import Treebank.Proofs.Surgery.Failures
import Treebank.Proofs.Surgery.Placement

/-!
# Adjunctions and replacements

An adjunction and a replacement put a tree of new nodes in the slot of a node, or make it the tree if
the node is the root. By an adjunction the children of the node come to stand under the foot of the new
tree; a replacement leaves them with the node. All else stays as it was.
-/

namespace Treebank

/-- The names that the tree of a source makes known, with the addresses of their nodes. -/
def Source.named : Source → List (String × List Nat)
  | .node _ => []
  | .template t => t.names

namespace Surgery

variable {s s₁ s' : State} {f : Forest} {r t n top foot : Nat} {moved : List Nat} {name : String}
  {named : List (String × List Nat)} {aux : Template} {v : Site} {source : Source} {x : Tree}

/-! ## Names -/

/-- The names denote the nodes at their addresses below the node `top`, where of several addresses of one
name the last counts. The other names denote what they denoted. -/
structure State.Introduces (s : State) (named : List (String × List Nat)) (top : NodeId)
    (s' : State) : Prop where
  introduced : ∀ name path, named.reverse.lookup name = some path →
    ∃ n, s'.forest.follow? top path = some n ∧ s'.names.lookup name = some n
  others : ∀ name ∉ named.map (·.1), s'.names.lookup name = s.names.lookup name

theorem State.Introduces.kept (h : s.Introduces named top s₁) (hnames : s'.names = s₁.names)
    (hfollow : ∀ path n, s₁.forest.follow? top path = some n → s'.forest.follow? top path = some n) :
    s.Introduces named top s' where
  introduced name path hpath := by
    obtain ⟨n, hn, hname⟩ := h.introduced name path hpath
    exact ⟨n, hfollow path n hn, hnames ▸ hname⟩
  others name hname := hnames ▸ h.others name hname

/-- The nodes of a planted copy are found at the addresses in the literal tree. -/
theorem exists_follow?_plant (f : Forest) (ht : aux.Located) :
    ∀ e ∈ aux.names, ∃ n, (f.plant aux.tree).2.follow? (f.plant aux.tree).1 e.2 = some n := by
  intro e he
  obtain ⟨u, hu⟩ := Option.isSome_iff_exists.mp (ht.names e he)
  exact ((f.hangs_plant aux.tree).exists_follow? hu).imp fun _ h => h.1

theorem introduces_bindAll (hnames : s₁.names = s.names)
    (hfollow : ∀ e ∈ aux.names, ∃ n, f.follow? top e.2 = some n)
    (hkept : ∀ path n, f.follow? top path = some n → s₁.forest.follow? top path = some n) :
    s.Introduces aux.names top (s₁.bindAll (namedNodes aux f top)) where
  introduced name path hpath := by
    have hmem : ∃ e ∈ aux.names, e.2 = path := by
      obtain ⟨l₁, l₂, hl, _⟩ := List.lookup_eq_some_iff.mp hpath
      refine ⟨(name, path), List.mem_reverse.mp ?_, rfl⟩
      simp [hl]
    obtain ⟨e, he, rfl⟩ := hmem
    obtain ⟨n, hn⟩ := hfollow e he
    have hlookup : (namedNodes aux f top).reverse.lookup name = some n := by
      rw [namedNodes, ← List.filterMap_reverse,
        lookup_filterMap _ fun e he => hfollow e (List.mem_reverse.mp he), hpath]
      exact hn
    refine ⟨n, ?_, ?_⟩
    · rw [State.forest_bindAll]
      exact hkept e.2 n hn
    · rw [State.lookup_bindAll_eq, hlookup, Option.some_or]
  others name hname := by
    rw [State.lookup_bindAll_of_not_mem, hnames]
    intro hmem
    obtain ⟨e, he, rfl⟩ := List.mem_map.mp hmem
    exact hname (mem_introduced_of_mem_namedNodes he)

/-! ## The slot -/

/-- In the tree with the top `r` the new tree with the top `top` has taken the slot of `t`, or it has
become the tree if `t` is the root. The nodes `moved` have left `t`. -/
structure State.Plugged (s : State) (r t top : NodeId) (moved : List NodeId) (s' : State) : Prop where
  plugs : s.forest.Plugs s'.forest t top moved
  root_eq : s'.root = some (if r = t then top else r)
  tree?_eq : ∀ u, s.forest.StandsAt r t u →
    s'.tree? = some ((s.forest.tree r).replaceAt u.address (s'.forest.tree top))

theorem State.Plugged.bindAll (h : s.Plugged r t top moved s') (named : List (String × NodeId)) :
    s.Plugged r t top moved (s'.bindAll named) where
  plugs := by
    rw [forest_bindAll]
    exact h.plugs
  root_eq := (root_bindAll s' named).trans h.root_eq
  tree?_eq u hu := by
    rw [tree?, root_bindAll, forest_bindAll]
    exact h.tree?_eq u hu

theorem State.Sound.plugged (hs : s.Sound) (hr : s.root = some r)
    (hplugs : s.forest.Plugs s'.forest t top moved)
    (hroot : s'.root = some (if r = t then top else r)) : s.Plugged r t top moved s' where
  plugs := hplugs
  root_eq := hroot
  tree?_eq u hu := by
    rw [tree?, hroot, Option.map_some,
      hplugs.tree_eq hs.wellFormed (hs.root_top r hr).1 hu.follow?_eq]

/-- A new tree takes the slot of a node of the tree, or becomes the tree. -/
theorem succeeds_supersede_plugged (hs : s.Sound) (hr : s.root = some r) (hroot : s₁.root = s.root)
    (hcov : s.forest.Covers r t) (hmoved : ∀ c ∈ moved, s.forest.parent? c = some t)
    (h : s.forest.Extends s₁.forest top moved) :
    Succeeds s₁ (supersede t [top]) fun s' => s.Plugged r t top moved s' ∧ s'.names = s₁.names ∧
      ∀ k, s₁.forest.Covers top k →
        s'.forest.label k = s₁.forest.label k ∧ s'.forest.children k = s₁.forest.children k := by
  have hf := hs.wellFormed
  obtain ⟨hrlt, hrtop⟩ := hs.root_top r hr
  have hlt := hcov.lt_size hrlt
  by_cases hrt : r = t
  · subst hrt
    have hplugs := h.plugs_top hf hlt hmoved hrtop
    refine ⟨_, runFrom_supersede_root (hroot.trans hr), hs.plugged hr hplugs ?_, rfl,
      fun k _ => ⟨rfl, rfl⟩⟩
    rw [if_pos rfl, List.head?_cons]
  · obtain ⟨p, hp, hrp⟩ := hcov.exists_parent hrt
    have hmem : t ∉ moved := fun hmem => (hf.grounded t).ne_parent (hmoved t hmem) rfl
    have hp₁ : s₁.forest.parent? t = some p := (h.parent?_eq t hlt hmem).trans hp
    have hne : s₁.root ≠ some t := by
      rw [hroot, hr, ne_eq, Option.some.injEq]
      exact hrt
    have htopp : ¬s₁.forest.Covers top p := fun hcov' => absurd
      (h.lt_size_of_covers hf hcov' (hrp.lt_size hrlt) fun c hc hcp =>
        (hf.grounded c).not_covers (hmoved c hc) (hcp.trans (.under hp .self)))
      (Nat.not_lt_of_le h.top_new.1)
    rw [Succeeds, runFrom_supersede_slot hne]
    apply succeeds_edit_bind (Forest.achieves_replaceWith [top] h.wellFormed hp₁
      (List.nodup_singleton top) (by simpa using h.top_new.2) (by simpa using h.parent?_top)
      (by simpa using htopp))
    rintro _ f' ⟨⟨f'', hout, hin⟩, hgroup⟩
    have hplugs := h.plugs_slot hf hlt hmoved hp hout hin hgroup
    refine ⟨_, rfl, hs.plugged hr hplugs ?_, rfl, fun k hk => ?_⟩
    · rw [if_neg hrt, ← hr]
      exact hroot
    · exact ⟨hgroup.label_eq k, hgroup.children_ne k fun hkp => htopp (hkp ▸ hk)⟩

/-! ## Replacements -/

theorem introduces_materialize (hsource : source.Located)
    (hrun : (materialize source).runFrom s = (.ok top, s₁))
    (hnames : ∀ name ∉ source.introduced, s₁.names.lookup name = s.names.lookup name) :
    s.Introduces source.named top s₁ := by
  cases source with
  | node name =>
      refine ⟨fun name path hpath => ?_, hnames⟩
      simp [Source.named] at hpath
  | template t =>
      rw [runFrom_materialize] at hrun
      cases hrun
      exact introduces_bindAll rfl (exists_follow?_plant s.forest hsource) fun _ _ h => h

/-! ## Adjunctions -/

/-- A copy of the literal tree with the foot `v` has taken the slot of `t`. Its foot has the children
that `t` had, with all below them, and `t` has none. The rest of the copy is made of new nodes. -/
structure State.Adjoined (s : State) (r t : NodeId) (aux : Template) (v : Site) (top foot : NodeId)
    (s' : State) : Prop where
  plugged : s.Plugged r t top (s.forest.children t) s'
  foot_new : s.forest.size ≤ foot
  foot_eq : s'.forest.follow? top v.address = some foot
  children_foot : s'.forest.children foot = s.forest.children t
  children_out : s'.forest.children t = []
  carries : ∀ c ∈ s.forest.children t, s.forest.Carries s'.forest c
  tree_eq : s'.forest.tree top =
    aux.tree.replaceAt v.address (.node v.label ((s.forest.children t).map s.forest.tree))
  covers_top : ∀ n, s'.forest.Covers top n →
    s.forest.size ≤ n ∨ ∃ c ∈ s.forest.children t, s.forest.Covers c n
  introduces : s.Introduces aux.names top s'

/-- The words of the literal tree are in the place of those of the node, and these are in the place of
the word of the foot. -/
theorem State.Adjoined.words_eq (h : s.Adjoined r t aux v top foot s') (hf : s.forest.WellFormed)
    (hv : v.In aux.tree) (hchildren : s.forest.children t ≠ []) {u : Site}
    (hu : s.forest.StandsAt r t u) : s'.tree?.map Tree.words = some (
      (s.forest.tree r).words.take u.span.start ++
        (aux.tree.words.take v.span.start ++ (s.forest.tree t).words ++
          aux.tree.words.drop v.span.stop) ++
        (s.forest.tree r).words.drop u.span.stop) := by
  have hwords : (Tree.node v.label ((s.forest.children t).map s.forest.tree)).words =
      (s.forest.tree t).words := by
    rw [hf.tree_eq t, Tree.words_of_children (by simpa [Tree.children] using hchildren),
      Tree.words_of_children (by simpa [Tree.children] using hchildren)]
    rfl
  rw [h.plugged.tree?_eq u hu, Option.map_some, Site.words_replaceAt hu.isIn, h.tree_eq,
    Site.words_replaceAt hv, hwords]

theorem foot_of_copy (hv : aux.FootAt v) (hf : f.WellFormed) (htree : f.tree top = aux.tree)
    (hfoot : f.follow? top v.address = some foot) : f.label foot = v.label ∧ f.children foot = [] := by
  have hv' := hf.tree_of_follow? (htree.symm ▸ hv.isIn) hfoot
  have hnil := hv.isLeaf
  rw [hf.tree_eq foot] at hv'
  rw [hv', Tree.children, List.map_eq_nil_iff] at hnil
  exact ⟨by rw [Site.label, hv', Tree.label], hnil⟩

/-- What the edits of the forest have come to, when the names are known. -/
theorem State.Plugged.adjoined (h : s.Plugged r t top (s.forest.children t) s') (hs : s.Sound)
    (haux : aux.Located) (hv : aux.FootAt v)
    (hplant : s.forest.plant aux.tree = (top, f)) (hfoot : f.follow? top v.address = some foot)
    (hnames : s'.names = s.names) (hadjoins : s.forest.Adjoins f s'.forest t top foot) :
    s.Adjoined r t aux v top foot (s'.bindAll (namedNodes aux f top)) := by
  have hf := hs.wellFormed
  have hfollow := exists_follow?_plant s.forest haux
  have htree := (hf.fresh_plant aux.tree).tree_eq
  rw [hplant] at hfollow htree
  have hforest := s'.forest_bindAll (namedNodes aux f top)
  obtain ⟨hlabel, hleaf⟩ := foot_of_copy hv (hf.adds hadjoins.adds) htree hfoot
  have hnew := hadjoins.adds.size_le_of_covers hf hadjoins.covers_foot
  refine ⟨h.bindAll _, hnew, ?_, ?_, ?_, ?_, ?_, ?_, ?_⟩
  · rw [hforest]
    exact hadjoins.follow?_eq hf hfoot
  · rw [hforest, hadjoins.children_foot, hleaf, List.nil_append]
  · rw [hforest, h.plugs.children_out, List.filter_eq_nil_iff]
    simp
  · intro c hc
    rw [hforest]
    exact hadjoins.carries hf hc
  · rw [hforest, hadjoins.tree_top hf hfoot hleaf, htree, hlabel]
  · intro n hn
    rw [hforest] at hn
    by_cases hold : n < s.forest.size
    · exact Or.inr (h.plugs.of_covers_top hf hn hold)
    · exact Or.inl (Nat.le_of_not_lt hold)
  · exact introduces_bindAll hnames hfollow fun path n hpath => hadjoins.follow?_eq hf hpath

theorem runFrom_adjoin (ht : s.names.lookup name = some t) (hplaced : s.InPlace t)
    (hplant : s.forest.plant aux.tree = (top, f)) (hfoot : aux.foot.bind (f.follow? top) = some foot) :
    (adjoin aux name).runFrom s = (do
      edit (transferAll t foot (f.children t))
      supersede t [top]
      modify fun s : State => s.bindAll (namedNodes aux f top) : Surgery Unit).runFrom
        { s with forest := f } := by
  rw [adjoin, runFrom_bind, runFrom_node, ht]
  simp only []
  rw [runFrom_root_bind, runFrom_forest_bind, if_neg (State.inPlace_iff.mp hplaced), runFrom_bind,
    runFrom_instantiate, hplant]
  simp only [hfoot]
  rw [runFrom_forest_bind]

section
variable (hs : s.Sound) (hr : s.root = some r) (ht : s.names.lookup name = some t)
  (hcov : s.forest.Covers r t)
include hs hr ht hcov

theorem succeeds_replace (hsource : source.Located) (hx : sourceTree? s source = some x) :
    Succeeds s (replace name source) fun s' => ∃ top, s.Plugged r t top [] s' ∧
      s.forest.Fresh s'.forest top x ∧ s.Introduces source.named top s' := by
  obtain ⟨s₁, hrun, hforest, hs₁, hroot₁, hnames₁⟩ := runFrom_materialize_source hs hx
  have hadds := hforest ▸ (s.forest.plant_adds x).2
  have hplaced : s₁.InPlace t := by
    rw [State.InPlace, hroot₁, hadds.parent?_old (hs.names_known name t ht)]
    exact State.inPlace hr hcov
  obtain ⟨s', hrun', hplugged, hnames, hsame⟩ := succeeds_supersede_plugged hs hr hroot₁ hcov
    (List.forall_mem_nil _) (hadds.extends hs.wellFormed)
  have hcarries := hs₁.wellFormed.carries hplugged.plugs.wellFormed hsame
  have hfresh := hforest ▸ hs.wellFormed.fresh_plant x
  refine ⟨s', ?_, _, hplugged, hfresh.carries hcarries, ?_⟩
  · rw [replace, runFrom_bind, runFrom_node, ht]
    simp only []
    rw [runFrom_bind, hrun]
    simp only []
    rw [runFrom_root_bind, runFrom_forest_bind, if_neg (State.inPlace_iff.mp hplaced)]
    exact hrun'
  · refine (introduces_materialize hsource hrun hnames₁).kept hnames fun path n hpath => ?_
    exact hs₁.wellFormed.linked.follow?_mono (fun k hk => by rw [(hsame k hk).2]) hpath

theorem succeeds_adjoin (haux : aux.Located) (hv : aux.FootAt v) :
    Succeeds s (adjoin aux name) fun s' => ∃ top foot, s.Adjoined r t aux v top foot s' := by
  have hf := hs.wellFormed
  have hlt := hs.names_known name t ht
  have hadds := (s.forest.plant_adds aux.tree).2
  obtain ⟨foot, hfoot, _⟩ := (s.forest.hangs_plant aux.tree).exists_follow? hv.isIn.get?_address
  obtain ⟨top, f, hplant⟩ : ∃ top f, s.forest.plant aux.tree = (top, f) := ⟨_, _, rfl⟩
  simp only [hplant] at hadds hfoot
  have hwf := hf.adds hadds
  have hcovfoot := hwf.covers_follow? _ hfoot
  have hchild : ∀ c ∈ f.children t, f.parent? c = some t := fun c hc => hwf.mem_children.mp hc
  have hchild' : ∀ c ∈ s.forest.children t, s.forest.parent? c = some t :=
    fun c hc => hf.mem_children.mp hc
  rw [Succeeds, runFrom_adjoin ht (State.inPlace hr hcov) hplant (by rw [hv.foot_eq]; exact hfoot)]
  -- the children are put under the foot, then the copy takes the slot, last the names become known
  refine succeeds_edit_bind (achieves_transferAll _ hwf (hwf.nodup_children t) hchild
    (hcovfoot.lt_size (hadds.tops_new top (List.mem_singleton_self top)).2)
    (hadds.not_covers hf hlt hcovfoot)) ?_
  intro _ f₂ htransfers
  rw [hadds.children_old hlt] at htransfers
  have hnew : s.forest.size ≤ foot := hadds.size_le_of_covers hf hcovfoot
  have hextends := (hadds.extends hf).transfer htransfers hnew
    fun c hc => Forest.lt_size_of_parent? (hchild' c hc)
  have hsupersede : Succeeds { s with forest := f₂ } (supersede t [top]) _ :=
    succeeds_supersede_plugged hs hr rfl hcov hchild' hextends
  refine hsupersede.bind ?_
  rintro s' ⟨hplugged, hnames, hsame⟩
  have hadjoins := hadds.adjoins hf hcovfoot htransfers hplugged.plugs hsame
  exact ⟨_, rfl, top, foot, hplugged.adjoined hs haux hv hplant hfoot hnames hadjoins⟩

/-- Adjunctions and replacements at a node of the tree always succeed. An adjunction puts a new copy of
the literal tree in the slot of the node. The children of the node come to stand under the foot in their
order, and their words in the place of that of the foot. A replacement puts there a new copy of a literal
tree, or of what was below another node before, wherever that one stands. The other nodes stay as they
are, and the names of the literal tree denote nodes of the copy. -/
theorem plugged_adjoin_replace :
    (∀ aux v, aux.Located → aux.FootAt v →
      Succeeds s (Statement.adjoin aux name).apply fun s' => ∃ top foot,
        s.Adjoined r t aux v top foot s' ∧
        (s.forest.children t ≠ [] → ∀ u, s.forest.StandsAt r t u → s'.tree?.map Tree.words = some (
          (s.forest.tree r).words.take u.span.start ++
            (aux.tree.words.take v.span.start ++ (s.forest.tree t).words ++
              aux.tree.words.drop v.span.stop) ++
            (s.forest.tree r).words.drop u.span.stop))) ∧
    ∀ source x, source.Located → sourceTree? s source = some x →
      Succeeds s (Statement.replace name source).apply fun s' => ∃ top,
        s.Plugged r t top [] s' ∧ s.forest.Fresh s'.forest top x ∧
          s.Introduces source.named top s' := by
  refine ⟨fun aux v haux hv => ?_, fun source x hsource hx =>
    succeeds_replace hs hr ht hcov hsource hx⟩
  refine (succeeds_adjoin hs hr ht hcov haux hv).mono ?_
  rintro s' ⟨top, foot, hadjoined⟩
  exact ⟨top, foot, hadjoined, fun hchildren u hu =>
    hadjoined.words_eq hs.wellFormed hv.isIn hchildren hu⟩

end

/-- An adverb is adjoined to a verb phrase, and the verb comes to stand under the foot. A verb phrase is
replaced by a copy of the sentence that it is in. -/
theorem plugged_adjoin_replace_of_verb_phrase :
    let phrase := Tree.node "VP" [.node "VBD" [.leaf "ran"]]
    let t := Tree.node "S" [.leaf "dogs", phrase]
    let s := State.start t [("s", ⟨t, []⟩), ("vp", ⟨phrase, [(1, t)]⟩)]
    let aux : Template :=
      ⟨.node "VP" [.leaf "often", .leaf "VP"], [("foot", [1])], some [1], "(VP often VP=foot@)"⟩
    (∃ s' foot, runFrom s (Statement.adjoin aux "vp").apply = (.ok (), s') ∧
      s'.tree?.map Tree.words = some ["dogs", "often", "ran"] ∧
      s'.names.lookup "foot" = some foot ∧ s'.forest.children foot = [3] ∧
      s'.forest.parent? 2 = none ∧ s'.forest.children 2 = []) ∧
    ∃ s', runFrom s (Statement.replace "vp" (.node "s")).apply = (.ok (), s') ∧
      s'.tree? = some (.node "S" [.leaf "dogs", t]) ∧ s'.forest.children 2 = [3] := by
  intro phrase t s aux
  have hs : s.Sound := State.sound_start t _
  have hroot : s.root = some 0 := rfl
  have hvp : s.names.lookup "vp" = some 2 := rfl
  have hcov : s.forest.Covers 0 2 := .under rfl .self
  have hu : s.forest.StandsAt 0 2 ⟨phrase, [(1, t)]⟩ := ⟨.child .top rfl, rfl⟩
  have hv : aux.FootAt ⟨.leaf "VP", [(1, aux.tree)]⟩ := ⟨.child .top rfl, rfl, rfl⟩
  have haux : aux.Located := by
    refine ⟨fun e he => ?_, fun path hpath => ?_⟩
    · obtain rfl := List.mem_singleton.mp he
      rfl
    · obtain rfl := Option.some.inj hpath
      rfl
  obtain ⟨hadjoin, hreplace⟩ := plugged_adjoin_replace hs hroot hvp hcov
  constructor
  · obtain ⟨s', hrun, top, foot, hadjoined, hwords⟩ := hadjoin aux _ haux hv
    obtain ⟨n, hn, hname⟩ := hadjoined.introduces.introduced "foot" [1] rfl
    obtain rfl : foot = n := Option.some.inj (hadjoined.foot_eq.symm.trans hn)
    exact ⟨s', foot, hrun, hwords (by decide) _ hu, hname, hadjoined.children_foot,
      hadjoined.plugged.plugs.parent?_out, hadjoined.children_out⟩
  · obtain ⟨s', hrun, top, hplugged, hfresh, _⟩ := hreplace (.node "s") t trivial rfl
    refine ⟨s', hrun, ?_, hplugged.plugs.children_out⟩
    rw [hplugged.tree?_eq _ hu, hfresh.tree_eq]
    rfl

end Surgery

end Treebank
