import Treebank.Proofs.Statement.Decoration
import Treebank.Proofs.Statement.Reading
import Treebank.Proofs.Surgery.Adjunction

/-!
# Copies of literal trees

Every use of a literal tree makes a new tree of its own in the forest. The trees that stand there
already, earlier copies among them, go on standing and have no node in common with the new one, and the
names and the foot denote the nodes of the new one at the addresses that have been read.
-/

namespace Treebank

namespace Surgery

variable {t : Tree} {aux : Template} {d : Decoration} {text : String}

/-- From a literal tree a new tree with the top `top` has been made, with these nodes for its names and
this one for its foot. -/
structure State.Copied (s : State) (aux : Template) (top : NodeId) (named : List (String × NodeId))
    (foot : Option NodeId) (s' : State) : Prop where
  /-- Only the forest is another one. -/
  forest_only : s' = { s with forest := s'.forest }
  stands : s'.forest.TreeAt top aux.tree
  /-- The tree consists of new nodes. -/
  size_le : ∀ n, s'.forest.Reaches top n → s.forest.size ≤ n
  node_eq : ∀ n < s.forest.size, s'.forest.node n = s.forest.node n
  /-- Another tree goes on standing, and no node belongs to both. -/
  apart : ∀ other u, s.forest.TreeAt other u →
    s'.forest.TreeAt other u ∧ ∀ n, s'.forest.Reaches other n → ¬s'.forest.Reaches top n
  named_follow : List.Forall₂ (fun e e' => e'.1 = e.1 ∧ s'.forest.follow? top e.2 = some e'.2)
    aux.names named
  foot_follow : List.Forall₂ (fun path n => s'.forest.follow? top path = some n)
    aux.foot.toList foot.toList
  /-- Of several nodes with one name the last gets it. -/
  introduces : s.Introduces aux.names top (s'.bindAll named)

/-- Every entry leads to its node, in the order of the entries. -/
theorem forall₂_followed {f : Forest} {top : NodeId} {entries : List (String × List Nat)}
    (h : ∀ e ∈ entries, ∃ n, f.follow? top e.2 = some n) :
    List.Forall₂ (fun e e' => e'.1 = e.1 ∧ f.follow? top e.2 = some e'.2) entries
      (entries.filterMap fun (name, path) => (f.follow? top path).map (name, ·)) := by
  induction entries with
  | nil => exact .nil
  | cons e entries ih =>
      obtain ⟨⟨n, hn⟩, hentries⟩ := List.forall_mem_cons.mp h
      rw [List.filterMap_cons]
      simp only [hn, Option.map_some]
      exact .cons ⟨rfl, hn⟩ (ih hentries)

theorem forall₂_foot {f : Forest} {top : NodeId} {foot : Option (List Nat)}
    (h : ∀ path, foot = some path → ∃ n, f.follow? top path = some n) :
    List.Forall₂ (fun path n => f.follow? top path = some n) foot.toList
      (foot.bind (f.follow? top)).toList := by
  cases foot with
  | none => exact .nil
  | some path =>
      obtain ⟨n, hn⟩ := h path rfl
      rw [Option.bind_some, hn]
      exact .cons hn .nil

/-- A literal tree that is located can be copied in every state. -/
theorem exists_copied (haux : aux.Located) (s : State) : ∃ top named foot s',
    (instantiate aux).runFrom s = (.ok (top, named, foot), s') ∧ s.Copied aux top named foot s' := by
  have hnew := fun n => s.forest.size_le_of_reaches_plant (n := n) aux.tree
  have hstands := Forest.treeAt_plant s.forest aux.tree
  have hnames := exists_follow?_plant s.forest haux
  have hfoot : ∀ path, aux.foot = some path →
      ∃ n, (s.forest.plant aux.tree).2.follow? (s.forest.plant aux.tree).1 path = some n := by
    intro path hpath
    obtain ⟨u, hu⟩ := Option.isSome_iff_exists.mp (haux.foot path hpath)
    exact ((s.forest.hangs_plant aux.tree).exists_follow? hu).imp fun _ h => h.1
  obtain ⟨htop, hadds⟩ := s.forest.plant_adds aux.tree
  obtain ⟨top, f, hplant⟩ : ∃ top f, s.forest.plant aux.tree = (top, f) := ⟨_, _, rfl⟩
  simp only [hplant] at hnew hstands hnames hfoot htop hadds
  refine ⟨top, namedNodes aux f top, aux.foot.bind (f.follow? top), { s with forest := f }, ?_, ?_⟩
  · rw [runFrom_instantiate, hplant]
  · refine ⟨rfl, hstands, hnew, hadds.node_eq, fun other u hu => ?_, forall₂_followed hnames,
      forall₂_foot hfoot, introduces_bindAll rfl hnames fun _ _ h => h⟩
    have hne : other ≠ top := by
      rintro rfl
      exact absurd hu.lt_size (Nat.not_lt_of_le (Nat.le_of_eq htop.symm))
    exact ⟨hu.adds hadds, fun n hn => (hu.adds hadds).disjoint hstands hne hn⟩

/-- A tree is read back from its text with names for nodes and a foot added to the labels: the tree as
it was, the names in preorder with the addresses of their nodes, and the address of the foot. In every
state a copy of what has been read can be made. -/
theorem read_decorated_and_copied (h : d.Fits t) (statement : String)
    (htext : text = (d.apply t).bracketed ∨ ∃ column, text = (d.apply t).pretty column) :
    let aux : Template := ⟨t, d.named (Site.top t).preorder, d.foot, text⟩
    Template.read text statement d.foot.isSome = .ok aux ∧
      ∀ s, ∃ top named foot s', (instantiate aux).runFrom s = (.ok (top, named, foot), s') ∧
        s.Copied aux top named foot s' := by
  have hread := h.read_apply statement htext
  exact ⟨hread, exists_copied (Template.located_of_read hread).1⟩

/-- Equals signs and at signs that belong to the labels stay there. Of the two nodes with one name the
later one gets it. -/
theorem read_decorated_and_copied_of_signs :
    let t := Tree.node "VP@" [.leaf "a=b", .leaf "=", .leaf "@"]
    let d : Decoration := ⟨fun path => if path = [] ∨ path = [0] then some "v" else none, some [2]⟩
    let text := "(VP@=v a=b=v = @@)"
    let aux : Template := ⟨t, [("v", []), ("v", [0])], some [2], text⟩
    d.Fits t ∧ text = (d.apply t).bracketed ∧ Template.read text "" true = .ok aux ∧
      ∀ s, ∃ top named foot s' n, (instantiate aux).runFrom s = (.ok (top, named, foot), s') ∧
        s'.forest.tree top = t ∧ s'.forest.follow? top [0] = some n ∧
        (s'.bindAll named).names.lookup "v" = some n := by
  intro t d text aux
  have hfits : d.Fits t := by
    refine ⟨fun s hs => ?_, fun address haddress => ?_⟩
    · have hv : Pattern.IsName "v" := ⟨by decide, Text.isWordChar_of_all_ascii (by decide)⟩
      have hwords : (t.labels.all fun l => l != "" && l.toList.all Tree.isWordPart) = true := by
        decide
      have hmem := Site.mem_preorder_top.mpr hs
      have hword : Tree.IsWord s.label := by
        have hlabel := List.mem_map_of_mem (f := Site.label) hmem
        have hlabel := List.all_eq_true.mp hwords _ (Tree.map_label_preorderFrom [] t ▸ hlabel)
        simpa [Tree.IsWord] using hlabel
      have hsites : (Site.top t).preorder = [⟨t, []⟩, ⟨.leaf "a=b", [(0, t)]⟩, ⟨.leaf "=", [(1, t)]⟩,
        ⟨.leaf "@", [(2, t)]⟩] := rfl
      simp only [hsites, List.mem_cons, List.not_mem_nil, or_false] at hmem
      rcases hmem with rfl | rfl | rfl | rfl
      · exact .of_named hword rfl hv (by decide)
      · exact .of_named hword rfl hv fun _ => rfl
      · exact .of_unnamed hword rfl (by decide) (by decide) fun _ => rfl
      · exact .of_unnamed hword rfl (by decide) (by decide) fun _ => rfl
    · obtain rfl := Option.some.inj haddress
      exact ⟨_, .child .top rfl, rfl⟩
  have htext : text = (d.apply t).bracketed := by decide
  obtain ⟨hread, hcopies⟩ := read_decorated_and_copied hfits "" (.inl htext)
  refine ⟨hfits, htext, hread, fun s => ?_⟩
  obtain ⟨top, named, foot, s', hrun, hcopied⟩ := hcopies s
  obtain ⟨n, hn, hname⟩ := hcopied.introduces.introduced "v" [0] rfl
  rw [State.forest_bindAll] at hn
  exact ⟨top, named, foot, s', n, hrun, hcopied.stands.tree_eq, hn, hname⟩

end Surgery

end Treebank
