import Treebank.Proofs.Statement.Replacement
import Treebank.Proofs.Surgery.Failures
import Treebank.Proofs.Tree.Substitution
import Treebank.Statement.Captures

/-!
# Statements as they are read

A statement that has been read is a checked one: the names and the foot of its literal tree are at
addresses of nodes of the tree, a foot at that of a leaf, and its replacement text fits its expression
but for the size of octal escapes.
-/

namespace Treebank

namespace Template

/-! ## Addresses -/

/-- The address goes on from a path, given in reverse, to a node of the tree there, below which there is
the second tree. -/
def Leads (path : List Nat) (t : Tree) (address : List Nat) (u : Tree) : Prop :=
  ∃ rest, address = path.reverse ++ rest ∧ t.get? rest = some u

variable {statement : String} {allowFoot : Bool} {path : List Nat} {marks : Marks}

theorem leads_self (path : List Nat) (t : Tree) : Leads path t path.reverse t :=
  ⟨[], by simp, by cases t; rfl⟩

theorem Leads.child {label : String} {ts : List Tree} {j : Nat} {u v : Tree} {address : List Nat}
    (hu : ts[j]? = some u) (h : Leads (j :: path) u address v) :
    Leads path (.node label ts) address v := by
  obtain ⟨rest, rfl, hrest⟩ := h
  refine ⟨j :: rest, by simp, ?_⟩
  rw [Tree.get?, Tree.children, hu]
  exact hrest

/-- A label gives no address but its own, and as that of a foot only if the node is a leaf. -/
theorem addresses_of_readLabel {isLeaf : Bool} {label plain : String}
    {names : List (String × List Nat)} {feet : List (List Nat)}
    (h : readLabel statement allowFoot path isLeaf label = .ok (plain, names, feet)) :
    (∀ e ∈ names, e.2 = path.reverse) ∧ ∀ a ∈ feet, a = path.reverse ∧ isLeaf = true := by
  simp only [readLabel] at h
  split at h
  · cases h
  · split at h
    · cases h
    · rename_i hleaf
      cases h
      constructor
      · intro e he
        obtain ⟨n, _, rfl⟩ := List.mem_map.mp he
        rfl
      · intro a ha
        split at ha
        · rename_i hfoot
          refine ⟨List.mem_singleton.mp ha, ?_⟩
          simpa [hfoot] using hleaf
        · cases ha

mutual
theorem leads_of_readMarks : (t : Tree) → {path : List Nat} → {marks : Marks} →
    readMarks statement allowFoot path t = .ok marks →
    ∃ u, marks.trees = [u] ∧ (∀ e ∈ marks.names, ∃ v, Leads path u e.2 v) ∧
      ∀ a ∈ marks.feet, ∃ l, Leads path u a (.leaf l)
  | .node l cs, path, marks, h => by
      rw [readMarks] at h
      obtain ⟨⟨label, names, feet⟩, hlabel, h⟩ := exists_of_bind_eq_ok h
      obtain ⟨below, hbelow, h⟩ := exists_of_bind_eq_ok h
      cases h
      obtain ⟨hnames, hfeet⟩ := addresses_of_readLabel hlabel
      obtain ⟨hbnames, hbfeet⟩ := leads_of_readAllMarks cs hbelow
      refine ⟨.node label below.trees, rfl, ?_, ?_⟩
      · intro e he
        rcases List.mem_append.mp he with he | he
        · rw [hnames e he]
          exact ⟨_, leads_self path _⟩
        · obtain ⟨j, u, v, hu, hleads⟩ := hbnames e he
          rw [Nat.zero_add] at hleads
          exact ⟨v, hleads.child hu⟩
      · intro a ha
        rcases List.mem_append.mp ha with ha | ha
        · obtain ⟨rfl, hleaf⟩ := hfeet a ha
          obtain rfl := List.isEmpty_iff.mp hleaf
          rw [readAllMarks] at hbelow
          cases hbelow
          exact ⟨label, leads_self path _⟩
        · obtain ⟨j, u, m, hu, hleads⟩ := hbfeet a ha
          rw [Nat.zero_add] at hleads
          exact ⟨m, hleads.child hu⟩
theorem leads_of_readAllMarks : (ts : List Tree) → {path : List Nat} → {i : Nat} →
    {marks : Marks} → readAllMarks statement allowFoot path i ts = .ok marks →
    (∀ e ∈ marks.names, ∃ j u v, marks.trees[j]? = some u ∧ Leads ((i + j) :: path) u e.2 v) ∧
      ∀ a ∈ marks.feet, ∃ j u l, marks.trees[j]? = some u ∧ Leads ((i + j) :: path) u a (.leaf l)
  | [], _, _, _, h => by
      rw [readAllMarks] at h
      cases h
      exact ⟨nofun, nofun⟩
  | t :: ts, path, i, marks, h => by
      rw [readAllMarks] at h
      obtain ⟨first, hfirst, h⟩ := exists_of_bind_eq_ok h
      obtain ⟨others, hothers, h⟩ := exists_of_bind_eq_ok h
      cases h
      obtain ⟨u, hu, hnames, hfeet⟩ := leads_of_readMarks t hfirst
      obtain ⟨honames, hofeet⟩ := leads_of_readAllMarks ts hothers
      have hlater : ∀ {j w a v}, others.trees[j]? = some w → Leads ((i + 1 + j) :: path) w a v →
          (first.trees ++ others.trees)[j + 1]? = some w ∧ Leads ((i + (j + 1)) :: path) w a v := by
        intro j w a v hw hleads
        rw [Nat.add_assoc, Nat.add_comm 1 j] at hleads
        exact ⟨by simpa [hu] using hw, hleads⟩
      have hhere : (first.trees ++ others.trees)[0]? = some u := by simp [hu]
      constructor
      · intro e he
        rcases List.mem_append.mp he with he | he
        · obtain ⟨v, hv⟩ := hnames e he
          exact ⟨0, u, v, hhere, hv⟩
        · obtain ⟨j, w, v, hw, hleads⟩ := honames e he
          exact ⟨j + 1, w, v, hlater hw hleads⟩
      · intro a ha
        rcases List.mem_append.mp ha with ha | ha
        · obtain ⟨l, hl⟩ := hfeet a ha
          exact ⟨0, u, l, hhere, hl⟩
        · obtain ⟨j, w, l, hw, hleads⟩ := hofeet a ha
          exact ⟨j + 1, w, l, hlater hw hleads⟩
end

/-- A literal tree that has been read is located, and it has a foot that is a leaf where there must be
one. -/
theorem located_of_read {text : String} {t : Template} (h : read text statement allowFoot = .ok t) :
    t.Located ∧ (allowFoot = true → ∃ v, t.FootAt v) := by
  rw [read] at h
  split at h
  · cases h
  · obtain ⟨marks, hmarks, h⟩ := exists_of_bind_eq_ok h
    obtain ⟨u, hu, hnames, hfeet⟩ := leads_of_readMarks _ hmarks
    split at h
    · cases h
    · rename_i hcount
      cases h
      have hfind : ∀ a v, Leads [] u a v → u.get? a = some v := by
        rintro a v ⟨rest, rfl, hrest⟩
        exact hrest
      refine ⟨⟨?_, ?_⟩, ?_⟩
      · intro e he
        obtain ⟨v, hv⟩ := hnames e he
        rw [hu]
        exact Option.isSome_of_eq_some (hfind _ v hv)
      · intro a ha
        obtain ⟨l, hl⟩ := hfeet a (List.mem_of_mem_head? ha)
        rw [hu]
        exact Option.isSome_of_eq_some (hfind a _ hl)
      · rintro rfl
        rw [Bool.true_and, bne_iff_ne, not_not] at hcount
        obtain ⟨a, ha⟩ := List.length_eq_one_iff.mp hcount
        obtain ⟨l, hl⟩ := hfeet a (ha ▸ List.mem_singleton_self a)
        obtain ⟨v, hv, haddress, htree⟩ := Site.In.exists_of_get? .top (hfind a _ hl)
        refine ⟨v, ?_, ?_, ?_⟩
        · rw [hu]
          exact hv
        · rw [haddress, ha]
          rfl
        · rw [htree, Tree.leaf, Tree.children]
  · cases h

end Template

/-! ## Statements -/

/-- The replacement text can be applied, unless there is an octal escape in it for too large a code. -/
def Relabeling.Settled : Relabeling → Prop
  | .literal _ => True
  | .substitution r replacement =>
    Regex.Settles (Regex.hasLargeOctal replacement.toList) (r.pieces replacement) fun _ => True

theorem Relabeling.Settled.grouped {change : Relabeling} (h : change.Settled) : change.Grouped := by
  cases change with
  | literal label => trivial
  | substitution r replacement =>
      intro name place hpieces
      rw [Settled, hpieces] at h
      obtain ⟨_, _, _, heq⟩ := h
      cases heq

namespace Statement

/-- The statement is a checked one, and a replacement text in it is settled. -/
def Applicable : Statement → Prop
  | relabel _ change => change.Settled
  | st => st.Checked

theorem Applicable.checked {st : Statement} (h : st.Applicable) : st.Checked := by
  cases st with
  | relabel name change => exact Relabeling.Settled.grouped h
  | _ => exact h

variable {statement token : String}

theorem located_of_readSource {source : Source} (h : readSource statement token = .ok source) :
    source.Located := by
  rw [readSource] at h
  split at h
  · obtain ⟨t, ht, rfl⟩ := exists_of_map_eq_ok h
    exact (Template.located_of_read ht).1
  · obtain ⟨name, _, rfl⟩ := exists_of_map_eq_ok h
    trivial

theorem settled_of_readSubstitution {change : Relabeling}
    (h : readSubstitution statement token = .ok change) : change.Settled := by
  rw [readSubstitution] at h
  split at h
  · rename_i pattern replacement hparts
    simp only at h
    split at h
    · cases h
    · cases h
    · rename_i r hr
      obtain ⟨_, hcheck, h⟩ := exists_of_bind_eq_ok h
      cases h
      rw [Relabeling.Settled, String.toList_ofList]
      exact settles_pieces (Regex.numbered_of_parse hr) hcheck
  · cases h

theorem settled_of_readRelabeling {change : Relabeling}
    (h : readRelabeling statement token = .ok change) : change.Settled := by
  rw [readRelabeling] at h
  split at h
  · exact settled_of_readSubstitution h
  · cases h
    trivial
  · cases h
  · cases h
    trivial

theorem applicable_relabel {name label : String} {st : Statement} (h : (do
    return relabel (← readName statement name) (← readRelabeling statement label)) = .ok st) :
    st.Applicable := by
  obtain ⟨name, _, h⟩ := exists_of_bind_eq_ok h
  obtain ⟨change, hchange, h⟩ := exists_of_bind_eq_ok h
  cases h
  exact settled_of_readRelabeling hchange

theorem applicable_of_readWords {keyword : String} {args : List String} {st : Statement}
    (h : readWords statement keyword args = .ok st) : st.Applicable := by
  unfold readWords at h
  split at h
  · obtain ⟨names, _, rfl⟩ := exists_of_map_eq_ok h
    trivial
  · obtain ⟨names, _, rfl⟩ := exists_of_map_eq_ok h
    trivial
  · obtain ⟨names, _, rfl⟩ := exists_of_map_eq_ok h
    trivial
  · obtain ⟨outer, _, h⟩ := exists_of_bind_eq_ok h
    obtain ⟨inner, _, h⟩ := exists_of_bind_eq_ok h
    cases h
    trivial
  · cases h
  · exact applicable_relabel h
  · cases h
  · exact applicable_relabel h
  · cases h
  · obtain ⟨source, hsource, h⟩ := exists_of_bind_eq_ok h
    obtain ⟨place, _, h⟩ := exists_of_bind_eq_ok h
    cases h
    exact located_of_readSource hsource
  · cases h
  · obtain ⟨name, _, h⟩ := exists_of_bind_eq_ok h
    obtain ⟨place, _, h⟩ := exists_of_bind_eq_ok h
    cases h
    trivial
  · cases h
  · obtain ⟨target, _, h⟩ := exists_of_bind_eq_ok h
    obtain ⟨source, hsource, h⟩ := exists_of_bind_eq_ok h
    cases h
    exact located_of_readSource hsource
  · cases h
  · split at h
    · cases h
    · obtain ⟨aux, haux, h⟩ := exists_of_bind_eq_ok h
      obtain ⟨name, _, h⟩ := exists_of_bind_eq_ok h
      cases h
      obtain ⟨hlocated, hfoot⟩ := Template.located_of_read haux
      obtain ⟨v, hv⟩ := hfoot rfl
      exact ⟨hlocated, Option.isSome_of_eq_some hv.foot_eq⟩
  · cases h
  · cases h

theorem applicable_of_read {text : String} {st : Statement} (h : read text = .ok st) :
    st.Applicable := by
  simp only [read] at h
  obtain ⟨words, _, h⟩ := exists_of_bind_eq_ok h
  split at h
  · cases h
  · exact applicable_of_readWords h

/-- A statement that has been read is a checked one. -/
theorem checked_of_read {text : String} {st : Statement} (h : read text = .ok st) :
    st.Checked := (applicable_of_read h).checked

end Statement

end Treebank
