import Mathlib.Data.List.Nodup
import Treebank.Proofs.Pattern.Proper
import Treebank.Proofs.Text.CutSet
import Treebank.Proofs.Tree.Legible
import Treebank.Statement.Template

/-!
# Decorated trees

In a literal tree what is added to the labels gives names to nodes and makes a leaf the foot. The reader
takes it off again and finds the tree that it has been added to, whatever equals signs and at signs
are in the labels, if no label without an addition looks as if it had one.
-/

namespace Treebank

open Text
open Pattern (IsName)

namespace Tree

/-- A tree without empty labels is read back as it was. -/
theorem reread_of_labels {t : Tree} (h : ∀ l ∈ t.labels, l ≠ "") : t.reread = t := by
  have hlabel {s : Site} (hs : Site.In t s) : s.label ≠ "" := by
    refine h _ ?_
    rw [← map_label_preorderFrom [] t]
    exact List.mem_map_of_mem (Site.mem_preorder_top.mpr hs)
  refine (reread_eq_iff_preorderFrom [] t).mpr fun s hs => ?_
  have hs := Site.mem_preorder_top.mp hs
  refine ⟨fun c hc _ => ?_, fun hempty => absurd hempty (hlabel hs)⟩
  obtain ⟨i, hi⟩ := List.mem_iff_getElem?.mp hc
  exact hlabel (.child hs hi)

end Tree

/-- Names for nodes of a tree, and a foot, given by the addresses of the nodes. -/
structure Decoration where
  name : List Nat → Option String
  foot : Option (List Nat)

namespace Decoration

variable {d : Decoration} {statement : String}

/-- The label of the node at an address: its name follows after an equals sign, and then an at sign if
it is the foot. -/
def mark (d : Decoration) (address : List Nat) (label : String) : String :=
  label ++ (d.name address).elim "" ("=" ++ ·) ++ if d.foot = some address then "@" else ""

mutual
/-- The tree with what the decoration adds to its labels, from a path in reverse on. -/
def markFrom (d : Decoration) (path : List Nat) : Tree → Tree
  | .node l cs => .node (d.mark path.reverse l) (markAllFrom d path 0 cs)
def markAllFrom (d : Decoration) (path : List Nat) (i : Nat) : List Tree → List Tree
  | [] => []
  | c :: cs => markFrom d (i :: path) c :: markAllFrom d path (i + 1) cs
end

/-- The tree with what the decoration adds to its labels. -/
def apply (d : Decoration) (t : Tree) : Tree := d.markFrom [] t

/-- The names of some nodes with their addresses. -/
def named (d : Decoration) (sites : List Site) : List (String × List Nat) :=
  sites.filterMap fun s => (d.name s.address).map (·, s.address)

/-- The addresses of those among some nodes that are the foot. -/
def feet (d : Decoration) (sites : List Site) : List (List Nat) :=
  (sites.map Site.address).filter fun address => d.foot = some address

/-- What the decoration adds to the label of the node can be taken off again: the label can stand in a
written tree, a name is one, and without an addition the label looks like none that has one. -/
structure ClearAt (d : Decoration) (s : Site) : Prop where
  isWord : Tree.IsWord s.label
  isName : ∀ name, d.name s.address = some name → IsName name
  unnamed : d.name s.address = none → ∀ x w, s.label = x ++ "=" ++ w → x ≠ "" → ¬IsName w
  no_foot : d.name s.address = none → d.foot ≠ some s.address →
    s.label.toList.getLast? = some '@' → s.label = "@"
  leaf : d.foot = some s.address → s.tree.children = []

/-- The decoration is clear at every node of the tree, and the foot is one of them. -/
structure Fits (d : Decoration) (t : Tree) : Prop where
  clear : ∀ s, Site.In t s → d.ClearAt s
  foot_in : ∀ address, d.foot = some address → ∃ s, Site.In t s ∧ s.address = address

/-- A name at the node makes clear what belongs to its label. -/
theorem ClearAt.of_named {s : Site} {name : String} (hword : Tree.IsWord s.label)
    (hname : d.name s.address = some name) (h : IsName name)
    (hleaf : d.foot = some s.address → s.tree.children = []) : d.ClearAt s := by
  refine ⟨hword, fun other hother => ?_, fun hnone => ?_, fun hnone => ?_, hleaf⟩
  · rw [hname, Option.some.injEq] at hother
    exact hother ▸ h
  · rw [hname] at hnone
    cases hnone
  · rw [hname] at hnone
    cases hnone

/-- Without a name a label is clear if it has no equals sign after its first character and no at sign at
its end. -/
theorem ClearAt.of_unnamed {s : Site} (hword : Tree.IsWord s.label) (hname : d.name s.address = none)
    (hequals : '=' ∉ s.label.toList.tail)
    (hat : s.label.toList.getLast? = some '@' → s.label = "@")
    (hleaf : d.foot = some s.address → s.tree.children = []) : d.ClearAt s := by
  refine ⟨hword, fun name h => ?_, fun _ x w hlabel hx => ?_, fun _ _ => hat, hleaf⟩
  · rw [hname] at h
    cases h
  · obtain ⟨c, cs, hcs⟩ := List.exists_cons_of_ne_nil (mt String.toList_eq_nil_iff.mp hx)
    rw [hlabel, String.toList_append, String.toList_append, hcs] at hequals
    simp at hequals

/-! ## Labels -/

theorem splitFoot_append {l : List Char} (h : l ≠ []) :
    Template.splitFoot (l ++ ['@']) = (l, true) := by
  have hlength : 0 < l.length := List.length_pos_iff.mpr h
  simp [Template.splitFoot, hlength]

theorem splitFoot_of_getLast? {l : List Char} (h : l.getLast? = some '@' → l = ['@']) :
    Template.splitFoot l = (l, false) := by
  rw [Template.splitFoot, if_neg]
  simp only [Bool.and_eq_true, beq_iff_eq, decide_eq_true_eq, not_and]
  intro hlast
  rw [h hlast]
  decide

theorem isWordPart_of_isWordChar {c : Char} (h : isWordChar c = true) :
    Tree.isWordPart c = true := by
  have hopening : c ≠ '(' := ne_of_isWordChar h (by decide) (by decide)
  have hclosing : c ≠ ')' := ne_of_isWordChar h (by decide) (by decide)
  simp [Tree.isWordPart, isBlank_of_isWordChar h, hopening, hclosing]

/-- The name after the last equals sign is taken off, as it has none in it. -/
theorem splitName_append {l name : List Char} (hl : l ≠ []) (hname : name ≠ [])
    (hword : ∀ c ∈ name, isWordChar c = true) :
    Template.splitName (l ++ '=' :: name) = (l, some name) := by
  have hsign : ∀ c ∈ name.reverse, (c != '=') = true := by
    intro c hc
    exact bne_iff_ne.mpr
      (ne_of_isWordChar (hword c (List.mem_reverse.mp hc)) (by decide) (by decide))
  have hreverse : (l ++ '=' :: name).reverse = name.reverse ++ '=' :: l.reverse := by simp
  have htake : (name.reverse ++ '=' :: l.reverse).takeWhile (· != '=') = name.reverse := by
    rw [List.takeWhile_append_of_pos hsign, List.takeWhile_cons_of_neg (by decide),
      List.append_nil]
  have hdrop : (name.reverse ++ '=' :: l.reverse).dropWhile (· != '=') = '=' :: l.reverse := by
    rw [List.dropWhile_append_of_pos hsign, List.dropWhile_cons_of_neg (by decide)]
  simpa [Template.splitName, hreverse, htake, hdrop, hl, hname] using hword

theorem splitName_of_plain {l : List Char}
    (h : ∀ x w, l = x ++ '=' :: w → x ≠ [] → w ≠ [] → ¬∀ c ∈ w, isWordChar c = true) :
    Template.splitName l = (l, none) := by
  rw [Template.splitName, if_neg]
  intro htest
  simp only [Bool.and_eq_true, Bool.not_eq_true', List.isEmpty_eq_false_iff, List.all_eq_true] at htest
  obtain ⟨⟨hbefore, hname⟩, hword⟩ := htest
  refine h _ _ ?_ hbefore hname hword
  have hsplit := List.takeWhile_append_dropWhile (p := (· != '=')) (l := l.reverse)
  have hhead := List.head?_dropWhile_not (· != '=') l.reverse
  cases hdrop : l.reverse.dropWhile (· != '=') with
  | nil =>
      rw [hdrop] at hbefore
      exact absurd rfl hbefore
  | cons c cs =>
      rw [hdrop] at hhead hsplit
      obtain rfl : c = '=' := by simpa using hhead
      have hreverse := congrArg List.reverse hsplit
      rw [List.reverse_append, List.reverse_reverse] at hreverse
      simpa using hreverse.symm

/-- What comes after the label for a name. -/
def suffix (d : Decoration) (address : List Nat) : List Char :=
  (d.name address).elim [] fun name => '=' :: name.toList

theorem toList_mark (d : Decoration) (address : List Nat) (label : String) :
    (d.mark address label).toList =
      label.toList ++ d.suffix address ++ if d.foot = some address then ['@'] else [] := by
  rw [mark, suffix, String.toList_append, String.toList_append]
  cases d.name address with
  | none => split <;> simp
  | some name => split <;> simp

section
variable {s : Site} (h : d.ClearAt s)
include h

theorem ClearAt.label_ne_nil : s.label.toList ≠ [] := by
  simpa using h.isWord.1

/-- The at sign of the foot is found, and no other. -/
theorem ClearAt.splitFoot_mark :
    Template.splitFoot (d.mark s.address s.label).toList =
      (s.label.toList ++ d.suffix s.address, decide (d.foot = some s.address)) := by
  rw [toList_mark]
  by_cases hfoot : d.foot = some s.address
  · rw [if_pos hfoot, decide_eq_true hfoot]
    exact splitFoot_append fun hnil => h.label_ne_nil (List.append_eq_nil_iff.mp hnil).1
  · rw [if_neg hfoot, decide_eq_false hfoot, List.append_nil]
    refine splitFoot_of_getLast? fun hlast => ?_
    cases hname : d.name s.address with
    | none =>
        rw [suffix, hname, Option.elim_none, List.append_nil] at hlast ⊢
        rw [h.no_foot hname hfoot hlast]
        rfl
    | some name =>
        -- the last character is one of the name
        obtain ⟨hne, hword⟩ := h.isName name hname
        have hne : name.toList ≠ [] := by simpa using hne
        rw [suffix, hname, Option.elim_some, List.getLast?_append_cons,
          List.getLast?_cons_of_ne_nil hne] at hlast
        have hsign := hword '@' (List.mem_of_getLast? hlast)
        exact absurd rfl (ne_of_isWordChar hsign (by decide) (by decide))

/-- The name is found, and no other. -/
theorem ClearAt.splitName_suffix :
    Template.splitName (s.label.toList ++ d.suffix s.address) =
      (s.label.toList, (d.name s.address).map String.toList) := by
  cases hname : d.name s.address with
  | none =>
      rw [suffix, hname, Option.elim_none, List.append_nil]
      refine splitName_of_plain fun x w hlabel hx hw hword => ?_
      refine h.unnamed hname (String.ofList x) (String.ofList w) ?_ ?_ ⟨?_, ?_⟩
      · rw [← String.toList_inj]
        simpa using hlabel
      · exact Pattern.ofList_ne_empty hx
      · exact Pattern.ofList_ne_empty hw
      · simpa using hword
  | some name =>
      obtain ⟨hne, hword⟩ := h.isName name hname
      rw [suffix, hname, Option.elim_some]
      exact splitName_append h.label_ne_nil (by simpa using hne) hword

/-- The label of a node tells what has been added to it. -/
theorem ClearAt.readLabel_mark (statement : String) :
    Template.readLabel statement d.foot.isSome s.steps s.tree.children.isEmpty
        (d.mark s.address s.label) =
      .ok (s.label, (d.name s.address).toList.map (·, s.address),
        if d.foot = some s.address then [s.address] else []) := by
  have haddress : s.steps.reverse = s.address := rfl
  have hnames (name : Option String) : (name.map String.toList).toList.map
      (fun n => (String.ofList n, s.address)) = name.toList.map (·, s.address) := by
    cases name <;> simp
  simp only [Template.readLabel, h.splitFoot_mark, h.splitName_suffix, haddress, hnames,
    String.ofList_toList]
  by_cases hfoot : d.foot = some s.address
  · simp [hfoot, h.leaf hfoot]
  · simp [hfoot]

/-- The label with what has been added to it can still stand in a written tree. -/
theorem ClearAt.isWord_mark : Tree.IsWord (d.mark s.address s.label) := by
  obtain ⟨hne, hpart⟩ := h.isWord
  have hsign : Tree.isWordPart '=' = true ∧ Tree.isWordPart '@' = true := ⟨rfl, rfl⟩
  refine ⟨fun hempty => ?_, ?_⟩
  · have hmark := congrArg String.toList hempty
    rw [toList_mark] at hmark
    exact h.label_ne_nil (List.append_eq_nil_iff.mp (List.append_eq_nil_iff.mp hmark).1).1
  · rw [toList_mark, List.forall_mem_append, List.forall_mem_append]
    refine ⟨⟨hpart, ?_⟩, ?_⟩
    · rw [suffix]
      cases hname : d.name s.address with
      | none => exact List.forall_mem_nil _
      | some name =>
          exact List.forall_mem_cons.mpr ⟨hsign.1, fun c hc =>
            isWordPart_of_isWordChar ((h.isName name hname).2 c hc)⟩
    · split
      · exact List.forall_mem_singleton.mpr hsign.2
      · exact List.forall_mem_nil _

end

/-! ## Trees -/

mutual
theorem labels_markFrom (d : Decoration) (above : List (Nat × Tree)) : (t : Tree) →
    (d.markFrom (above.map (·.1)) t).labels =
      (Site.preorderFrom above t).map fun s => d.mark s.address s.label
  | .node l cs => by
      rw [markFrom, Tree.labels, labelsOf_markAllFrom d above (.node l cs) 0 cs, Site.preorderFrom,
        List.map_cons]
      rfl
theorem labelsOf_markAllFrom (d : Decoration) (above : List (Nat × Tree)) (parent : Tree) (i : Nat) :
    (cs : List Tree) → Tree.labelsOf (d.markAllFrom (above.map (·.1)) i cs) =
      (Site.preorderFromAll above parent i cs).map fun s => d.mark s.address s.label
  | [] => rfl
  | c :: cs => by
      have hfirst := labels_markFrom d ((i, parent) :: above) c
      have hrest := labelsOf_markAllFrom d above parent (i + 1) cs
      rw [List.map_cons] at hfirst
      rw [markAllFrom, Tree.labelsOf, hfirst, hrest, Site.preorderFromAll, List.map_append]
end

theorem labels_apply (d : Decoration) (t : Tree) :
    (d.apply t).labels = (Site.top t).preorder.map fun s => d.mark s.address s.label :=
  labels_markFrom d [] t

/-- A decorated tree is read from its text on one line and from any indented one. -/
theorem Fits.readAll {t : Tree} {text : String} (h : d.Fits t)
    (htext : text = (d.apply t).bracketed ∨ ∃ column, text = (d.apply t).pretty column) :
    Tree.readAll text = .ok [d.apply t] := by
  have hwords : ∀ l ∈ (d.apply t).labels, Tree.IsWord l := by
    rw [labels_apply, List.forall_mem_map]
    exact fun s hs => (h.clear s (Site.mem_preorder_top.mp hs)).isWord_mark
  have hplain : Tree.Plain (d.apply t).labels := fun l hl => (hwords l hl).2
  have hreread := Tree.reread_of_labels fun l hl => (hwords l hl).1
  rcases htext with rfl | ⟨column, rfl⟩
  · rw [Tree.readAll_bracketed hplain, hreread]
  · let w : Tree.Written := ⟨d.apply t, some column, ""⟩
    have hplain : ∀ v ∈ [w], Tree.Plain v.tree.labels := List.forall_mem_singleton.mpr hplain
    have hread := Tree.readAll_written hplain (by simp [w])
    simpa [w, Tree.Written.text, hreread] using hread

theorem isEmpty_markAllFrom (d : Decoration) (path : List Nat) (i : Nat) (cs : List Tree) :
    (d.markAllFrom path i cs).isEmpty = cs.isEmpty := by
  cases cs with
  | nil => rfl
  | cons c cs => rfl

theorem named_cons (s : Site) (sites : List Site) :
    d.named (s :: sites) = (d.name s.address).toList.map (·, s.address) ++ d.named sites := by
  rw [named, named, List.filterMap_cons]
  cases d.name s.address <;> rfl

theorem named_append (xs ys : List Site) : d.named (xs ++ ys) = d.named xs ++ d.named ys :=
  List.filterMap_append ..

theorem feet_cons (s : Site) (sites : List Site) : d.feet (s :: sites) =
    (if d.foot = some s.address then [s.address] else []) ++ d.feet sites := by
  rw [feet, feet, List.map_cons, List.filter_cons]
  by_cases hfoot : d.foot = some s.address <;> simp [hfoot]

theorem feet_append (xs ys : List Site) : d.feet (xs ++ ys) = d.feet xs ++ d.feet ys := by
  rw [feet, List.map_append, List.filter_append]
  rfl

mutual
/-- What the labels below a node tell is what has been added to them. -/
theorem readMarks_markFrom (statement : String) (above : List (Nat × Tree)) : (t : Tree) →
    (∀ s ∈ Site.preorderFrom above t, d.ClearAt s) →
    Template.readMarks statement d.foot.isSome (above.map (·.1)) (d.markFrom (above.map (·.1)) t) =
      .ok ⟨[t], d.named (Site.preorderFrom above t), d.feet (Site.preorderFrom above t)⟩
  | .node l cs, h => by
      rw [Site.preorderFrom] at h ⊢
      obtain ⟨hnode, hbelow⟩ := List.forall_mem_cons.mp h
      have hlabel := hnode.readLabel_mark statement
      have hall := readAllMarks_markAllFrom statement above (.node l cs) 0 cs hbelow
      rw [markFrom, Template.readMarks, isEmpty_markAllFrom, hall, named_cons, feet_cons]
      have hlabel : Template.readLabel statement d.foot.isSome (above.map (·.1)) cs.isEmpty
        (d.mark (above.map (·.1)).reverse l) = _ := hlabel
      rw [hlabel]
      rfl
theorem readAllMarks_markAllFrom (statement : String) (above : List (Nat × Tree)) (parent : Tree)
    (i : Nat) : (cs : List Tree) → (∀ s ∈ Site.preorderFromAll above parent i cs, d.ClearAt s) →
    Template.readAllMarks statement d.foot.isSome (above.map (·.1)) i
        (d.markAllFrom (above.map (·.1)) i cs) =
      .ok ⟨cs, d.named (Site.preorderFromAll above parent i cs),
        d.feet (Site.preorderFromAll above parent i cs)⟩
  | [], _ => rfl
  | c :: cs, h => by
      rw [Site.preorderFromAll] at h ⊢
      obtain ⟨hc, hcs⟩ := List.forall_mem_append.mp h
      have hfirst := readMarks_markFrom statement ((i, parent) :: above) c hc
      have hothers := readAllMarks_markAllFrom statement above parent (i + 1) cs hcs
      rw [List.map_cons] at hfirst
      rw [markAllFrom, Template.readAllMarks, hfirst, hothers, named_append, feet_append]
      rfl
end

/-- The foot is found once. -/
theorem Fits.feet_preorder {t : Tree} (h : d.Fits t) :
    d.feet (Site.top t).preorder = d.foot.toList := by
  have hnodup : ((Site.top t).preorder.map Site.address).Nodup := by
    refine List.Nodup.map_on (fun s hs u hu haddress => ?_) (Site.nodup_preorder _)
    exact (Site.mem_preorder_top.mp hs).eq_of_steps (Site.mem_preorder_top.mp hu)
      (List.reverse_injective haddress)
  rw [feet]
  cases hfoot : d.foot with
  | none => simp
  | some address =>
      obtain ⟨s, hs, rfl⟩ := h.foot_in address hfoot
      have hmem := List.mem_map_of_mem (f := Site.address) (Site.mem_preorder_top.mpr hs)
      have hsame : (fun a => decide (some s.address = some a)) = (· == s.address) := by
        funext a
        rw [Bool.eq_iff_iff, decide_eq_true_iff, beq_iff_eq, Option.some.injEq, eq_comm]
      rw [hsame, List.filter_beq, List.count_eq_one_of_mem hnodup hmem]
      rfl

/-- A decorated tree is read as the plain tree, with the names and the foot. -/
theorem Fits.read_apply {t : Tree} {text : String} (h : d.Fits t) (statement : String)
    (htext : text = (d.apply t).bracketed ∨ ∃ column, text = (d.apply t).pretty column) :
    Template.read text statement d.foot.isSome =
      .ok ⟨t, d.named (Site.top t).preorder, d.foot, text⟩ := by
  have hmarks : Template.readMarks statement d.foot.isSome [] (d.apply t) =
      .ok ⟨[t], d.named (Site.top t).preorder, d.feet (Site.top t).preorder⟩ :=
    readMarks_markFrom statement [] t fun s hs => h.clear s (Site.mem_preorder_top.mp hs)
  have hcount : (d.foot.isSome && d.foot.toList.length != 1) = false := by
    cases d.foot <;> rfl
  rw [h.feet_preorder] at hmarks
  rw [Template.read, h.readAll htext]
  simp only [hmarks, Except.bind, bind, hcount]
  cases d.foot <;> rfl

end Decoration

end Treebank
