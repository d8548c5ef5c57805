import Treebank.Forest
import Treebank.Proofs.Tree.Reader
import Treebank.Tree.Bracketed

/-!
# The tokens of written trees

The indented form of a tree has the same tokens as the form on one line. Where the labels can stand as
words, these are the brackets and the labels, in preorder.
-/

namespace Treebank.Tree

open Token (Same ofLabel Delimited)

/-! ## One line and indented lines -/

/-- Between brackets, a label and what is below it have a blank between them. -/
theorem same_enclose (l : String) (inside : List Char) :
    Same (enclose l inside) ('(' :: l.toList ++ ' ' :: inside ++ [')']) := by
  rw [enclose]
  split
  · rename_i hnil
    rw [List.isEmpty_iff.mp hnil]
    have hblank := (Same.refl ('(' :: l.toList)).append Token.same_closing.symm
    simpa using hblank
  · exact Same.refl _

/-- Nodes below another one with a blank before each of them. -/
def spellBelow (cs : List Tree) : List Char := cs.flatMap fun c => ' ' :: spellInner c

theorem spellBelow_cons (c : Tree) (cs : List Tree) :
    spellBelow (c :: cs) = ' ' :: spellInners (c :: cs) := by
  induction cs generalizing c with
  | nil => simp [spellBelow, spellInners]
  | cons d ds ih =>
      have hds := ih d
      simp only [spellBelow, List.flatMap_cons] at hds ⊢
      rw [hds, spellInners, List.cons_append]

theorem spellAt_of_ne_nil (top : Bool) (l : String) {cs : List Tree} (h : cs ≠ []) :
    Same ((node l cs).spellAt top) ('(' :: l.toList ++ spellBelow cs ++ [')']) := by
  cases cs with
  | nil => exact absurd rfl h
  | cons c cs =>
      have hspell : (node l (c :: cs)).spellAt top = enclose l (spellInners (c :: cs)) := by
        cases top <;> simp [spellAt, spell, spellInner]
      rw [hspell, spellBelow_cons]
      simpa using same_enclose l (spellInners (c :: cs))

mutual
theorem same_layout (top : Bool) (indent : Int) :
    (t : Tree) → Same (t.layout top indent) (t.spellAt top)
  | node l cs => by
      rw [layout]
      split
      · exact Same.refl _
      · rename_i hcompact
        have hsome : cs ≠ [] := by
          rintro rfl
          exact hcompact rfl
        refine Same.trans ?_ (spellAt_of_ne_nil top l hsome).symm
        exact ((Same.refl _).append (same_layouts (indent + 2) cs)).append (Same.refl _)
theorem same_layouts (indent : Int) : (cs : List Tree) → Same (layouts indent cs) (spellBelow cs)
  | [] => Same.refl _
  | c :: cs => by
      have hline : Same ('\n' :: List.replicate indent.toNat ' ') [' '] :=
        Token.same_blanks rfl rfl fun e he => by rw [(List.mem_replicate.mp he).2]; rfl
      exact (hline.append (same_layout false indent c)).append (same_layouts indent cs)
end

/-- The indented form of a tree has the same tokens as the form on one line. -/
theorem same_pretty (t : Tree) (indent : Int) :
    Same (t.pretty indent).toList t.bracketed.toList := by
  rw [pretty, bracketed, String.toList_ofList, String.toList_ofList]
  exact same_layout true indent t

/-! ## Both forms are read alike -/

/-- The texts have the same tokens, and what is read of one is read of the other: the same trees up to
the same fault. -/
structure ReadAlike (text text' : String) : Prop where
  scan_eq : Token.scan text.toList = Token.scan text'.toList
  readPrefix_eq : readPrefix text = readPrefix text'
  readAll_eq : readAll text = readAll text'
  read_eq : read text = read text'

theorem readAlike_of_same {text text' : String} (h : Same text.toList text'.toList) :
    ReadAlike text text' := by
  have hscan : Token.scan text.toList = Token.scan text'.toList := by
    have hwhole := h [] []
    rwa [List.append_nil, List.append_nil] at hwhole
  have hprefix : readPrefix text = readPrefix text' := by rw [readPrefix, readPrefix, hscan]
  have hall : readAll text = readAll text' := by rw [readAll, readAll, hprefix]
  exact ⟨hscan, hprefix, hall, by rw [read, read, hall]⟩

/-- The forms of a node stand for each other wherever the node is in its tree. -/
theorem same_prettyNode (f : Forest) (n : NodeId) (indent : Int) :
    Same (f.pretty n indent).toList (f.bracketed n).toList := by
  rw [Forest.pretty, Forest.bracketed, String.toList_ofList, String.toList_ofList]
  exact same_layout _ indent (f.tree n)

/-- The two forms of a tree are the same tree to the reader, whatever its labels are, and whether the
tree is one by itself or a node somewhere in another. -/
theorem written_forms_read_alike (indent : Int) :
    (∀ t : Tree, ReadAlike (t.pretty indent) t.bracketed) ∧
    ∀ (f : Forest) (n : NodeId), ReadAlike (f.pretty n indent) (f.bracketed n) :=
  ⟨fun t => readAlike_of_same (same_pretty t indent),
    fun f n => readAlike_of_same (same_prettyNode f n indent)⟩

/-! ## Labels as words -/

/-- No label holds a bracket or a blank. -/
def Plain (ls : List String) : Prop := ∀ l ∈ ls, ∀ c ∈ l.toList, isWordPart c = true

theorem plain_append {ls ms : List String} : Plain (ls ++ ms) ↔ Plain ls ∧ Plain ms :=
  List.forall_mem_append

theorem plain_cons {l : String} {ls : List String} :
    Plain (l :: ls) ↔ (∀ c ∈ l.toList, isWordPart c = true) ∧ Plain ls := List.forall_mem_cons

mutual
/-- The tokens of a node below another one: a leaf is its label. -/
def tokensBelow : Tree → List Token
  | node l [] => ofLabel l
  | node l (c :: cs) => .opening :: ofLabel l ++ tokensBelowAll (c :: cs) ++ [.closing]
def tokensBelowAll : List Tree → List Token
  | [] => []
  | c :: cs => tokensBelow c ++ tokensBelowAll cs
end

/-- The tokens of a topmost node. -/
def tokens : Tree → List Token
  | node l cs => .opening :: ofLabel l ++ tokensBelowAll cs ++ [.closing]

theorem scan_enclose {l : String} (hl : ∀ c ∈ l.toList, isWordPart c = true) {inside : List Char}
    {ts : List Token} (hinside : ∀ rest, Delimited rest →
      Token.scanFrom [] (inside ++ rest) = ts ++ Token.scanFrom [] rest) (rest : List Char) :
    Token.scanFrom [] (enclose l inside ++ rest) =
      (.opening :: ofLabel l ++ ts ++ [.closing]) ++ Token.scanFrom [] rest := by
  have hclosing : Token.scanFrom [] (')' :: rest) = .closing :: Token.scanFrom [] rest := rfl
  calc Token.scanFrom [] (enclose l inside ++ rest)
    _ = Token.scanFrom [] ('(' :: (l.toList ++ ' ' :: (inside ++ ')' :: rest))) := by
        rw [same_enclose l inside [] rest]
        simp
    _ = .opening :: (ofLabel l ++ Token.scanFrom [] (' ' :: (inside ++ ')' :: rest))) :=
        congrArg _ (Token.scanFrom_label hl (Token.delimited_cons rfl))
    _ = .opening :: (ofLabel l ++ (ts ++ .closing :: Token.scanFrom [] rest)) := by
        rw [Token.scanFrom_blank rfl, Token.flush_nil, hinside _ (Token.delimited_cons rfl),
          hclosing]
    _ = (.opening :: ofLabel l ++ ts ++ [.closing]) ++ Token.scanFrom [] rest := by simp

mutual
theorem scan_spellInner : (t : Tree) → Plain t.labels → (rest : List Char) → Delimited rest →
    Token.scanFrom [] (t.spellInner ++ rest) = t.tokensBelow ++ Token.scanFrom [] rest
  | node l [], h, rest, hrest => Token.scanFrom_label (plain_cons.mp h).1 hrest
  | node l (c :: cs), h, rest, hrest => by
      obtain ⟨hl, hcs⟩ := plain_cons.mp h
      exact scan_enclose hl (scan_spellInners (c :: cs) hcs) rest
theorem scan_spellInners : (cs : List Tree) → Plain (labelsOf cs) → (rest : List Char) →
    Delimited rest →
    Token.scanFrom [] (spellInners cs ++ rest) = tokensBelowAll cs ++ Token.scanFrom [] rest
  | [], _, _, _ => rfl
  | [c], h, rest, hrest => by
      rw [labelsOf, plain_append] at h
      rw [spellInners, scan_spellInner c h.1 rest hrest, tokensBelowAll, tokensBelowAll,
        List.append_nil]
  | c :: d :: ds, h, rest, hrest => by
      rw [labelsOf, plain_append] at h
      have hds := scan_spellInners (d :: ds) h.2 rest hrest
      have hsplit : tokensBelowAll (c :: d :: ds) = c.tokensBelow ++ tokensBelowAll (d :: ds) := rfl
      rw [spellInners, List.append_assoc, List.cons_append,
        scan_spellInner c h.1 _ (Token.delimited_cons rfl), Token.scanFrom_blank rfl,
        Token.flush_nil, hds, hsplit, List.append_assoc]
end

/-- The tokens of a tree on one line. -/
theorem scan_spell {t : Tree} (h : Plain t.labels) (rest : List Char) :
    Token.scanFrom [] (t.spell ++ rest) = t.tokens ++ Token.scanFrom [] rest := by
  obtain ⟨l, cs⟩ := t
  obtain ⟨hl, hcs⟩ := plain_cons.mp h
  have hspell : (node l cs).spell = enclose l (spellInners cs) := by
    cases cs with
    | nil => rfl
    | cons c cs => simp [spell, spellInner]
  rw [hspell]
  exact scan_enclose hl (scan_spellInners cs hcs) rest

end Treebank.Tree
