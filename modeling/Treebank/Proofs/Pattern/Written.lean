import Treebank.Proofs.Pattern.Scanning

/-!
# Written patterns and their words

The words of a pattern are those of the text that writes it: each of them is taken off the text before
what comes after it. So the text of a proper pattern is split into its words, if its labels can stand
without quotes.
-/

namespace Treebank

open Pattern
open Text

/-! ## Words of patterns -/

def LabelAtom.words : LabelAtom → List Word
  | any => [.plain .label "__"]
  | literal l => [.plain .label l]
  | regex r => [.plain .regex r.source]
  | category name => [.plain .at "@", .plain .label name]

def Description.words (d : Description) : List Word :=
  (if d.negated then [.plain .bang "!"] else [])
    ++ List.intercalate [.joiner] (d.atoms.map LabelAtom.words)

/-- The words of the beginning of a node pattern. -/
def headWords (label : Option Description) (name : Option String) : List Word :=
  (match label with
    | none => []
    | some d => d.words)
  ++ match name with
    | none => []
    | some n => [.plain .name n]

/-- The word of a relation to or from a child by its number. -/
def numberWord (down : Bool) (index : Option Int) : Word :=
  let digits := Relation.indexText index
  .plain (.numbered down digits) (String.ofList ((if down then '<' else '>') :: digits.toList))

def Relation.words : Relation → List Word
  | ithChild index => [numberWord true index]
  | ithChildOf index => [numberWord false index]
  | dominatesVia d =>
    .plain (.sign .down) "<+" :: .plain .leftParen "(" :: (d.words ++ [.plain .rightParen ")"])
  | dominatedByVia d =>
    .plain (.sign .up) ">+" :: .plain .leftParen "(" :: (d.words ++ [.plain .rightParen ")"])
  | r => [.plain (.sign (.plain r)) r.sign]

mutual
def NodePattern.words : NodePattern → List Word
  | .node label name none => headWords label name
  | .node label name (some c) => headWords label name ++ c.words
/-- The words of the partner in a relation. -/
def NodePattern.partnerWords : NodePattern → List Word
  | .node label name none => headWords label name
  | .node label name (some c) =>
    .plain .leftParen "(" :: (headWords label name ++ (c.words ++ [.plain .rightParen ")"]))
def Constraint.words : Constraint → List Word
  | .rel r partner => r.words ++ partner.partnerWords
  | .all items => (Constraint.groupedWordsOf items).flatten
  | .choice items => List.intercalate [.plain .pipe "|"] (Constraint.groupedWordsOf items)
  | .not item => .plain .bang "!" :: item.groupedWords
  | .maybe item => .plain .question "?" :: item.groupedWords
/-- The words of a constraint as a part of another one. -/
def Constraint.groupedWords : Constraint → List Word
  | .rel r partner => r.words ++ partner.partnerWords
  | .all items =>
    .plain .leftBracket "["
      :: ((Constraint.groupedWordsOf items).flatten ++ [.plain .rightBracket "]"])
  | .choice items =>
    .plain .leftBracket "["
      :: (List.intercalate [.plain .pipe "|"] (Constraint.groupedWordsOf items)
        ++ [.plain .rightBracket "]"])
  | .not item => .plain .bang "!" :: item.groupedWords
  | .maybe item => .plain .question "?" :: item.groupedWords
def Constraint.groupedWordsOf : List Constraint → List (List Word)
  | [] => []
  | c :: cs => c.groupedWords :: Constraint.groupedWordsOf cs
end

/-! ## Labels of patterns -/

/-- The label that a condition names as it is. -/
def LabelAtom.literal? : LabelAtom → Option String
  | literal l => some l
  | _ => none

def Description.literals (d : Description) : List String := d.atoms.filterMap LabelAtom.literal?

def Relation.literals : Relation → List String
  | dominatesVia d => d.literals
  | dominatedByVia d => d.literals
  | _ => []

/-- The labels in the description of a node. -/
def labelLiterals : Option Description → List String
  | none => []
  | some d => d.literals

mutual
/-- The labels that a pattern names as they are, those in relations included. -/
def NodePattern.literals : NodePattern → List String
  | .node label _ none => labelLiterals label
  | .node label _ (some c) => labelLiterals label ++ c.literals
def Constraint.literals : Constraint → List String
  | .rel r partner => r.literals ++ partner.literals
  | .all items => Constraint.literalsOf items
  | .choice items => Constraint.literalsOf items
  | .not item => item.literals
  | .maybe item => item.literals
def Constraint.literalsOf : List Constraint → List String
  | [] => []
  | c :: cs => c.literals ++ Constraint.literalsOf cs
end

/-- The labels can stand without quotes, and none of them describes every label. -/
def AllBare (ls : List String) : Prop := ∀ l ∈ ls, IsLabel l ∧ l ≠ "__"

theorem AllBare.of_append {ls ms : List String} (h : AllBare (ls ++ ms)) :
    AllBare ls ∧ AllBare ms :=
  List.forall_mem_append.mp h

/-- If the condition names a label, it can stand without quotes. -/
def LabelAtom.Bare (a : LabelAtom) : Prop := ∀ l, a.literal? = some l → IsLabel l ∧ l ≠ "__"

theorem AllBare.atoms {d : Description} (h : AllBare d.literals) : ∀ a ∈ d.atoms, a.Bare :=
  fun a ha l hl => h l (List.mem_filterMap.mpr ⟨a, ha, hl⟩)

/-! ## Descriptions -/

variable {spaced : Bool} {cs : List Char} {ws : List Word}

theorem LabelAtom.scans {a : LabelAtom} (ha : a.Proper) (hl : a.Bare) (hcs : Ends cs)
    (h : Scans false cs ws) : Scans spaced (a.spell ++ cs) (a.words ++ ws) := by
  cases a with
  | any =>
      have hany : IsLabel "__" := by decide
      exact scans_label hany hcs h
  | literal l => exact scans_label (hl l rfl).1 hcs h
  | regex r =>
      rw [spell, List.cons_append, List.cons_append, List.append_assoc]
      exact scans_regex ha.2 h
  | category name => exact scans_at (scans_label ha hcs h)

/-- What a condition is written with begins with no blank. -/
theorem LabelAtom.exists_cons {a : LabelAtom} (hl : a.Bare) :
    ∃ c more, a.spell = c :: more ∧ isBlank c = false := by
  cases a with
  | any => exact ⟨'_', _, rfl, rfl⟩
  | literal l =>
      obtain ⟨hne, hbare⟩ := (hl l rfl).1
      cases hlist : l.toList with
      | nil => exact absurd (String.toList_eq_nil_iff.mp hlist) hne
      | cons c more =>
          have hc := hbare c (hlist ▸ .head _)
          simp only [isBare, Bool.and_eq_true, Bool.not_eq_true'] at hc
          exact ⟨c, more, hlist, hc.1⟩
  | regex r => exact ⟨'/', _, rfl, rfl⟩
  | category name => exact ⟨'@', _, rfl, rfl⟩

theorem intercalate_cons {α : Type} (sep l : List α) (ls : List (List α)) :
    List.intercalate sep (l :: ls) = l ++ (ls.map (sep ++ ·)).flatten := by
  induction ls generalizing l with
  | nil => simp
  | cons m ls ih => simp [List.intercalate_cons_cons, ih]

theorem scans_atoms : (as : List LabelAtom) → as ≠ [] → (∀ a ∈ as, a.Proper) →
    (∀ a ∈ as, a.Bare) → Ends cs → Scans false cs ws → {spaced : Bool} →
    Scans spaced (List.intercalate ['|'] (as.map LabelAtom.spell) ++ cs)
      (List.intercalate [.joiner] (as.map LabelAtom.words) ++ ws)
  | [], hne, _, _, _, _, _ => absurd rfl hne
  | [a], _, has, hl, hcs, h, spaced => by
      simp only [List.map_cons, List.map_nil, List.intercalate_singleton]
      exact LabelAtom.scans (has a (.head _)) (hl a (.head _)) hcs h
  | a :: b :: as, _, has, hl, hcs, h, spaced => by
      obtain ⟨ha, has⟩ := List.forall_mem_cons.mp has
      obtain ⟨hla, hl⟩ := List.forall_mem_cons.mp hl
      have hrest : Scans false _ _ := scans_atoms (b :: as) (by simp) has hl hcs h
      obtain ⟨c, more, hspell, hblank⟩ := LabelAtom.exists_cons (hl b (.head _))
      simp only [List.map_cons, List.intercalate_cons_cons, List.append_assoc,
        List.singleton_append] at hrest ⊢
      refine LabelAtom.scans ha hla (ends_cons (by simp)) ?_
      rw [intercalate_cons ['|'], hspell, List.cons_append, List.cons_append] at hrest ⊢
      exact scans_joiner hblank hrest

theorem Description.scans {d : Description} (hd : d.Proper) (hl : AllBare d.literals)
    (hcs : Ends cs) (h : Scans false cs ws) : Scans spaced (d.spell ++ cs) (d.words ++ ws) := by
  have hatoms {spaced : Bool} : Scans spaced _ _ :=
    scans_atoms d.atoms hd.nonempty hd.atoms hl.atoms hcs h
  rw [spell, words]
  cases d.negated with
  | false => exact hatoms
  | true => exact scans_char rfl rfl nofun hatoms

theorem toList_text (d : Description) : d.text.toList = d.spell := String.toList_ofList

theorem scans_head {label : Option Description} {name : Option String} (hhead : IsHead label name)
    (hl : AllBare (labelLiterals label)) (hcs : Ends cs) (h : Scans false cs ws) :
    Scans spaced ((headText label name).toList ++ cs) (headWords label name ++ ws) := by
  have hname {n : String} (hn : name = some n) {spaced : Bool} :
      Scans spaced ('=' :: (n.toList ++ cs)) (.plain .name n :: ws) :=
    scans_name (hhead.name n hn) hcs h
  cases label with
  | none =>
      cases name with
      | none => exact absurd rfl (hhead.present rfl)
      | some n => simpa [headText, headWords] using hname rfl
  | some d =>
      have hd := hhead.label d rfl
      cases name with
      | none => simpa [headText, headWords, toList_text] using Description.scans hd hl hcs h
      | some n =>
          have hscans : Scans spaced _ _ :=
            Description.scans hd hl (ends_cons (by simp)) (hname rfl)
          simpa [headText, headWords, toList_text] using hscans

/-! ## Relations -/

theorem scans_via {s : String} {sign : RelationSign} {d : Description}
    (hs : (s, sign) ∈ RelationSign.all) (hd : d.Proper) (hl : AllBare d.literals)
    (h : Scans false (' ' :: cs) ws) :
    Scans spaced ((s ++ "(" ++ d.text ++ ")").toList ++ ' ' :: cs)
      (.plain (.sign sign) s :: .plain .leftParen "(" :: (d.words ++ [.plain .rightParen ")"])
        ++ ws) := by
  have hclosing : Scans false (')' :: ' ' :: cs) (.plain .rightParen ")" :: ws) :=
    scans_char rfl rfl nofun h
  have hdescription : Scans false _ _ := Description.scans hd hl (ends_cons (by simp)) hclosing
  have hopening : Scans false ('(' :: (d.spell ++ ')' :: ' ' :: cs)) (.plain .leftParen "(" :: _) :=
    scans_char rfl rfl nofun hdescription
  have hsign : Scans spaced _ _ := scans_sign hs (.inr rfl) hopening
  simpa [toList_text] using hsign

theorem Relation.scans {r : Relation} (hr : r.Proper) (hl : AllBare r.literals)
    (h : Scans false (' ' :: cs) ws) :
    Scans spaced (r.text.toList ++ ' ' :: cs) (r.words ++ ws) := by
  cases r with
  | ithChild index =>
      obtain ⟨i, rfl, _, hi⟩ := hr
      have hscans : Scans spaced _ _ := scans_number true hi h
      simpa [text, sign, indexText, words, numberWord] using hscans
  | ithChildOf index =>
      obtain ⟨i, rfl, _, hi⟩ := hr
      have hscans : Scans spaced _ _ := scans_number false hi h
      simpa [text, sign, indexText, words, numberWord] using hscans
  | dominatesVia d =>
      have hsign : ("<+", RelationSign.down) ∈ RelationSign.all := by decide
      exact scans_via hsign hr hl h
  | dominatedByVia d =>
      have hsign : (">+", RelationSign.up) ∈ RelationSign.all := by decide
      exact scans_via hsign hr hl h
  | _ => exact scans_sign (by decide) (.inl rfl) h

/-! ## Nodes and constraints -/

theorem scans_related {r : Relation} {partner : String} {partnerWords : List Word}
    (hr : r.Proper) (hl : AllBare r.literals)
    (hpartner : Scans true (partner.toList ++ cs) (partnerWords ++ ws)) :
    Scans spaced ((r.text ++ " " ++ partner).toList ++ cs) ((r.words ++ partnerWords) ++ ws) := by
  have hblank : Scans false (' ' :: (partner.toList ++ cs)) (partnerWords ++ ws) :=
    scans_blank rfl hpartner
  have hscans : Scans spaced _ _ := Relation.scans hr hl hblank
  simpa using hscans

theorem scans_prefixed {form : Form} {s t : String} {inner : List Word} (c : Char)
    (hform : bracketForm? c = some form) (hs : s.toList = [c]) (hbar : form ≠ .pipe)
    (h : Scans false (t.toList ++ cs) (inner ++ ws)) :
    Scans spaced ((s ++ t).toList ++ cs) (.plain form s :: inner ++ ws) := by
  have hscans : Scans spaced _ _ := scans_char hform hs (fun h => absurd h hbar) h
  simpa [hs] using hscans

theorem scans_bracketed {s : String} {inner : List Word}
    (h : Scans false (s.toList ++ ']' :: cs) (inner ++ .plain .rightBracket "]" :: ws)) :
    Scans spaced ((bracketText s).toList ++ cs)
      (.plain .leftBracket "[" :: (inner ++ [.plain .rightBracket "]"]) ++ ws) := by
  have hopening : Scans spaced ('[' :: (s.toList ++ ']' :: cs)) (.plain .leftBracket "[" :: _) :=
    scans_char rfl rfl nofun h
  simpa [bracketText] using hopening

theorem scans_closingBracket (h : Scans false cs ws) :
    Scans false (']' :: cs) (.plain .rightBracket "]" :: ws) :=
  scans_char rfl rfl nofun h

/-! What comes after a part is known to be split into its words. The part is put before it from its end
to its beginning. -/

mutual
theorem NodePattern.scans_partner : (p : NodePattern) → {spaced : Bool} → {cs : List Char} →
    {ws : List Word} → p.Proper → AllBare p.literals → Ends cs → Scans false cs ws →
    Scans spaced (p.partnerText.toList ++ cs) (p.partnerWords ++ ws)
  | .node label name none, _, _, _, hp, hl, hcs, h => scans_head hp hl hcs h
  | .node label name (some c), spaced, cs, ws, hp, hl, hcs, h => by
      have hclosing : Scans false (')' :: cs) (.plain .rightParen ")" :: ws) :=
        scans_char rfl rfl nofun h
      have hc : Scans true _ _ := c.scans_text hp.2 hl.of_append.2 (ends_cons (by simp)) hclosing
      have hblank : Scans false (' ' :: _) _ := scans_blank rfl hc
      have hhead : Scans false _ _ := scans_head hp.1 hl.of_append.1 (ends_cons (by simp)) hblank
      have hopening : Scans spaced ('(' :: _) (.plain .leftParen "(" :: _) :=
        scans_char rfl rfl nofun hhead
      simpa [NodePattern.partnerText, NodePattern.partnerWords] using hopening
theorem Constraint.scans_text : (c : Constraint) → {spaced : Bool} → {cs : List Char} →
    {ws : List Word} → c.Proper → AllBare c.literals → Ends cs → Scans false cs ws →
    Scans spaced (c.text.toList ++ cs) (c.words ++ ws)
  | .rel _ partner, _, _, _, hc, hl, hcs, h =>
      scans_related hc.1 hl.of_append.1 (partner.scans_partner hc.2 hl.of_append.2 hcs h)
  | .all items, _, _, _, hc, hl, hcs, h =>
      Constraint.scans_all items (Nat.lt_of_succ_lt hc.1) hc.2 hl hcs h
  | .choice items, _, _, _, hc, hl, hcs, h =>
      Constraint.scans_choice items (Nat.lt_of_succ_lt hc.1) hc.2 hl hcs h
  | .not item, _, _, _, hc, hl, hcs, h =>
      scans_prefixed '!' rfl rfl nofun (item.scans_grouped hc hl hcs h)
  | .maybe item, _, _, _, hc, hl, hcs, h =>
      scans_prefixed '?' rfl rfl nofun (item.scans_grouped hc hl hcs h)
theorem Constraint.scans_grouped : (c : Constraint) → {spaced : Bool} → {cs : List Char} →
    {ws : List Word} → c.Proper → AllBare c.literals → Ends cs → Scans false cs ws →
    Scans spaced (c.groupedText.toList ++ cs) (c.groupedWords ++ ws)
  | .rel _ partner, _, _, _, hc, hl, hcs, h =>
      scans_related hc.1 hl.of_append.1 (partner.scans_partner hc.2 hl.of_append.2 hcs h)
  | .all items, _, _, _, hc, hl, _, h =>
      scans_bracketed (Constraint.scans_all items (Nat.lt_of_succ_lt hc.1) hc.2 hl
        (ends_cons (by simp)) (scans_closingBracket h))
  | .choice items, _, _, _, hc, hl, _, h =>
      scans_bracketed (Constraint.scans_choice items (Nat.lt_of_succ_lt hc.1) hc.2 hl
        (ends_cons (by simp)) (scans_closingBracket h))
  | .not item, _, _, _, hc, hl, hcs, h =>
      scans_prefixed '!' rfl rfl nofun (item.scans_grouped hc hl hcs h)
  | .maybe item, _, _, _, hc, hl, hcs, h =>
      scans_prefixed '?' rfl rfl nofun (item.scans_grouped hc hl hcs h)
theorem Constraint.scans_all : (items : List Constraint) → {spaced : Bool} → {cs : List Char} →
    {ws : List Word} → 0 < items.length → Constraint.ProperAll items →
    AllBare (Constraint.literalsOf items) → Ends cs → Scans false cs ws →
    Scans spaced ((String.intercalate " " (Constraint.groupedTexts items)).toList ++ cs)
      ((Constraint.groupedWordsOf items).flatten ++ ws)
  | [], _, _, _, hlength, _, _, _, _ => absurd hlength (Nat.lt_irrefl 0)
  | [c], spaced, _, _, _, hitems, hl, hcs, h => by
      have hc : Scans spaced _ _ := c.scans_grouped hitems.1 hl.of_append.1 hcs h
      simpa [Constraint.groupedTexts, Constraint.groupedWordsOf] using hc
  | c :: d :: items, spaced, _, _, _, hitems, hl, hcs, h => by
      have hrest : Scans true _ _ :=
        Constraint.scans_all (d :: items) (by simp) hitems.2 hl.of_append.2 hcs h
      have hblank : Scans false (' ' :: _) _ := scans_blank rfl hrest
      have hc : Scans spaced _ _ :=
        c.scans_grouped hitems.1 hl.of_append.1 (ends_cons (by simp)) hblank
      simpa [Constraint.groupedTexts, Constraint.groupedWordsOf, String.intercalate_cons_cons]
        using hc
theorem Constraint.scans_choice : (items : List Constraint) → {spaced : Bool} → {cs : List Char} →
    {ws : List Word} → 0 < items.length → Constraint.ProperAll items →
    AllBare (Constraint.literalsOf items) → Ends cs → Scans false cs ws →
    Scans spaced ((String.intercalate " | " (Constraint.groupedTexts items)).toList ++ cs)
      (List.intercalate [.plain .pipe "|"] (Constraint.groupedWordsOf items) ++ ws)
  | [], _, _, _, hlength, _, _, _, _ => absurd hlength (Nat.lt_irrefl 0)
  | [c], spaced, _, _, _, hitems, hl, hcs, h => by
      have hc : Scans spaced _ _ := c.scans_grouped hitems.1 hl.of_append.1 hcs h
      simpa [Constraint.groupedTexts, Constraint.groupedWordsOf] using hc
  | c :: d :: items, spaced, _, _, _, hitems, hl, hcs, h => by
      have hrest : Scans true _ _ :=
        Constraint.scans_choice (d :: items) (by simp) hitems.2 hl.of_append.2 hcs h
      have hblank : Scans false (' ' :: _) _ := scans_blank rfl hrest
      have hbar : Scans true ('|' :: ' ' :: _) (.plain .pipe "|" :: _) :=
        scans_char rfl rfl (fun _ => rfl) hblank
      have hblank : Scans false (' ' :: '|' :: _) _ := scans_blank rfl hbar
      have hc : Scans spaced _ _ :=
        c.scans_grouped hitems.1 hl.of_append.1 (ends_cons (by simp)) hblank
      simpa [Constraint.groupedTexts, Constraint.groupedWordsOf, String.intercalate_cons_cons,
        List.intercalate_cons_cons] using hc
end

/-- The text of a pattern is split into its words. -/
theorem NodePattern.scans (p : NodePattern) (hp : p.Proper) (hl : AllBare p.literals) :
    Scans false p.text.toList p.words := by
  obtain ⟨label, name, constraint⟩ := p
  cases constraint with
  | none =>
      have hhead : Scans false _ _ := scans_head hp hl ends_nil scans_nil
      simpa [NodePattern.text, NodePattern.words] using hhead
  | some c =>
      have hc : Scans true _ _ := c.scans_text hp.2 hl.of_append.2 ends_nil scans_nil
      have hblank : Scans false (' ' :: _) _ := scans_blank rfl hc
      have hhead : Scans false _ _ := scans_head hp.1 hl.of_append.1 (ends_cons (by simp)) hblank
      simpa [NodePattern.text, NodePattern.words] using hhead

end Treebank
