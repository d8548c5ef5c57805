import Treebank.Proofs.Basic
import Treebank.Proofs.Rule.Comment
import Treebank.Proofs.Rule.Reading
import Treebank.Proofs.Statement.Captures

/-!
# The format of rules

A text that is laid out as a rule gives the rule that its pattern and its statements make when they are
compiled by themselves, wherever comments and blank lines stand. A fault of the pattern shows at the
first line of the pattern, a fault of a statement at the line of the statement.
-/

namespace Treebank

namespace Rule

open Text

/-! ## Layouts -/

/-- The lines hold these pieces of a pattern, with comments between them. -/
inductive HoldsPattern : List String → List String → Prop
  | nil : HoldsPattern [] []
  | piece {line content : String} {lines contents : List String} : Holds line content →
      HoldsPattern lines contents → HoldsPattern (line :: lines) (content :: contents)
  | comment {line : String} {lines contents : List String} : IsComment line →
      HoldsPattern lines contents → HoldsPattern (line :: lines) contents

/-- The lines, counted from a number on, hold these statements at these numbers, with comments and
blank lines between them. -/
inductive HoldsStatements : Nat → List String → List (Nat × String) → Prop
  | nil {n : Nat} : HoldsStatements n [] []
  | statement {n : Nat} {line content : String} {lines : List String}
      {statements : List (Nat × String)} : Holds line content →
      HoldsStatements (n + 1) lines statements →
      HoldsStatements n (line :: lines) ((n, content) :: statements)
  | other {n : Nat} {line : String} {lines : List String} {statements : List (Nat × String)} :
      IsComment line ∨ IsBlank line → HoldsStatements (n + 1) lines statements →
      HoldsStatements n (line :: lines) statements

/-- The lines hold the pieces of a pattern, the first of them at line `first`, and then, from a blank
line on, these statements at these lines. -/
inductive Layout : (lines : List String) → (first : Nat) → (patterns : List String) →
    (statements : List (Nat × String)) → Prop
  | mk {before block tail contents : List String} {head content : String}
      {statements : List (Nat × String)} : (∀ l ∈ before, IsComment l ∨ IsBlank l) →
      Holds head content → HoldsPattern block contents → (∀ l, tail.head? = some l → IsBlank l) →
      HoldsStatements (before.length + block.length + 2) tail statements →
      Layout (before ++ head :: block ++ tail) (before.length + 1) (content :: contents) statements

variable {line content : String} {lines : List String}

theorem stripComment_of_other (h : IsComment line ∨ IsBlank line) (hline : '\n' ∉ line.toList) :
    stripComment line = "" := by
  rcases h with h | h
  · exact stripComment_of_comment h hline
  · exact stripComment_of_blank h hline

theorem trim_ne_empty (h : Holds line content) : trim content ≠ "" := by
  obtain ⟨c, hc, hblank⟩ := h.notBlank
  intro hempty
  have hnil : trimChars content.toList = [] := by
    rw [← String.toList_ofList (l := trimChars content.toList)]
    exact congrArg String.toList hempty
  exact trimChars_ne_nil hblank hc hnil

theorem isEmptyLine_of_holds (h : Holds line content) (hline : '\n' ∉ line.toList) :
    isEmptyLine line = false := by
  rw [isEmptyLine, stripComment_of_holds h hline, Bool.eq_false_iff]
  simpa using trim_ne_empty h

/-- A line that holds more than blanks is not blank. -/
theorem isBlankLine_of_mem {c : Char} (hc : c ∈ line.toList) (hblank : isBlank c = false) :
    isBlankLine line = false := by
  have hne := trimChars_ne_nil hblank hc
  rw [isBlankLine, trim, Bool.eq_false_iff]
  simpa using hne

theorem mem_guard {c : Char} {cs : List Char} (hc : c ∈ cs) : c ∈ guard cs := by
  induction cs with
  | nil => cases hc
  | cons d cs ih =>
      by_cases hd : d = '%'
      · rw [hd, guard]
        rcases List.mem_cons.mp hc with rfl | hc
        · rw [hd]
          simp
        · simp [ih hc]
      · rw [guard_of_ne hd]
        rcases List.mem_cons.mp hc with rfl | hc
        · simp
        · simp [ih hc]

theorem isBlankLine_of_holds (h : Holds line content) : isBlankLine line = false := by
  obtain ⟨c, hc, hblank⟩ := h.notBlank
  refine isBlankLine_of_mem ?_ hblank
  rcases h.written with hplain | ⟨comment, hcomment⟩
  · exact hplain ▸ mem_guard hc
  · exact hcomment ▸ List.mem_append_left _ (mem_guard hc)

theorem isBlankLine_of_comment (h : IsComment line) : isBlankLine line = false := by
  obtain ⟨blanks, comment, hwritten, _⟩ := h
  exact isBlankLine_of_mem (hwritten ▸ List.mem_append_right _ List.mem_cons_self) isBlank_guard.1

theorem isBlankLine_of_blank (h : IsBlank line) : isBlankLine line = true := by
  rw [isBlankLine, trim, trimChars_of_blank h]
  rfl

/-! ## Statements -/

theorem numbered_cons (n : Nat) (line : String) (lines : List String) :
    numbered n (line :: lines) = (n, line) :: numbered (n + 1) lines := by
  rw [numbered, List.zipIdx_cons, List.map_cons]
  rfl

variable {name : String} {p : CompiledPattern} {before : List (String × Statement)} {n m : Nat}
  {rest : List (Nat × String)} {statements : List (Nat × String)}

theorem readStatements_empty (h : stripComment line = "") :
    readStatements name p before ((n, line) :: rest) = readStatements name p before rest := by
  simp [readStatements, h]

theorem readStatements_cons (h : Holds line content) (hline : '\n' ∉ line.toList) :
    readStatements name p before ((n, line) :: rest) =
      match Statement.read content with
      | .error e => .error (.atLine name n (.statement e))
      | .ok st =>
        match Statement.checkCaptures p.captures (before ++ [(trim content, st)]) with
        | .error e => .error (.atLine name n (.statement e))
        | .ok _ => readStatements name p (before ++ [(trim content, st)]) rest := by
  have htext : (stripComment line).isEmpty = false := by
    rw [stripComment_of_holds h hline, Bool.eq_false_iff]
    simpa using trim_ne_empty h
  have hread : Statement.read (trim content) = Statement.read content := by
    simp only [Statement.read, trim_trim]
  simp only [readStatements, htext]
  rw [stripComment_of_holds h hline, hread]
  cases Statement.read content with
  | error e => rfl
  | ok st =>
      simp only [ok_bind]
      cases Statement.checkCaptures p.captures (before ++ [(trim content, st)]) <;> rfl

/-- The names known after statements. -/
def knownAfter (p : CompiledPattern) (before : List (String × Statement)) : List String :=
  p.captures ++ before.flatMap (·.2.introduced)

theorem knownAfter_append (text : String) (st : Statement) :
    knownAfter p (before ++ [(text, st)]) = knownAfter p before ++ st.introduced := by
  simp [knownAfter]

/-- Only the last statement is new to the check of the names. -/
theorem firstUnknown?_concat (hbefore : Statement.firstUnknown? p.captures before = none)
    (text : String) (st : Statement) :
    Statement.firstUnknown? p.captures (before ++ [(text, st)]) =
      (st.referenced.find? fun other => !(knownAfter p before).contains other).map (·, text) := by
  rw [Statement.firstUnknown?_append hbefore, Statement.firstUnknown?, knownAfter]
  split
  · rename_i other hother
    rw [hother]
    rfl
  · rename_i hnone
    rw [hnone]
    rfl

variable {st : Statement}

theorem readStatements_of_unread {e : Statement.Error} (h : Holds line content)
    (hline : '\n' ∉ line.toList) (hread : Statement.read content = .error e) :
    readStatements name p before ((n, line) :: rest) = .error (.atLine name n (.statement e)) := by
  rw [readStatements_cons h hline, hread]

theorem readStatements_of_unknown (h : Holds line content) (hline : '\n' ∉ line.toList)
    (hbefore : Statement.firstUnknown? p.captures before = none)
    (hread : Statement.read content = .ok st) {other : String}
    (hother : (st.referenced.find? fun other => !(knownAfter p before).contains other) = some other) :
    readStatements name p before ((n, line) :: rest) = .error (.atLine name n
      (.statement (.unboundCapture other (sortedNames p.captures) (trim content)))) := by
  rw [readStatements_cons h hline, hread]
  simp only [Statement.checkCaptures, firstUnknown?_concat hbefore, hother, Option.map_some]

theorem readStatements_of_known (h : Holds line content) (hline : '\n' ∉ line.toList)
    (hbefore : Statement.firstUnknown? p.captures before = none)
    (hread : Statement.read content = .ok st)
    (hknown : ∀ other ∈ st.referenced, other ∈ knownAfter p before) :
    let all := before ++ [(trim content, st)]
    readStatements name p before ((n, line) :: rest) = readStatements name p all rest ∧
      Statement.firstUnknown? p.captures all = none := by
  have hnone : (st.referenced.find? fun other => !(knownAfter p before).contains other) = none := by
    simpa using hknown
  have hall : Statement.firstUnknown? p.captures (before ++ [(trim content, st)]) = none := by
    rw [firstUnknown?_concat hbefore, hnone]
    rfl
  refine ⟨?_, hall⟩
  rw [readStatements_cons h hline, hread]
  simp only [Statement.checkCaptures, hall]

/-- Lines with statements that are accepted one by one are read. -/
theorem readStatements_of_accepts (h : HoldsStatements n lines statements)
    (hlines : ∀ l ∈ lines, '\n' ∉ l.toList)
    (hbefore : Statement.firstUnknown? p.captures before = none)
    {pairs : List (String × Statement)}
    (haccepts : Statement.Accepts (knownAfter p before) statements pairs) :
    readStatements name p before (numbered n lines) = .ok (before ++ pairs) := by
  induction h generalizing before pairs with
  | nil =>
      cases haccepts
      rw [List.append_nil]
      rfl
  | statement hline _ ih =>
      obtain ⟨hfirst, hlines⟩ := List.forall_mem_cons.mp hlines
      cases haccepts with
      | cons hread hknown hmore =>
          obtain ⟨hstep, hall⟩ := readStatements_of_known hline hfirst hbefore hread hknown
          rw [← knownAfter_append] at hmore
          rw [numbered_cons, hstep, ih hlines hall hmore, List.append_assoc]
          rfl
  | other hline _ ih =>
      obtain ⟨hfirst, hlines⟩ := List.forall_mem_cons.mp hlines
      rw [numbered_cons, readStatements_empty (stripComment_of_other hline hfirst)]
      exact ih hlines hbefore haccepts

/-- The first statement with a fault is the one that the reading stops at. -/
theorem readStatements_of_fails (h : HoldsStatements n lines statements)
    (hlines : ∀ l ∈ lines, '\n' ∉ l.toList)
    (hbefore : Statement.firstUnknown? p.captures before = none) {e : Statement.Error}
    (hfails : Statement.Fails p.captures (knownAfter p before) statements m e) :
    readStatements name p before (numbered n lines) = .error (.atLine name m (.statement e)) := by
  induction h generalizing before with
  | nil => cases hfails
  | statement hline _ ih =>
      obtain ⟨hfirst, hlines⟩ := List.forall_mem_cons.mp hlines
      rw [numbered_cons]
      cases hfails with
      | unread hread => exact readStatements_of_unread hline hfirst hread
      | unknown hread hother => exact readStatements_of_unknown hline hfirst hbefore hread hother
      | later hread hknown hmore =>
          obtain ⟨hstep, hall⟩ := readStatements_of_known hline hfirst hbefore hread hknown
          rw [← knownAfter_append] at hmore
          rw [hstep, ih hlines hall hmore]
  | other hline _ ih =>
      obtain ⟨hfirst, hlines⟩ := List.forall_mem_cons.mp hlines
      rw [numbered_cons, readStatements_empty (stripComment_of_other hline hfirst)]
      exact ih hlines hbefore hfails

/-! ## The block of the pattern -/

theorem isBlankLine_of_holdsPattern {contents : List String} (h : HoldsPattern lines contents) :
    ∀ l ∈ lines, isBlankLine l = false := by
  induction h with
  | nil => exact List.forall_mem_nil _
  | piece hline _ ih => exact List.forall_mem_cons.mpr ⟨isBlankLine_of_holds hline, ih⟩
  | comment hline _ ih => exact List.forall_mem_cons.mpr ⟨isBlankLine_of_comment hline, ih⟩

theorem parts_of_holdsPattern {contents : List String} (h : HoldsPattern lines contents)
    (hlines : ∀ l ∈ lines, '\n' ∉ l.toList) :
    ((lines.map stripComment).filter fun l => !l.isEmpty) = contents.map trim := by
  induction h with
  | nil => rfl
  | piece hline _ ih =>
      obtain ⟨hfirst, hlines⟩ := List.forall_mem_cons.mp hlines
      have hne := trim_ne_empty hline
      rw [List.map_cons, stripComment_of_holds hline hfirst,
        List.filter_cons_of_pos (by simpa using hne), ih hlines, List.map_cons]
  | comment hline _ ih =>
      obtain ⟨hfirst, hlines⟩ := List.forall_mem_cons.mp hlines
      rw [List.map_cons, stripComment_of_comment hline hfirst, List.filter_cons_of_neg (by simp),
        ih hlines]

/-- Where the block of the pattern is found, what it holds, and where the statements begin. -/
theorem parts_of_layout {first : Nat} {patterns : List String}
    (h : Layout lines first patterns statements) (hlines : ∀ l ∈ lines, '\n' ∉ l.toList) :
    patternStart lines + 1 = first ∧ patternParts lines = patterns.map trim ∧ patterns ≠ [] ∧
      ∃ n tail, statementLines lines = numbered n tail ∧ HoldsStatements n tail statements ∧
        ∀ l ∈ tail, l ∈ lines := by
  obtain @⟨before, block, tail, contents, head, content, statements, hbefore, hhead, hblock, htail,
    hstatements⟩ := h
  simp only [List.append_assoc, List.cons_append] at hlines ⊢
  have hempty : ∀ l ∈ before, isEmptyLine l = true := by
    intro l hl
    rw [isEmptyLine, stripComment_of_other (hbefore l hl) (hlines l (by simp [hl]))]
    rfl
  have hheadline : '\n' ∉ head.toList := hlines head (by simp)
  have hstart : patternStart (before ++ head :: (block ++ tail)) = before.length := by
    rw [patternStart, List.takeWhile_append_of_pos hempty,
      List.takeWhile_cons_of_neg (by simp [isEmptyLine_of_holds hhead hheadline]), List.append_nil]
  have hpattern : HoldsPattern (head :: block) (content :: contents) := .piece hhead hblock
  have hfull : ∀ l ∈ head :: block, (!isBlankLine l) = true := by
    simpa using isBlankLine_of_holdsPattern hpattern
  have hend : tail.takeWhile (fun l => !isBlankLine l) = [] := by
    cases tail with
    | nil => rfl
    | cons l tail => simp [isBlankLine_of_blank (htail l rfl)]
  have hblocklines : patternBlock (before ++ head :: (block ++ tail)) = head :: block := by
    rw [patternBlock, hstart, List.drop_left, ← List.cons_append,
      List.takeWhile_append_of_pos hfull, hend, List.append_nil]
  refine ⟨by rw [hstart], ?_, List.cons_ne_nil _ _, _, tail, ?_, hstatements, fun l hl => by simp [hl]⟩
  · rw [patternParts, hblocklines]
    refine parts_of_holdsPattern hpattern fun l hl => hlines l ?_
    rw [← List.cons_append, List.mem_append, List.mem_append]
    exact Or.inr (Or.inl hl)
  · have hnumber : before.length + (head :: block).length + 1 = before.length + block.length + 2 := by
      rw [List.length_cons]
      omega
    rw [statementLines, hblocklines, hstart, hnumber, ← List.drop_drop, List.drop_left,
      ← List.cons_append, List.drop_left]

/-! ## Rules -/

/-- The text is refused for a fault in a line. The message tells the name of the rule and the line,
unless the fault is one that is not told with a place. -/
def Refused (name : String) (line : Nat) (f : Fault) (x : Except Diagnostic Rule) : Prop :=
  ∃ d, x = .error d ∧ d.fault = f ∧
    (f.isPlaced = true → d.source = some name ∧ d.line = some line ∧
      d.message = s!"{name}:{line}: {f.message}") ∧
    (f.isPlaced = false → d.message = f.message)

theorem refused_atLine (name : String) (line : Nat) (f : Fault) :
    Refused name line f (.error (.atLine name line f)) := by
  refine ⟨_, rfl, rfl, fun h => ⟨rfl, rfl, ?_⟩, fun h => ?_⟩
  · simp only [Diagnostic.message, Diagnostic.atLine, h, if_true]
  · simp [Diagnostic.message, Diagnostic.atLine, h]

theorem ofStatements_eq_ok_iff {count : Nat} {r : Rule} :
    ofStatements name p count before = .ok r ↔
      before ≠ [] ∧ r = ⟨name, p, before.map (·.2), some name⟩ := by
  cases before with
  | nil => exact ⟨nofun, fun h => absurd rfl h.1⟩
  | cons pair before =>
      constructor
      · rintro ⟨⟩
        exact ⟨List.cons_ne_nil _ _, rfl⟩
      · rintro ⟨_, rfl⟩
        rfl

theorem compile_of_pattern_error {strategies : Strategies} {pattern : String} {texts : List String}
    {f : Fault} (h : compilePattern strategies pattern = .error f) :
    compile strategies name pattern texts (some name) = .error f := by
  rw [compile, h]
  rfl

theorem compile_eq_ok_iff {strategies : Strategies} {pattern : String} {texts : List String}
    {r : Rule} (h : compilePattern strategies pattern = .ok p) :
    compile strategies name pattern texts (some name) = .ok r ↔
      ∃ sts, Statement.compile texts (some p) = .ok sts ∧ r = ⟨name, p, sts, some name⟩ := by
  rw [compile, h, ok_bind]
  cases Statement.compile texts (some p) with
  | error e => exact ⟨nofun, nofun⟩
  | ok sts =>
      constructor
      · rintro ⟨⟩
        exact ⟨sts, rfl, rfl⟩
      · rintro ⟨_, ⟨⟩, rfl⟩
        rfl

section
variable {strategies : Strategies} {text : String} {first : Nat} {patterns : List String}

theorem not_mem_lines_newline : ∀ l ∈ Text.lines text, '\n' ∉ l.toList := by
  intro l hl hmem
  have hend := not_isLineEnd_of_mem_lines hl _ hmem
  exact absurd hend (by decide)

theorem read_of_layout_of_pattern_error {f : Fault}
    (h : Layout (Text.lines text) first patterns statements)
    (hcompile : compilePattern strategies (String.intercalate " " (patterns.map trim)) = .error f) :
    read strategies name text = .error (.atLine name first f) := by
  obtain ⟨hfirst, hparts, hne, _⟩ := parts_of_layout h not_mem_lines_newline
  rw [← hparts] at hcompile
  rw [read_of_pattern_error (by simpa [hparts] using hne) hcompile, hfirst]

/-- What follows from the statements being accepted one by one, and from one being the first to fail. -/
theorem read_of_layout_of_pattern (h : Layout (Text.lines text) first patterns statements)
    (hcompile : compilePattern strategies (String.intercalate " " (patterns.map trim)) = .ok p) :
    (∀ pairs, Statement.Accepts p.captures statements pairs →
      read strategies name text = ofStatements name p (Text.lines text).length pairs) ∧
    ∀ m e, Statement.Fails p.captures p.captures statements m e →
      read strategies name text = .error (.atLine name m (.statement e)) := by
  obtain ⟨_, hparts, hne, n, tail, htail, hholds, hin⟩ := parts_of_layout h not_mem_lines_newline
  have hlines : ∀ l ∈ tail, '\n' ∉ l.toList := fun l hl => not_mem_lines_newline l (hin l hl)
  have hcaptures : knownAfter p [] = p.captures := List.append_nil _
  rw [← hparts] at hcompile
  rw [read_of_pattern (by simpa [hparts] using hne) hcompile, htail]
  constructor
  · intro pairs haccepts
    have hknown : Statement.Accepts (knownAfter p []) statements pairs := by rwa [hcaptures]
    rw [readStatements_of_accepts hholds hlines rfl hknown]
    rfl
  · intro m e hfails
    have hknown : Statement.Fails p.captures (knownAfter p []) statements m e := by rwa [hcaptures]
    rw [readStatements_of_fails hholds hlines rfl hknown]
    rfl

end

/-- A text that is laid out as a rule is read as the rule that its pattern and its statements make when
they are compiled by themselves, and as no rule if they make none. A fault of the pattern shows at the
first line of the pattern. A fault of a statement shows at the first statement that cannot be read or
uses a name that neither the pattern declares nor a statement before it introduces. -/
theorem read_of_layout {strategies : Strategies} {name text : String} {first : Nat}
    {patterns : List String} {statements : List (Nat × String)}
    (h : Layout (Text.lines text) first patterns statements) :
    let pattern := String.intercalate " " (patterns.map trim)
    (∀ r, read strategies name text = .ok r ↔
      compile strategies name pattern (statements.map (·.2)) (some name) = .ok r) ∧
    (∀ f, compilePattern strategies pattern = .error f →
      Refused name first f (read strategies name text)) ∧
    ∀ p d, compilePattern strategies pattern = .ok p → statements ≠ [] →
      read strategies name text = .error d →
      ∃ n e, Statement.Fails p.captures p.captures statements n e ∧
        Refused name n (.statement e) (read strategies name text) := by
  intro pattern
  cases hcompile : compilePattern strategies pattern with
  | error f =>
      have hread : read strategies name text = .error (.atLine name first f) :=
        read_of_layout_of_pattern_error h hcompile
      rw [hread, compile_of_pattern_error hcompile]
      refine ⟨fun r => ⟨fun hr => ?_, fun hr => ?_⟩, fun g hg => ?_, fun p d hp => ?_⟩
      · cases hr
      · cases hr
      · rw [← Except.error.inj hg]
        exact refused_atLine name first f
      · cases hp
  | ok p =>
      obtain ⟨haccepted, hfailed⟩ := @read_of_layout_of_pattern name p _ strategies text _ _ h hcompile
      rcases Statement.accepts_or_fails p.captures p.captures statements with
        ⟨pairs, hpairs⟩ | ⟨n, e, hfails⟩
      · rw [haccepted pairs hpairs]
        refine ⟨fun r => ?_, fun f hf => ?_, fun q d _ hne hd => ?_⟩
        · rw [ofStatements_eq_ok_iff, compile_eq_ok_iff hcompile, hpairs.ne_nil_iff]
          constructor
          · rintro ⟨hne, rfl⟩
            exact ⟨_, Statement.compile_eq_ok_iff.mpr ⟨hne, pairs, hpairs, rfl⟩, rfl⟩
          · rintro ⟨sts, hsts, rfl⟩
            obtain ⟨hne, others, hothers, rfl⟩ := Statement.compile_eq_ok_iff.mp hsts
            exact ⟨hne, by rw [hpairs.unique hothers]⟩
        · cases hf
        · rw [ofStatements, if_neg (by simpa using hpairs.ne_nil_iff.mpr hne)] at hd
          cases hd
      · rw [hfailed n e hfails]
        refine ⟨fun r => ⟨fun hr => ?_, fun hr => ?_⟩, fun f hf => ?_, fun q d hq _ _ => ?_⟩
        · cases hr
        · obtain ⟨sts, hsts, _⟩ := (compile_eq_ok_iff hcompile).mp hr
          obtain ⟨_, pairs, hpairs, _⟩ := Statement.compile_eq_ok_iff.mp hsts
          exact absurd hfails hpairs.not_fails
        · cases hf
        · rw [← Except.ok.inj hq]
          exact ⟨n, e, hfails, refused_atLine name n _⟩

theorem layout_of_deletion :
    Layout (Text.lines "% NP\nNP=n % \\%\n\ndelete n\n") 2 ["NP=n"] [(4, "delete n")] := by
  have hlines : Text.lines "% NP\nNP=n % \\%\n\ndelete n\n" =
      ["% NP"] ++ "NP=n % \\%" :: [] ++ ["", "delete n"] := by decide +kernel
  have hletter : isBlank 'N' = false ∧ isBlank 'd' = false := by decide +kernel
  have hpattern : Holds "NP=n % \\%" "NP=n" :=
    ⟨⟨'N', by decide, hletter.1⟩, Or.inr ⟨" \\%".toList, by decide⟩⟩
  have hstatement : Holds "delete n" "delete n" := ⟨⟨'d', by decide, hletter.2⟩, Or.inl (by decide)⟩
  have hblank : IsBlank "" := List.forall_mem_nil _
  have hcomment : IsComment "% NP" := ⟨[], " NP".toList, by decide, List.forall_mem_nil _⟩
  rw [hlines]
  refine .mk ?_ hpattern .nil ?_ (.other (Or.inr hblank) (.statement hstatement .nil))
  · exact List.forall_mem_singleton.mpr (Or.inl hcomment)
  · rintro _ ⟨⟩
    exact hblank

/-- A rule with a comment before its pattern and one after it. -/
theorem read_of_deletion :
    let text := "% NP\nNP=n % \\%\n\ndelete n\n"
    let strategies : Strategies := ⟨HeadFinder.firstChild, id⟩
    Layout (Text.lines text) 2 ["NP=n"] [(4, "delete n")] ∧
      ∀ r, read strategies "cut" text = .ok r ↔
        compile strategies "cut" (String.intercalate " " (["NP=n"].map trim)) ["delete n"]
          (some "cut") = .ok r :=
  ⟨layout_of_deletion, (read_of_layout layout_of_deletion).1⟩

theorem layout_of_superscript :
    Layout (Text.lines "A <² B=x\n\ndelete x\n") 1 ["A <² B=x"] [(3, "delete x")] := by
  have hlines : Text.lines "A <² B=x\n\ndelete x\n" =
      [] ++ "A <² B=x" :: [] ++ ["", "delete x"] := by decide +kernel
  have hletter : isBlank 'A' = false ∧ isBlank 'd' = false := by decide +kernel
  have hpattern : Holds "A <² B=x" "A <² B=x" := ⟨⟨'A', by decide, hletter.1⟩, Or.inl (by decide)⟩
  have hstatement : Holds "delete x" "delete x" := ⟨⟨'d', by decide, hletter.2⟩, Or.inl (by decide)⟩
  have hblank : IsBlank "" := List.forall_mem_nil _
  rw [hlines]
  refine .mk (List.forall_mem_nil _) hpattern .nil ?_
    (.other (Or.inr hblank) (.statement hstatement .nil))
  rintro _ ⟨⟩
  exact hblank

/-- The fault of a child number that cannot be read is told without its place. -/
theorem read_of_superscript :
    let text := "A <² B=x\n\ndelete x\n"
    Layout (Text.lines text) 1 ["A <² B=x"] [(3, "delete x")] ∧
      ∃ d, read ⟨HeadFinder.firstChild, id⟩ "f.rules" text = .error d ∧
        d.fault = .pattern (.badNumber (.noNumber "²")) ∧
        d.message = "invalid literal for int() with base 10: '²'" := by
  have hfault : (match read ⟨HeadFinder.firstChild, id⟩ "f.rules" "A <² B=x\n\ndelete x\n" with
      | .error d => some (d.fault, d.message)
      | .ok _ => none) = some (.pattern (.badNumber (.noNumber "²")),
        "invalid literal for int() with base 10: '²'") := by decide +kernel
  refine ⟨layout_of_superscript, ?_⟩
  split at hfault
  · rename_i d hread
    obtain ⟨hpattern, hmessage⟩ := Prod.mk.inj (Option.some.inj hfault)
    exact ⟨d, hread, hpattern, hmessage⟩
  · cases hfault

end Rule

end Treebank
