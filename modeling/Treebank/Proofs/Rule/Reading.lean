import Treebank.Rule.Reader

/-!
# How the text of a rule is read

The block of the pattern begins at the first line that holds more than blanks and a comment, and ends
before the next blank line. What is read depends on the name of the rule only as far as the rule and
the faults are told by it.
-/

namespace Treebank.Rule

/-! ## The block of the pattern -/

/-- The number of lines before the block. -/
def patternStart (all : List String) : Nat := (all.takeWhile isEmptyLine).length

/-- The lines of the block. -/
def patternBlock (all : List String) : List String :=
  (all.drop (patternStart all)).takeWhile fun l => !isBlankLine l

/-- What the lines of the block hold, those with nothing but a comment left out. -/
def patternParts (all : List String) : List String :=
  ((patternBlock all).map stripComment).filter fun l => !l.isEmpty

/-- The lines after the block, with their numbers. -/
def statementLines (all : List String) : List (Nat × String) :=
  let first := patternStart all + (patternBlock all).length
  numbered (first + 1) (all.drop first)

variable {strategies : Strategies} {name text : String}

/-- The rule of statements that have been read, of which there must be one. -/
def ofStatements (name : String) (p : CompiledPattern) (count : Nat)
    (statements : List (String × Statement)) : Except Diagnostic Rule :=
  if statements.isEmpty then .error (.atLine name (max count 1) .ruleWithoutStatements)
  else .ok ⟨name, p, statements.map (·.2), some name⟩

theorem read_of_no_pattern (h : patternParts (Text.lines text) = []) :
    read strategies name text =
      .error (.atLine name (patternStart (Text.lines text) + 1) .ruleWithoutPattern) := by
  have hparts : (patternParts (Text.lines text)).isEmpty = true := List.isEmpty_iff.mpr h
  simp only [patternParts, patternBlock, patternStart] at hparts
  simp only [read, hparts, if_true]
  rfl

theorem read_of_pattern_error {f : Fault} (h : patternParts (Text.lines text) ≠ [])
    (hpattern : compilePattern strategies
      (String.intercalate " " (patternParts (Text.lines text))) = .error f) :
    read strategies name text = .error (.atLine name (patternStart (Text.lines text) + 1) f) := by
  have hparts : (patternParts (Text.lines text)).isEmpty = false :=
    List.isEmpty_eq_false_iff.mpr h
  simp only [patternParts, patternBlock, patternStart] at hparts hpattern
  simp only [read, hparts, hpattern]
  rfl

theorem read_of_pattern {p : CompiledPattern} (h : patternParts (Text.lines text) ≠ [])
    (hpattern : compilePattern strategies
      (String.intercalate " " (patternParts (Text.lines text))) = .ok p) :
    read strategies name text =
      readStatements name p [] (statementLines (Text.lines text)) >>=
        ofStatements name p (Text.lines text).length := by
  have hparts : (patternParts (Text.lines text)).isEmpty = false :=
    List.isEmpty_eq_false_iff.mpr h
  simp only [patternParts, patternBlock, patternStart] at hparts hpattern
  simp only [read, hparts, hpattern, statementLines, patternBlock, patternStart]
  refine congrArg (readStatements name p [] _ >>= ·) (funext fun statements => ?_)
  rw [ofStatements]
  split <;> rfl

end Treebank.Rule
