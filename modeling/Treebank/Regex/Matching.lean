import Treebank.Regex.Expr

/-!
# Matching

Matching is a search with backtracking: every way of matching an expression is handed to what has to
follow it, in order of preference, until one way succeeds. A turn of a repetition that matches
nothing is the last one.

The places where groups begin and end are marks. A way that fails leaves its marks behind. Where the
search goes back to try another way, marks that were not yet in use before are forgotten; older ones
get their former place back only within a repetition. A condition on a group that is still open can
tell the difference.
-/

namespace Treebank.Regex

/-- The marks made: `places` holds them, and the first `used` of them are in use. -/
structure Marks where
  places : Array (Option Nat)
  used : Nat
deriving Repr, DecidableEq

namespace Marks

/-- No marks, with room for those of so many groups. -/
def none (groups : Nat) : Marks := ⟨Array.replicate (2 * groups) .none, 0⟩

/-- The marks from `used` on up to another, in no place. -/
def clear (m : Marks) (number : Nat) : Array (Option Nat) :=
  (List.range' m.used (number - m.used)).foldl (fun a i => a.setIfInBounds i .none) m.places

/-- A mark comes to a place. Marks before it that were not in use have no place. -/
def set (m : Marks) (number pos : Nat) : Marks :=
  ⟨(m.clear number).setIfInBounds number (some pos), max m.used (number + 1)⟩

/-- The mark for the beginning of a group. -/
def opening (group : Nat) : Nat := 2 * (group - 1)

/-- The mark for the end of a group. -/
def closing (group : Nat) : Nat := opening group + 1

/-- The stretch that a group has captured. -/
def captured? (m : Marks) (group : Nat) : Option (Nat × Nat) :=
  if m.used ≤ closing group then .none
  else
    match m.places[opening group]?.join, m.places[closing group]?.join with
    | some b, some e => if b ≤ e then some (b, e) else .none
    | _, _ => .none

/-- The marks with which another way is tried after one that has failed. -/
def recover (looping : Bool) (before after : Marks) : Marks :=
  if looping then before else { after with used := before.used }

end Marks

/-- How far a match has come: the place in the text, and the marks. -/
structure Trail where
  pos : Nat
  marks : Marks
deriving Repr, DecidableEq

namespace Trail

def mark (t : Trail) (number : Nat) : Trail := { t with marks := t.marks.set number t.pos }

def moveTo (t : Trail) (pos : Nat) : Trail := { t with pos }

/-- The stretch that a group has captured. -/
def captured? (t : Trail) (group : Nat) : Option (Nat × Nat) := t.marks.captured? group

end Trail

/-- The end of a match, or the marks that are left after a failure. -/
abbrev Attempt := Except Marks Trail

/-- What follows the expression that is being matched. -/
abbrev Rest := Trail → Attempt

/-- A way of matching one expression before what follows it. -/
abbrev Step := Trail → Rest → Attempt

/-! ## Repetition of a single character -/

/-- The number of characters from a place on that pass a test, up to a greatest number. -/
def runLength (text : Array Char) (test : CharTest) (pos : Nat) : (most : Nat) → Nat
  | 0 => 0
  | most + 1 =>
    match text[pos]? with
    | some c => if test.accepts c then runLength text test (pos + 1) most + 1 else 0
    | none => 0

/-- The greatest number of turns that there is room for. -/
def roomFor (text : Array Char) (max : Option Nat) (pos : Nat) : Nat :=
  let left := text.size - pos
  (max.map (Nat.min left)).getD left

/-- After as many characters as possible, and then one less each time; `base` is the place after the
least number of characters. -/
def giveBack (looping : Bool) (before : Marks) (rest : Rest) (base : Nat) :
    (extra : Nat) → Marks → Attempt
  | 0, m =>
    match rest ⟨base, m⟩ with
    | .ok t => .ok t
    | .error m => .error (before.recover looping m)
  | extra + 1, m =>
    match rest ⟨base + extra + 1, m⟩ with
    | .ok t => .ok t
    | .error m => giveBack looping before rest base extra (before.recover looping m)

/-- After no character, and then one more each time. -/
def takeMore (text : Array Char) (test : CharTest) (looping : Bool) (before : Marks) (rest : Rest) :
    (extra pos : Nat) → Marks → Attempt
  | extra, pos, m =>
    match rest ⟨pos, m⟩ with
    | .ok t => .ok t
    | .error m =>
      let m := before.recover looping m
      match extra, text[pos]? with
      | extra + 1, some c =>
        if test.accepts c then takeMore text test looping before rest extra (pos + 1) m
        else .error m
      | _, _ => .error m

/-- A repetition of a single character. -/
def repeatChar (text : Array Char) (looping : Bool) (mode : Mode) (min : Nat) (max : Option Nat)
    (test : CharTest) (t : Trail) (rest : Rest) : Attempt :=
  let room := roomFor text max t.pos
  match mode with
  | .lazy =>
    if runLength text test t.pos (Nat.min min (text.size - t.pos)) < min then .error t.marks
    else takeMore text test looping t.marks rest (room - min) (t.pos + min) t.marks
  | .greedy =>
    let count := runLength text test t.pos room
    if count < min then .error t.marks
    else giveBack looping t.marks rest (t.pos + min) (count - min) t.marks
  | .possessive =>
    let count := runLength text test t.pos room
    if count < min then .error t.marks else rest (t.moveTo (t.pos + count))

/-! ## Repetition of other expressions -/

/-- Another turn of a repetition is allowed, given the turns so far and the place of the last one. -/
def mayTurn (max : Option Nat) (count : Nat) (last : Option Nat) (pos : Nat) : Bool :=
  (match max with | none => true | some m => count < m) && last != some pos

/-- As many turns as possible first. -/
def turnGreedy (body : Step) (min : Nat) (max : Option Nat) (rest : Rest) :
    (fuel count : Nat) → (last : Option Nat) → Trail → Attempt
  | 0, _, _, t => .error t.marks
  | fuel + 1, count, last, t =>
    if count < min then
      body t (turnGreedy body min max rest fuel (count + 1) last)
    else if mayTurn max count last t.pos then
      match body t (turnGreedy body min max rest fuel (count + 1) (some t.pos)) with
      | .ok r => .ok r
      | .error _ => rest t
    else rest t

/-- As few turns as possible first. -/
def turnLazy (looping : Bool) (body : Step) (min : Nat) (max : Option Nat) (rest : Rest) :
    (fuel count : Nat) → (last : Option Nat) → Trail → Attempt
  | 0, _, _, t => .error t.marks
  | fuel + 1, count, last, t =>
    if count < min then
      body t (turnLazy looping body min max rest fuel (count + 1) last)
    else
      match rest t with
      | .ok r => .ok r
      | .error m =>
        let m := t.marks.recover looping m
        if mayTurn max count last t.pos then
          body ⟨t.pos, m⟩ (turnLazy looping body min max rest fuel (count + 1) (some t.pos))
        else .error m

/-- As many turns as possible, each matched in its first way. -/
def turnPossessive (body : Step) (min : Nat) (max : Option Nat) (rest : Rest) :
    (fuel count : Nat) → (last : Option Nat) → Trail → Attempt
  | 0, _, _, t => .error t.marks
  | fuel + 1, count, last, t =>
    if count < min then
      match body t .ok with
      | .ok t' => turnPossessive body min max rest fuel (count + 1) last t'
      | .error m => .error m
    else if mayTurn max count last t.pos then
      match body t .ok with
      | .ok t' => turnPossessive body min max rest fuel (count + 1) (some t.pos) t'
      | .error _ => rest t
    else rest t

/-- The repetition of a mode; `looping` tells whether it stands in another one. -/
def Mode.turn (looping : Bool) : Mode → Step → Nat → Option Nat → Rest → (fuel count : Nat) →
    Option Nat → Trail → Attempt
  | greedy => turnGreedy
  | lazy => turnLazy looping
  | possessive => turnPossessive

/-! ## Single conditions -/

/-- A word character stands at a place. -/
def wordAt (text : Array Char) (ascii : Bool) (pos : Nat) : Bool :=
  match text[pos]? with
  | some c => CharClass.word.contains ascii c
  | none => false

/-- Word characters and others meet at a place; a text without characters has no such place. -/
def edgeAt (text : Array Char) (ascii : Bool) (pos : Nat) : Bool :=
  (pos != 0 && wordAt text ascii (pos - 1)) != wordAt text ascii pos

/-- The condition holds at a place. -/
def Anchor.holds (text : Array Char) (pos : Nat) : Anchor → Bool
  | textStart => pos == 0
  | textEnd => pos == text.size
  | lineStart => pos == 0 || text[pos - 1]? == some '\n'
  | lineEnd => pos == text.size || text[pos]? == some '\n'
  | lastLineEnd => pos == text.size || (pos + 1 == text.size && text[pos]? == some '\n')
  | wordEdge ascii => text.size != 0 && edgeAt text ascii pos
  | noWordEdge ascii => text.size != 0 && !edgeAt text ascii pos

/-- The characters from `b` to `e` stand at a place again. -/
def repeatedAt (text : Array Char) (fold : Fold) (b e pos : Nat) : Bool :=
  (List.range (e - b)).all fun i =>
    match text[b + i]?, text[pos + i]? with
    | some c, some d => fold.apply c.toNat == fold.apply d.toNat
    | _, _ => false

/-! ## Expressions -/

/-- The first way of matching an expression, and then what follows it; `looping` tells whether the
expression stands in a repetition. -/
def Expr.run (text : Array Char) (looping : Bool) : Expr → Step
  | empty, t, k => k t
  | char test, t, k =>
    match text[t.pos]? with
    | some c => if test.accepts c then k (t.moveTo (t.pos + 1)) else .error t.marks
    | none => .error t.marks
  | anchor a, t, k => if a.holds text t.pos then k t else .error t.marks
  | seq a b, t, k => a.run text looping t fun t' => b.run text looping t' k
  | alt a b, t, k =>
    match a.run text looping t k with
    | .ok r => .ok r
    | .error m =>
      match b.run text looping ⟨t.pos, t.marks.recover looping m⟩ k with
      | .ok r => .ok r
      | .error m => .error (t.marks.recover looping m)
  | group e, t, k => e.run text looping t k
  | capture n e, t, k =>
    e.run text looping (t.mark (Marks.opening n)) fun t' => k (t'.mark (Marks.closing n))
  | backref n fold, t, k =>
    match t.captured? n with
    | some (b, e) =>
      if repeatedAt text fold b e t.pos then k (t.moveTo (t.pos + (e - b))) else .error t.marks
    | none => .error t.marks
  | ahead negated e, t, k =>
    match e.run text looping t .ok with
    | .ok t' => if negated then .error t'.marks else k (t'.moveTo t.pos)
    | .error m => if negated then k ⟨t.pos, t.marks.recover looping m⟩ else .error m
  | behind negated w e, t, k =>
    if w.min ≤ t.pos then
      match e.run text looping (t.moveTo (t.pos - w.min)) .ok with
      | .ok t' => if negated then .error t'.marks else k (t'.moveTo t.pos)
      | .error m => if negated then k ⟨t.pos, t.marks.recover looping m⟩ else .error m
    else if negated then k t
    else .error t.marks
  | cond n yes no, t, k =>
    if (t.captured? n).isSome then yes.run text looping t k else no.run text looping t k
  | loop mode min max e, t, k =>
    match e.single? with
    | some test => repeatChar text looping mode min max test t k
    | none =>
      let inner := looping || mode != .possessive
      mode.turn looping (e.run text inner) min max k (min + (text.size - t.pos) + 2) 0 none t
  | atomic e, t, k =>
    match e.run text looping t .ok with
    | .ok t' => k t'
    | .error m => .error m

/-! ## Whole matches -/

/-- A match that begins at a place; an empty one is refused there if `advance` asks for it. -/
def matchAt (r : Regex) (text : Array Char) (start : Nat) (advance : Bool) : Option Trail :=
  let attempt := r.expr.run text false ⟨start, Marks.none r.groupCount⟩ fun t =>
    if advance && t.pos == start then .error t.marks else .ok t
  attempt.toOption

/-- A match may begin at a place. -/
def mayBeginAt (r : Regex) (text : Array Char) (pos : Nat) : Bool :=
  pos + r.least ≤ text.size &&
    match r.candidate, text[pos]? with
    | none, _ => true
    | some test, some c => test.accepts c
    | some _, none => false

/-- The first match at one of so many places from `start` on, and where it begins. -/
def searchFrom (r : Regex) (text : Array Char) (advance : Bool) :
    (places start : Nat) → Option (Nat × Trail)
  | 0, _ => none
  | places + 1, start =>
    match if r.mayBeginAt text start then r.matchAt text start advance else none with
    | some t => some (start, t)
    | none => r.searchFrom text false places (start + 1)

/-- Whether the expression matches anywhere in a text. -/
def occursIn (r : Regex) (s : String) : Bool :=
  let text := s.toList.toArray
  (r.searchFrom text false (text.size + 1) 0).isSome

end Treebank.Regex
