import Treebank.Text.Blank
import Treebank.Text.Quoted
import Treebank.Tree

/-!
# Reading bracketed trees

The text is split into brackets and words. The reader keeps the nodes whose closing bracket is still
to come, the innermost first; a node that has just been opened takes a directly following word as
its label.
-/

namespace Treebank.Tree

/-- A bracket, or a run of characters that are neither brackets nor blank. -/
inductive Token where
  | opening
  | closing
  | word (text : String)
deriving Repr, DecidableEq

namespace Token

/-- The characters of a token. -/
def text : Token → String
  | opening => "("
  | closing => ")"
  | word w => w

/-- The word collected so far, as a token before others. -/
def flush (word : List Char) (tokens : List Token) : List Token :=
  if word.isEmpty then tokens else .word (String.ofList word.reverse) :: tokens

/-- The tokens of a text before which the characters `word`, in reverse, stand. -/
def scanFrom (word : List Char) : List Char → List Token
  | [] => flush word []
  | c :: cs =>
    if c == '(' then flush word (.opening :: scanFrom [] cs)
    else if c == ')' then flush word (.closing :: scanFrom [] cs)
    else if Text.isBlank c then flush word (scanFrom [] cs)
    else scanFrom (c :: word) cs

/-- The tokens of a text. -/
def scan (text : List Char) : List Token := scanFrom [] text

end Token

/-- Why a text is no list of bracketed trees. -/
inductive ReadError where
  /-- The text ends right after an opening bracket. -/
  | endsAfterOpen
  /-- The text ends within a node. -/
  | neverClosed (label : String)
  /-- A token outside all brackets opens none. -/
  | expectedOpen (token : String) (index : Nat)
  /-- A single tree was asked for. -/
  | notOneTree (count : Nat)
deriving Repr, DecidableEq

/-- The wording of a fault. -/
def ReadError.message : ReadError → String
  | endsAfterOpen => "unbalanced parentheses: input ends after '('"
  | neverClosed label => s!"unbalanced parentheses: tree {Text.quoted label} is never closed"
  | expectedOpen token index => s!"expected '(' but found {Text.quoted token} at token {index}"
  | notOneTree count => s!"expected exactly one tree, found {count}"

/-- A node whose closing bracket is still to come: its label, unless the opening bracket was the
last token, and its children so far, the last first. -/
structure Frame where
  label : Option String
  children : List Tree

namespace Frame

/-- A node whose opening bracket was the last token. -/
def fresh : Frame := ⟨none, []⟩

/-- The node with one more child. -/
def push (f : Frame) (t : Tree) : Frame := ⟨some (f.label.getD ""), t :: f.children⟩

/-- The finished node. -/
def close (f : Frame) : Tree := node (f.label.getD "") f.children.reverse

/-- The fault of a text that ends here. -/
def endError (f : Frame) : ReadError :=
  match f.label with
  | none => .endsAfterOpen
  | some l => .neverClosed l

end Frame

/-- The trees of the tokens from number `index` on, below the nodes in `frames`, and the fault that
ends the reading, if there is one. -/
def readFrom (index : Nat) : List Frame → List Token → List Tree × Option ReadError
  | [], [] => ([], none)
  | f :: _, [] => ([], some f.endError)
  | [], .opening :: ts => readFrom (index + 1) [.fresh] ts
  | [], t :: _ => ([], some (.expectedOpen t.text index))
  | f :: fs, .opening :: ts =>
    readFrom (index + 1) (.fresh :: ⟨some (f.label.getD ""), f.children⟩ :: fs) ts
  | f :: fs, .word w :: ts =>
    match f.label with
    | none => readFrom (index + 1) (⟨some w, f.children⟩ :: fs) ts
    | some _ => readFrom (index + 1) (f.push (leaf w) :: fs) ts
  | [f], .closing :: ts =>
    let (trees, failure) := readFrom (index + 1) [] ts
    (f.close :: trees, failure)
  | f :: g :: fs, .closing :: ts => readFrom (index + 1) (g.push f.close :: fs) ts

/-- Every tree of a text up to the first fault, and that fault. -/
def readPrefix (text : String) : List Tree × Option ReadError :=
  readFrom 0 [] (Token.scan text.toList)

/-- Every tree of a text. -/
def readAll (text : String) : Except ReadError (List Tree) :=
  match readPrefix text with
  | (trees, none) => .ok trees
  | (_, some e) => .error e

/-- The only tree of a text. -/
def read (text : String) : Except ReadError Tree :=
  match readAll text with
  | .ok [t] => .ok t
  | .ok ts => .error (.notOneTree ts.length)
  | .error e => .error e

end Treebank.Tree
