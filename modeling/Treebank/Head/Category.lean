/-!
# Basic categories

A treebank label is a category, to which function tags and indices may be attached.
-/

namespace Treebank

/-- The part of a label that grammar rules speak of. -/
abbrev BasicCategory := String → String

namespace BasicCategory

/-- A character that attaches something to a category. -/
def isAttacher (c : Char) : Bool := ['-', '=', '|', '#', '^', '~', '_'].contains c

/-- A label up to the first attachment. A label that begins with an attaching character, such as
`-NONE-`, is a category as a whole. -/
def stripped : BasicCategory := fun label =>
  match label.toList with
  | [] => label
  | c :: cs =>
    if isAttacher c then label
    else String.ofList (c :: cs.takeWhile fun d => !isAttacher d)

/-- Every label is a category as a whole. -/
def whole : BasicCategory := fun label => label

end BasicCategory

end Treebank
