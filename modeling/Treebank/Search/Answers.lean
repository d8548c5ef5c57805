import Std.Data.HashSet

/-!
# Answers found one at a time

A search gives its answers one after the other and can be left at any point. On its way it may ask
whether a question is known to have no answer, and may note that one has none. What has been noted
is kept outside the search, so that it can serve later ones.
-/

namespace Treebank

/-- The answers of a search, with the notes it takes. -/
inductive Answers (κ α : Type) where
  | done
  | emit (a : α) (rest : Unit → Answers κ α)
  /-- Goes on in one way if the question is noted as one without answers, in another if not. -/
  | consult (k : κ) (noted fresh : Unit → Answers κ α)
  /-- Notes that the question has no answer. -/
  | record (k : κ) (rest : Unit → Answers κ α)

namespace Answers

variable {κ α β : Type}

/-- A single answer. -/
def one (a : α) : Answers κ α := emit a fun _ => done

/-- The answers of a search, then those of another. -/
def append : Answers κ α → (Unit → Answers κ α) → Answers κ α
  | done, next => next ()
  | emit a rest, next => emit a fun _ => (rest ()).append next
  | consult k noted fresh, next =>
    consult k (fun _ => (noted ()).append next) fun _ => (fresh ()).append next
  | record k rest, next => record k fun _ => (rest ()).append next

/-- The answers of a search, or those of another if there are none. -/
def orElse : Answers κ α → (Unit → Answers κ α) → Answers κ α
  | done, other => other ()
  | emit a rest, _ => emit a rest
  | consult k noted fresh, other =>
    consult k (fun _ => (noted ()).orElse other) fun _ => (fresh ()).orElse other
  | record k rest, other => record k fun _ => (rest ()).orElse other

/-- Another search if this one has no answer, and none if it has one. -/
def ifNone : Answers κ α → (Unit → Answers κ β) → Answers κ β
  | done, next => next ()
  | emit _ _, _ => done
  | consult k noted fresh, next =>
    consult k (fun _ => (noted ()).ifNone next) fun _ => (fresh ()).ifNone next
  | record k rest, next => record k fun _ => (rest ()).ifNone next

/-- The searches that the answers lead to, one after the other. -/
def bind : Answers κ α → (α → Answers κ β) → Answers κ β
  | done, _ => done
  | emit a rest, f => (f a).append fun _ => (rest ()).bind f
  | consult k noted fresh, f =>
    consult k (fun _ => (noted ()).bind f) fun _ => (fresh ()).bind f
  | record k rest, f => record k fun _ => (rest ()).bind f

/-- The searches for the members of a list, one after the other. -/
def flatMap (f : α → Answers κ β) : List α → Answers κ β
  | [] => done
  | x :: xs => (f x).append fun _ => flatMap f xs

variable [BEq κ] [Hashable κ]

/-- The first answer that passes a test, with the search for further ones, and the notes taken. -/
def next? (test : α → Bool) : Answers κ α → Std.HashSet κ →
    Option (α × (Unit → Answers κ α)) × Std.HashSet κ
  | done, notes => (none, notes)
  | emit a rest, notes => if test a then (some (a, rest), notes) else (rest ()).next? test notes
  | consult k noted fresh, notes =>
    if notes.contains k then (noted ()).next? test notes else (fresh ()).next? test notes
  | record k rest, notes => (rest ()).next? test (notes.insert k)

/-- All answers, given the notes at the beginning. -/
def toList : Answers κ α → Std.HashSet κ → List α × Std.HashSet κ
  | done, notes => ([], notes)
  | emit a rest, notes =>
    let (as, notes) := (rest ()).toList notes
    (a :: as, notes)
  | consult k noted fresh, notes =>
    if notes.contains k then (noted ()).toList notes else (fresh ()).toList notes
  | record k rest, notes => (rest ()).toList (notes.insert k)

end Answers

end Treebank
