import Std.Data.HashSet.Lemmas
import Treebank.Search.Answers

/-!
# What a search gives, whatever is noted

Let `Hopeless` say of a question that it has no answer. A search that consults notes gives a list if
it gives this list however its consultations end, as long as only hopeless questions are noted, and
if it notes only hopeless questions itself. What the notes are, and whether they change between two
answers, then does not matter.
-/

namespace Treebank.Answers

variable {κ α β : Type} {Hopeless : κ → Prop}

/-- The search gives these answers, if only hopeless questions are noted. -/
inductive Gives (Hopeless : κ → Prop) : Answers κ α → List α → Prop where
  | done : Gives Hopeless done []
  | emit {a : α} {rest : Unit → Answers κ α} {as : List α} :
      Gives Hopeless (rest ()) as → Gives Hopeless (emit a rest) (a :: as)
  | consult {k : κ} {noted fresh : Unit → Answers κ α} {as : List α} :
      (Hopeless k → Gives Hopeless (noted ()) as) → Gives Hopeless (fresh ()) as →
      Gives Hopeless (consult k noted fresh) as
  | record {k : κ} {rest : Unit → Answers κ α} {as : List α} :
      Hopeless k → Gives Hopeless (rest ()) as → Gives Hopeless (record k rest) as

/-! ## Combined searches -/

theorem Gives.one (a : α) : Gives Hopeless (one a) [a] := .emit .done

theorem Gives.append {s : Answers κ α} {as bs : List α} (hs : Gives Hopeless s as)
    {next : Unit → Answers κ α} (hn : Gives Hopeless (next ()) bs) :
    Gives Hopeless (s.append next) (as ++ bs) := by
  induction hs with
  | done => exact hn
  | emit _ ih => exact .emit ih
  | consult _ _ ihn ihf => exact .consult ihn ihf
  | record hk _ ih => exact .record hk ih

theorem Gives.orElse {s : Answers κ α} {as bs : List α} (hs : Gives Hopeless s as)
    {other : Unit → Answers κ α} (ho : as = [] → Gives Hopeless (other ()) bs) :
    Gives Hopeless (s.orElse other) (if as.isEmpty then bs else as) := by
  induction hs with
  | done => exact ho rfl
  | emit hr _ => exact .emit hr
  | consult _ _ ihn ihf => exact .consult (fun hk => ihn hk ho) (ihf ho)
  | record hk _ ih => exact .record hk (ih ho)

theorem Gives.ifNone {s : Answers κ α} {as : List α} {bs : List β} (hs : Gives Hopeless s as)
    {next : Unit → Answers κ β} (hn : as = [] → Gives Hopeless (next ()) bs) :
    Gives Hopeless (s.ifNone next) (if as.isEmpty then bs else []) := by
  induction hs with
  | done => exact hn rfl
  | emit _ _ => exact .done
  | consult _ _ ihn ihf => exact .consult (fun hk => ihn hk hn) (ihf hn)
  | record hk _ ih => exact .record hk (ih hn)

theorem Gives.bind {s : Answers κ α} {as : List α} (hs : Gives Hopeless s as)
    {f : α → Answers κ β} {g : α → List β} (hf : ∀ a ∈ as, Gives Hopeless (f a) (g a)) :
    Gives Hopeless (s.bind f) (as.flatMap g) := by
  induction hs with
  | done => exact .done
  | emit _ ih =>
      rw [List.flatMap_cons]
      exact (hf _ List.mem_cons_self).append (ih fun a ha => hf a (List.mem_cons_of_mem _ ha))
  | consult _ _ ihn ihf => exact .consult (fun hk => ihn hk hf) (ihf hf)
  | record hk _ ih => exact .record hk (ih hf)

theorem Gives.flatMap {f : α → Answers κ β} {g : α → List β} (as : List α)
    (hf : ∀ a ∈ as, Gives Hopeless (f a) (g a)) :
    Gives Hopeless (flatMap f as) (as.flatMap g) := by
  induction as with
  | nil => exact .done
  | cons a as ih =>
      rw [List.flatMap_cons]
      exact (hf _ List.mem_cons_self).append (ih fun a ha => hf a (List.mem_cons_of_mem _ ha))

/-! ## Running a search -/

variable [BEq κ] [Hashable κ]

/-- Only hopeless questions are noted. -/
def Sound (Hopeless : κ → Prop) (notes : Std.HashSet κ) : Prop := ∀ k ∈ notes, Hopeless k

theorem sound_empty : Sound Hopeless (∅ : Std.HashSet κ) :=
  fun _ h => absurd h Std.HashSet.not_mem_empty

variable [LawfulBEq κ] [LawfulHashable κ] {notes : Std.HashSet κ}

theorem Sound.insert {k : κ} (h : Sound Hopeless notes) (hk : Hopeless k) :
    Sound Hopeless (notes.insert k) := by
  intro j hj
  rcases Std.HashSet.mem_insert.mp hj with hkj | hj
  · exact eq_of_beq hkj ▸ hk
  · exact h j hj

/-- A search taken to its end gives its answers, and the notes stay sound. -/
theorem Gives.toList {s : Answers κ α} {as : List α} (hs : Gives Hopeless s as)
    (hn : Sound Hopeless notes) :
    (s.toList notes).1 = as ∧ Sound Hopeless (s.toList notes).2 := by
  induction hs generalizing notes with
  | done => exact ⟨rfl, hn⟩
  | emit _ ih =>
      obtain ⟨has, hsound⟩ := ih hn
      exact ⟨congrArg _ has, hsound⟩
  | @consult k _ _ _ _ _ ihn ihf =>
      rw [Answers.toList]
      split
      · rename_i hk
        exact ihn (hn k hk) hn
      · exact ihf hn
  | record hk _ ih => exact ih (hn.insert hk)

/-- An outcome of looking for an answer that passes a test among these: there is none, or it is the
first that does, and the search goes on with the answers after it. -/
def Reaches (Hopeless : κ → Prop) (test : α → Bool) (as : List α) :
    Option (α × (Unit → Answers κ α)) → Prop
  | none => ∀ a ∈ as, test a = false
  | some (a, rest) => test a = true ∧ ∃ skipped bs, as = skipped ++ a :: bs ∧
      (∀ b ∈ skipped, test b = false) ∧ Gives Hopeless (rest ()) bs

omit [BEq κ] [Hashable κ] [LawfulBEq κ] [LawfulHashable κ] in
theorem Reaches.cons {test : α → Bool} {a : α} {as : List α} (ha : test a = false) :
    {outcome : Option (α × (Unit → Answers κ α))} → Reaches Hopeless test as outcome →
    Reaches Hopeless test (a :: as) outcome
  | none, h => by simpa [Reaches, ha] using h
  | some (b, rest), ⟨hb, skipped, bs, has, hskipped, hbs⟩ =>
      ⟨hb, a :: skipped, bs, congrArg _ has, by simpa [ha] using hskipped, hbs⟩

theorem Gives.next? {s : Answers κ α} {as : List α} (hs : Gives Hopeless s as) (test : α → Bool)
    (hn : Sound Hopeless notes) : Reaches Hopeless test as (s.next? test notes).1 ∧
      Sound Hopeless (s.next? test notes).2 := by
  induction hs generalizing notes with
  | done => exact ⟨nofun, hn⟩
  | @emit a rest as hr ih =>
      rw [Answers.next?]
      split
      · rename_i ha
        exact ⟨⟨ha, [], as, rfl, nofun, hr⟩, hn⟩
      · rename_i ha
        obtain ⟨hreach, hsound⟩ := ih hn
        exact ⟨hreach.cons (by simpa using ha), hsound⟩
  | @consult k _ _ _ _ _ ihn ihf =>
      rw [Answers.next?]
      split
      · rename_i hk
        exact ihn (hn k hk) hn
      · exact ihf hn
  | record hk _ ih => exact ih (hn.insert hk)

end Treebank.Answers
