import Treebank.Proofs.Basic
import Treebank.Regex.Reader

/-!
# Groups of expressions

Every step of reading keeps the groups counted: there are fewer of them than the limit, and names are
identifiers that stand for groups. Only the opening of a group adds to them, and it looks at the limit.
-/

namespace Treebank.Regex

open ReadM Text

/-- The groups opened so far are fewer than the limit, and a name is an identifier that stands for one
of them. -/
structure Reading.Counted (st : Reading) : Prop where
  few : st.widths.size < groupLimit
  named : ∀ name n, (name, n) ∈ st.names →
    isIdentifier name.toList = true ∧ n ≤ st.widths.size

/-- If it comes to its end, the program leaves the groups counted. -/
def Keeps {α : Type} (x : ReadM α) : Prop :=
  ∀ st a st', x.run st = .ok (a, st') → st.Counted → st'.Counted

variable {α β : Type} {x y : ReadM α} {k : α → ReadM β}

/-! ## Programs -/

theorem keeps_pure (a : α) : Keeps (pure a) := by
  rintro st _ _ ⟨⟩ hst
  exact hst

theorem keeps_throw (e : Error) : Keeps (throw e : ReadM α) := by
  intro st a st' h
  cases h

theorem keeps_throw_bind (e : Error) : Keeps ((throw e : ReadM α) >>= k) := by
  intro st b st' h
  cases h

theorem Keeps.bind (hx : Keeps x) (hk : ∀ a, Keeps (k a)) : Keeps (x >>= k) := by
  intro st b st' h hst
  rw [StateT.run_bind] at h
  obtain ⟨⟨a, st₁⟩, hfirst, hrest⟩ := exists_of_bind_eq_ok h
  exact hk a st₁ b st' hrest (hx st a st₁ hfirst hst)

theorem keeps_get : Keeps (get : ReadM Reading) := by
  rintro st _ _ ⟨⟩ hst
  exact hst

theorem keeps_modify {f : Reading → Reading} (hf : ∀ st : Reading, st.Counted → (f st).Counted) :
    Keeps (modify f : ReadM PUnit) := by
  rintro st _ _ ⟨⟩ hst
  exact hf st hst

theorem keeps_lift (x : Except Error α) : Keeps (liftM x : ReadM α) := by
  intro st a st' h hst
  cases x with
  | error e => cases h
  | ok a =>
      cases h
      exact hst

theorem keeps_fail (problem : Problem) (back : Nat) : Keeps (fail problem back : ReadM α) :=
  keeps_get.bind fun _ => keeps_throw _

theorem Keeps.ite {c : Prop} {_ : Decidable c} (hx : Keeps x) (hy : Keeps y) :
    Keeps (if c then x else y) := by
  split
  · exact hx
  · exact hy

/-- Two ways that lead on to the same. -/
theorem Keeps.iteBind {c : Prop} {_ : Decidable c} (hx : Keeps x) (hy : Keeps y)
    (hk : ∀ a, Keeps (k a)) : Keeps (if c then x >>= k else y >>= k) :=
  (hx.bind hk).ite (hy.bind hk)

theorem Keeps.guard {c : Prop} {_ : Decidable c} {x : ReadM PUnit} {k : PUnit → ReadM β}
    (hx : Keeps x) (hk : ∀ u, Keeps (k u)) : Keeps (if c then x >>= k else k ⟨⟩) :=
  (hx.bind hk).ite (hk ⟨⟩)

/-! ## Elements -/

theorem keeps_peek : Keeps peek := keeps_get.bind fun _ => keeps_pure _

theorem keeps_tell : Keeps tell := keeps_get.bind fun _ => keeps_pure _

/-- A fault whose place is counted from the place come to. -/
theorem Keeps.guardFrom {c : Prop} {_ : Decidable c} {problem : Problem} {back : Nat → Nat}
    {k : PUnit → ReadM β} (hk : ∀ u, Keeps (k u)) :
    Keeps (if c then tell >>= fun here => fail problem (back here) >>= k else k ⟨⟩) :=
  (keeps_tell.bind fun _ => (keeps_fail _ _).bind hk).ite (hk ⟨⟩)

theorem keeps_moveTo (s : Scanner) : Keeps (moveTo s) := keeps_modify fun _ h => ⟨h.few, h.named⟩

theorem keeps_take : Keeps take :=
  keeps_get.bind fun _ => (keeps_lift _).bind fun _ => (keeps_moveTo _).bind fun _ => keeps_pure _

theorem keeps_accept (c : Char) : Keeps (accept c) := by
  refine keeps_get.bind fun _ => (keeps_lift _).bind fun out => ?_
  cases out with
  | none => exact keeps_pure _
  | some s => exact (keeps_moveTo s).bind fun _ => keeps_pure _

theorem keeps_takeUpTo (n : Nat) (test : Char → Bool) : Keeps (takeUpTo n test) :=
  keeps_get.bind fun _ => (keeps_lift _).bind fun _ => (keeps_moveTo _).bind fun _ => keeps_pure _

theorem keeps_takeName (closer : Char) (what : String) : Keeps (takeName closer what) :=
  keeps_get.bind fun _ => (keeps_lift _).bind fun _ => (keeps_moveTo _).bind fun _ => keeps_pure _

theorem keeps_nextPasses (test : Char → Bool) : Keeps (nextPasses test) := by
  refine keeps_peek.bind fun next => ?_
  split <;> exact keeps_pure _

theorem keeps_openedGroups : Keeps openedGroups := keeps_get.bind fun _ => keeps_pure _

theorem keeps_groupWidth : Keeps groupWidth := keeps_get.bind fun _ => keeps_pure _

theorem keeps_isClosed (number : Nat) : Keeps (isClosed number) :=
  keeps_get.bind fun _ => keeps_pure _

theorem keeps_checkLookbehind (number : Nat) : Keeps (checkLookbehind number) := by
  refine keeps_get.bind fun st => ?_
  split
  · exact keeps_pure _
  · refine (keeps_isClosed number).bind fun _ => ?_
    exact Keeps.guard (keeps_fail _ _) fun _ => (keeps_fail _ _).ite (keeps_pure _)

/-! ## Escapes and character sets -/

theorem keeps_readHexEscape (letter : Char) (width : Nat) : Keeps (readHexEscape letter width) := by
  refine (keeps_takeUpTo _ _).bind fun digits => Keeps.guard (keeps_fail _ _) fun _ => ?_
  refine Keeps.guard (keeps_throw _) fun _ => ?_
  exact Keeps.guard (keeps_fail _ _) fun _ => keeps_pure _

theorem keeps_readNamedEscape : Keeps readNamedEscape := by
  refine (keeps_accept _).bind fun _ => Keeps.guard (keeps_fail _ _) fun _ => ?_
  refine (keeps_takeName _ _).bind fun name => ?_
  split
  · exact keeps_pure _
  · exact keeps_fail _ _

theorem keeps_octalCode (digits : List Char) : Keeps (octalCode digits) :=
  Keeps.guard (keeps_fail _ _) fun _ => keeps_pure _

theorem keeps_readOtherEscape (c : Char) : Keeps (readOtherEscape c) :=
  Keeps.guard (keeps_fail _ _) fun _ => keeps_pure _

theorem keeps_readNumberEscape (flags : Flags) (c : Char) : Keeps (readNumberEscape flags c) := by
  have hgroup (digits : List Char) : Keeps (do
      let number := readDigits 10 decimalValue? digits
      if number ≤ (← openedGroups) then
        if !(← isClosed number) then fail .openGroup (digits.length + 1)
        checkLookbehind number
        return .backref number flags.fold
      fail (.invalidGroup number) digits.length : ReadM Expr) := by
    refine keeps_openedGroups.bind fun _ => Keeps.ite ?_ (keeps_fail _ _)
    refine (keeps_isClosed _).bind fun _ => Keeps.guard (keeps_fail _ _) fun _ => ?_
    exact (keeps_checkLookbehind _).bind fun _ => keeps_pure _
  refine (keeps_takeUpTo _ _).bind fun second => ?_
  split
  · refine (keeps_nextPasses _).bind fun _ => Keeps.ite ?_ (hgroup _)
    exact (keeps_takeUpTo _ _).bind fun _ => (keeps_octalCode _).bind fun _ => keeps_pure _
  · exact hgroup _

theorem keeps_readEscape (flags : Flags) (c : Char) : Keeps (readEscape flags c) := by
  have hcode {x : ReadM Nat} (hx : Keeps x) : Keeps (do return literal flags (← x)) :=
    hx.bind fun _ => keeps_pure _
  unfold readEscape
  split
  · exact keeps_pure _
  · split
    · exact keeps_pure _
    · split
      · exact keeps_pure _
      · refine (hcode (keeps_readHexEscape _ _)).ite ?_
        refine (hcode (keeps_readHexEscape _ _)).ite ?_
        refine (hcode (keeps_readHexEscape _ _)).ite ?_
        refine (hcode keeps_readNamedEscape).ite ?_
        refine ((keeps_takeUpTo _ _).bind fun _ => keeps_pure _).ite ?_
        exact (keeps_readNumberEscape _ _).ite (hcode (keeps_readOtherEscape _))

theorem keeps_readSetEscape (ascii : Bool) (c : Char) : Keeps (readSetEscape ascii c) := by
  have hcode {x : ReadM Nat} (hx : Keeps x) : Keeps (do return SetItem.code (← x)) :=
    hx.bind fun _ => keeps_pure _
  unfold readSetEscape
  split
  · exact keeps_pure _
  · split
    · exact keeps_pure _
    · refine (hcode (keeps_readHexEscape _ _)).ite ?_
      refine (hcode (keeps_readHexEscape _ _)).ite ?_
      refine (hcode (keeps_readHexEscape _ _)).ite ?_
      refine (hcode keeps_readNamedEscape).ite ?_
      refine ((keeps_takeUpTo _ _).bind fun _ => hcode (keeps_octalCode _)).ite ?_
      exact Keeps.guard (keeps_fail _ _) fun _ => hcode (keeps_readOtherEscape _)

theorem keeps_readSetMember (ascii : Bool) (e : Element) : Keeps (readSetMember ascii e) := by
  cases e with
  | escape c => exact keeps_readSetEscape _ _
  | plain c => exact keeps_pure _

theorem keeps_readSetItems (ascii : Bool) (start fuel : Nat) (items : List SetItem) :
    Keeps (readSetItems ascii start fuel items) := by
  have hend : Keeps (do fail .unterminatedSet ((← tell) - start) : ReadM (List SetItem)) :=
    keeps_tell.bind fun _ => keeps_fail _ _
  induction fuel generalizing items with
  | zero => exact keeps_fail _ _
  | succ fuel ih =>
      refine keeps_take.bind fun next => ?_
      split
      · refine (keeps_pure _).ite ?_
        refine (keeps_readSetMember _ _).bind fun _ => (keeps_accept _).bind fun _ => (ih _).ite ?_
        refine keeps_take.bind fun that => ?_
        split
        · refine (keeps_pure _).ite ((keeps_readSetMember _ _).bind fun _ => ?_)
          split
          · exact (keeps_fail _ _).ite (ih _)
          · exact keeps_fail _ _
        · exact hend
      · exact hend

theorem keeps_readSet (flags : Flags) : Keeps (readSet flags) := by
  refine keeps_tell.bind fun _ => (keeps_accept _).bind fun _ => keeps_get.bind fun _ => ?_
  refine (keeps_readSetItems _ _ _ _).bind fun items => ?_
  dsimp only
  split <;> exact keeps_pure _

/-! ## Repetitions -/

theorem keeps_turnCount (digits : List Char) : Keeps (turnCount digits) := by
  unfold turnCount
  split
  · exact keeps_throw _
  · exact Keeps.guard (keeps_throw _) fun _ => keeps_pure _

theorem keeps_readTurns : Keeps readTurns := by
  refine keeps_get.bind fun st => keeps_tell.bind fun here => keeps_peek.bind fun _ => ?_
  refine (keeps_pure _).ite ((keeps_takeUpTo _ _).bind fun lo => ?_)
  have hrest (hi : List Char) : Keeps (do
      if !(← accept '\x7d') then
        moveTo st.scanner
        return none
      let min ← if lo.isEmpty then pure 0 else turnCount lo
      if hi.isEmpty then return some (min, none)
      let max ← turnCount hi
      if max < min then fail .minAboveMax ((← tell) - here)
      return some (min, some max)) := by
    refine (keeps_accept _).bind fun _ => ((keeps_moveTo _).bind fun _ => keeps_pure _).ite ?_
    refine Keeps.iteBind (keeps_pure _) (keeps_turnCount _) fun min => (keeps_pure _).ite ?_
    exact (keeps_turnCount _).bind fun max => Keeps.guardFrom fun _ => keeps_pure _
  refine (keeps_accept _).bind fun _ => ?_
  exact Keeps.iteBind (keeps_takeUpTo _ _) (keeps_pure _) hrest

theorem keeps_readMode : Keeps readMode := by
  refine (keeps_accept _).bind fun _ => (keeps_pure _).ite ?_
  exact (keeps_accept _).bind fun _ => (keeps_pure _).ite (keeps_pure _)

theorem keeps_readLoop (here : Nat) (turns : Nat × Option Nat) (parts : List Part) :
    Keeps (readLoop here turns parts) := by
  unfold readLoop
  split
  · exact keeps_tell.bind fun _ => keeps_fail _ _
  · refine Keeps.guardFrom fun _ => Keeps.guardFrom fun _ => ?_
    exact keeps_readMode.bind fun _ => keeps_pure _

/-! ## Beginnings of groups -/

theorem keeps_flagFault (e : Element) (what : String) : Keeps (flagFault e what : ReadM α) := by
  cases e <;> exact keeps_fail _ _

theorem keeps_readFlagsOn (fuel : Nat) (letter : Char) (on : List Char) :
    Keeps (readFlagsOn fuel letter on) := by
  induction fuel generalizing letter on with
  | zero => exact keeps_fail _ _
  | succ fuel ih =>
      rw [readFlagsOn]
      refine Keeps.guard (keeps_fail _ _) fun _ => ?_
      refine Keeps.guard (keeps_fail _ _) fun _ => keeps_take.bind fun next => ?_
      split
      · split
        · exact (keeps_pure _).ite ((ih _ _).ite (keeps_flagFault _ _))
        · exact keeps_flagFault _ _
      · exact keeps_fail _ _

theorem keeps_readFlagsOff (fuel : Nat) (letter : Char) (off : List Char) :
    Keeps (readFlagsOff fuel letter off) := by
  induction fuel generalizing letter off with
  | zero => exact keeps_fail _ _
  | succ fuel ih =>
      rw [readFlagsOff]
      refine Keeps.guard (keeps_fail _ _) fun _ => keeps_take.bind fun next => ?_
      split
      · split
        · exact (keeps_pure _).ite ((ih _ _).ite (keeps_flagFault _ _))
        · exact keeps_flagFault _ _
      · exact keeps_fail _ _

theorem keeps_readFlags (first : Char) : Keeps (readFlags first) := by
  refine keeps_get.bind fun _ => ?_
  refine Keeps.iteBind (keeps_pure _) (keeps_readFlagsOn _ _ _) fun (on, sign) => ?_
  refine Keeps.ite ((keeps_modify ?_).bind fun _ => keeps_pure _) ?_
  · exact fun _ hst => ⟨hst.few, hst.named⟩
  refine Keeps.guard (keeps_fail _ _) fun _ => (keeps_pure _).ite (keeps_take.bind fun next => ?_)
  have hoff (off : List Char) : Keeps (do
      if off.contains 't' then fail .globalFlagOff 1
      if on.any off.contains then fail .flagOnAndOff 1
      return some (on, off)) :=
    Keeps.guard (keeps_fail _ _) fun _ => Keeps.guard (keeps_fail _ _) fun _ => keeps_pure _
  split
  · split
    · exact Keeps.iteBind (keeps_readFlagsOff _ _ _) (keeps_flagFault _ _) hoff
    · exact (keeps_flagFault _ _).bind hoff
  · exact keeps_fail _ _

/-- After the check the name is known to be an identifier. -/
theorem keeps_checkGroupName_bind {name : List Char} {k : PUnit → ReadM α}
    (hk : isIdentifier name = true → Keeps (k ⟨⟩)) : Keeps (checkGroupName name >>= k) := by
  unfold checkGroupName
  cases hname : isIdentifier name with
  | true => exact hk hname
  | false =>
      intro st a st' h
      cases h

theorem keeps_namedGroup (name : List Char) : Keeps (namedGroup name) := by
  refine keeps_get.bind fun st => ?_
  split
  · exact keeps_pure _
  · exact keeps_fail _ _

theorem keeps_readNamedReference : Keeps readNamedReference := by
  refine (keeps_accept _).bind fun _ => Keeps.ite ?_ ?_
  · refine (keeps_takeName _ _).bind fun name => keeps_checkGroupName_bind fun _ => ?_
    refine (keeps_namedGroup name).bind fun number => (keeps_isClosed number).bind fun _ => ?_
    refine Keeps.guard (keeps_fail _ _) fun _ => ?_
    exact (keeps_checkLookbehind number).bind fun _ => keeps_pure _
  · refine keeps_take.bind fun next => ?_
    split <;> exact keeps_fail _ _

theorem keeps_readCondGroup : Keeps readCondGroup := by
  have hgroup (group : Nat) : Keeps (do checkLookbehind group; return group) :=
    (keeps_checkLookbehind group).bind fun _ => keeps_pure _
  refine (keeps_takeName _ _).bind fun name => Keeps.ite ((keeps_namedGroup name).bind hgroup) ?_
  split
  · refine Keeps.guard (keeps_fail _ _) fun _ => Keeps.guard (keeps_fail _ _) fun _ => ?_
    refine keeps_tell.bind fun _ => (keeps_modify fun st hst => ?_).bind fun _ => ?_
    · split
      · exact hst
      · exact ⟨hst.few, hst.named⟩
    · exact (keeps_pure _).bind hgroup
  · exact (keeps_fail _ _).bind hgroup

theorem keeps_skipComment (start fuel : Nat) : Keeps (skipComment start fuel) := by
  induction fuel with
  | zero => exact keeps_pure _
  | succ fuel ih =>
      refine keeps_peek.bind fun next => Keeps.guardFrom fun _ => keeps_take.bind fun this => ?_
      split
      · exact keeps_pure _
      · exact ih

theorem keeps_skipLine (fuel : Nat) : Keeps (skipLine fuel) := by
  induction fuel with
  | zero => exact keeps_pure _
  | succ fuel ih =>
      refine keeps_take.bind fun next => ?_
      split
      · exact keeps_pure _
      · exact keeps_pure _
      · exact ih

theorem keeps_closeBracket (start : Nat) : Keeps (closeBracket start) :=
  (keeps_accept _).bind fun _ =>
    (keeps_tell.bind fun _ => keeps_fail _ _).ite (keeps_pure _)

/-! ## Capturing groups -/

/-- A capturing group is opened only below the limit. -/
theorem opened_of_openCapture {name : Option (List Char)} {st st' : Reading} {number : Nat}
    (h : (openCapture name).run st = .ok (number, st')) :
    st.widths.size + 1 < groupLimit ∧ st'.widths = st.widths.push none ∧
      (st'.names = st.names ∨
        ∃ cs, name = some cs ∧ st'.names = st.names ++ [(String.ofList cs, st.widths.size + 1)]) := by
  by_cases hmany : st.widths.size + 1 ≥ groupLimit
  · exfalso
    cases name <;>
      simp only [openCapture, openedGroups, bind_assoc, pure_bind, StateT.run_bind, StateT.run_get,
        StateT.run_modify, hmany, if_true] at h <;>
      cases h
  · refine ⟨Nat.lt_of_not_ge hmany, ?_⟩
    cases name with
    | none =>
        simp only [openCapture, openedGroups, bind_assoc, pure_bind, StateT.run_bind, StateT.run_get,
          StateT.run_modify, hmany, if_false] at h
        cases h
        exact ⟨rfl, Or.inl rfl⟩
    | some cs =>
        simp only [openCapture, openedGroups, bind_assoc, pure_bind, StateT.run_bind, StateT.run_get,
          StateT.run_modify, hmany, if_false] at h
        split at h
        · cases h
        · cases h
          exact ⟨rfl, Or.inr ⟨cs, rfl, rfl⟩⟩

theorem keeps_openCapture {name : Option (List Char)}
    (hname : ∀ cs, name = some cs → isIdentifier cs = true) : Keeps (openCapture name) := by
  rintro st number st' hrun hst
  obtain ⟨hfew, hwidths, hnames⟩ := opened_of_openCapture hrun
  have hsize : st'.widths.size = st.widths.size + 1 := by rw [hwidths, Array.size_push]
  have hold : ∀ n k, (n, k) ∈ st.names → isIdentifier n.toList = true ∧ k ≤ st'.widths.size := by
    intro n k hmem
    obtain ⟨hn, hk⟩ := hst.named n k hmem
    exact ⟨hn, hsize ▸ Nat.le_succ_of_le hk⟩
  refine ⟨hsize ▸ hfew, fun n k hmem => ?_⟩
  rcases hnames with hnames | ⟨cs, hcs, hnames⟩
  · exact hold n k (hnames ▸ hmem)
  · rw [hnames, List.mem_append, List.mem_singleton] at hmem
    rcases hmem with hmem | heq
    · exact hold n k hmem
    · cases heq
      rw [String.toList_ofList]
      exact ⟨hname cs hcs, Nat.le_of_eq hsize.symm⟩

/-! ## Whole expressions -/

/-- Reading with so much fuel leaves the groups counted. -/
structure KeepsWithin (fuel : Nat) : Prop where
  alternatives (top : Bool) (flags : Flags) : Keeps (readAlternatives top fuel flags)
  branches (top : Bool) (flags : Flags) : Keeps (readBranches top fuel flags)
  items (atStart : Bool) (flags : Flags) (parts : List Part) :
    Keeps (readItems atStart fuel flags parts)
  group (start : Nat) (flags : Flags) : Keeps (readGroup start fuel flags)
  capture (start : Nat) (flags : Flags) (name : Option (List Char)) :
    (∀ cs, name = some cs → isIdentifier cs = true) → Keeps (readCapture start fuel flags name)

variable {fuel : Nat}

theorem KeepsWithin.alternatives_succ (h : KeepsWithin fuel) (top : Bool) (flags : Flags) :
    Keeps (readAlternatives top (fuel + 1) flags) :=
  (h.items _ _ _).bind fun _ => (h.branches _ _).bind fun _ => keeps_get.bind fun _ => keeps_pure _

theorem KeepsWithin.branches_succ (h : KeepsWithin fuel) (top : Bool) (flags : Flags) :
    Keeps (readBranches top (fuel + 1) flags) := by
  refine (keeps_accept _).bind fun _ => (keeps_pure _).ite (keeps_get.bind fun _ => ?_)
  exact (h.items _ _ _).bind fun _ => (h.branches _ _).bind fun _ => keeps_pure _

theorem KeepsWithin.group_succ (h : KeepsWithin fuel) (start : Nat) (flags : Flags) :
    Keeps (readGroup start (fuel + 1) flags) :=
  (h.alternatives _ _).bind fun _ => (keeps_closeBracket _).bind fun _ => keeps_pure _

theorem KeepsWithin.capture_succ (h : KeepsWithin fuel) (start : Nat) (flags : Flags)
    (name : Option (List Char)) (hname : ∀ cs, name = some cs → isIdentifier cs = true) :
    Keeps (readCapture start (fuel + 1) flags name) := by
  refine (keeps_openCapture hname).bind fun number => (h.alternatives _ _).bind fun _ => ?_
  refine (keeps_closeBracket _).bind fun _ => keeps_groupWidth.bind fun _ => ?_
  refine (keeps_modify fun st hst => ?_).bind fun _ => keeps_pure _
  exact ⟨by simpa using hst.few, by simpa using hst.named⟩

theorem KeepsWithin.items_succ (h : KeepsWithin fuel) (atStart : Bool) (flags : Flags)
    (parts : List Part) : Keeps (readItems atStart (fuel + 1) flags parts) := by
  refine keeps_peek.bind fun next => ?_
  split
  · refine (keeps_pure _).ite (keeps_take.bind fun _ => ?_)
    split
    · exact (keeps_readEscape _ _).bind fun _ => h.items _ _ _
    · refine keeps_get.bind fun _ => (h.items _ _ _).ite ?_
      refine ((keeps_skipLine _).bind fun _ => h.items _ _ _).ite ?_
      split
      · exact (keeps_readSet _).bind fun _ => h.items _ _ _
      · exact h.items _ _ _
      · exact h.items _ _ _
      · exact h.items _ _ _
      · exact keeps_tell.bind fun _ => (keeps_readLoop _ _ _).bind fun _ => h.items _ _ _
      · exact keeps_tell.bind fun _ => (keeps_readLoop _ _ _).bind fun _ => h.items _ _ _
      · exact keeps_tell.bind fun _ => (keeps_readLoop _ _ _).bind fun _ => h.items _ _ _
      · refine keeps_tell.bind fun _ => keeps_readTurns.bind fun turns => ?_
        split
        · exact (keeps_readLoop _ _ _).bind fun _ => h.items _ _ _
        · exact h.items _ _ _
      · refine keeps_tell.bind fun _ => (keeps_accept _).bind fun _ => Keeps.ite ?_ ?_
        · refine keeps_take.bind fun sign => ?_
          split
          -- the signs in the order in which the reader looks for them
          · split
            · exact (h.group _ _).bind fun _ => h.items _ _ _
            · exact (h.group _ _).bind fun _ => h.items _ _ _
            · refine (keeps_accept _).bind fun _ => Keeps.ite ?_ ?_
              · refine (keeps_takeName _ _).bind fun name => keeps_checkGroupName_bind fun hname => ?_
                refine (h.capture _ _ _ ?_).bind fun _ => h.items _ _ _
                rintro _ ⟨⟩
                exact hname
              · exact keeps_readNamedReference.bind fun _ => h.items _ _ _
            · exact (keeps_skipComment _ _).bind fun _ => h.items _ _ _
            · exact (h.group _ _).bind fun _ => h.items _ _ _
            · exact (h.group _ _).bind fun _ => h.items _ _ _
            · refine keeps_take.bind fun kind => ?_
              split
              · refine Keeps.guard (keeps_fail _ _) fun _ => keeps_get.bind fun _ => ?_
                refine keeps_openedGroups.bind fun _ => (keeps_modify ?_).bind fun _ => ?_
                · exact fun _ hst => ⟨hst.few, hst.named⟩
                refine (h.alternatives _ _).bind fun _ => (keeps_modify ?_).bind fun _ => ?_
                · exact fun _ hst => ⟨hst.few, hst.named⟩
                refine (keeps_closeBracket _).bind fun _ => keeps_groupWidth.bind fun _ => ?_
                exact h.items _ _ _
              · exact keeps_fail _ _
            · refine keeps_readCondGroup.bind fun _ => (h.items _ _ _).bind fun _ => ?_
              refine (keeps_accept _).bind fun _ => Keeps.iteBind (h.items _ _ _) (keeps_pure _) ?_
              refine fun _ => keeps_peek.bind fun _ => Keeps.guard (keeps_fail _ _) fun _ => ?_
              exact (keeps_closeBracket _).bind fun _ => h.items _ _ _
            · refine Keeps.ite ((keeps_readFlags _).bind fun out => ?_) (keeps_fail _ _)
              split
              · exact Keeps.guardFrom fun _ => keeps_get.bind fun _ => h.items _ _ _
              · exact (h.group _ _).bind fun _ => h.items _ _ _
            · exact keeps_fail _ _
          · exact keeps_fail _ _
        · refine (h.capture _ _ _ ?_).bind fun _ => h.items _ _ _
          exact nofun
      · exact h.items _ _ _
  · exact keeps_pure _

theorem keepsWithin (fuel : Nat) : KeepsWithin fuel := by
  induction fuel with
  | zero =>
      exact ⟨fun _ _ => keeps_fail _ _, fun _ _ => keeps_fail _ _, fun _ _ _ => keeps_fail _ _,
        fun _ _ => keeps_fail _ _, fun _ _ _ _ => keeps_fail _ _⟩
  | succ fuel ih =>
      exact ⟨ih.alternatives_succ, ih.branches_succ, ih.items_succ, ih.group_succ, ih.capture_succ⟩

theorem keeps_readWhole (fuel : Nat) : Keeps (readWhole fuel) := by
  refine ((keepsWithin fuel).alternatives _ _).bind fun _ => keeps_get.bind fun st => ?_
  refine Keeps.guard (keeps_throw _) fun _ => Keeps.guard (keeps_fail _ _) fun _ => ?_
  dsimp only
  split
  · exact keeps_throw_bind _
  · split
    · exact keeps_throw _
    · exact Keeps.guard (keeps_throw _) fun _ => keeps_pure _

/-- The groups are fewer than the limit, and names are identifiers that stand for them. -/
structure Numbered (r : Regex) : Prop where
  few : r.groupCount < groupLimit
  named : ∀ name n, r.groupNames.lookup name = some n →
    isIdentifier name.toList = true ∧ n ≤ r.groupCount

theorem numbered_of_parse {source : String} {r : Regex} (h : parse source = .ok r) :
    r.Numbered := by
  simp only [parse] at h
  obtain ⟨scanner, _, h⟩ := exists_of_bind_eq_ok h
  obtain ⟨⟨e, st⟩, hrun, h⟩ := exists_of_bind_eq_ok h
  cases h
  have hst : st.Counted :=
    keeps_readWhole _ _ _ _ hrun ⟨Nat.zero_lt_succ _, fun _ _ hmem => absurd hmem List.not_mem_nil⟩
  refine ⟨hst.few, fun name n hn => hst.named name n ?_⟩
  obtain ⟨before, after, hnames, _⟩ := List.lookup_eq_some_iff.mp hn
  rw [show st.names = _ from hnames]
  simp

end Treebank.Regex
