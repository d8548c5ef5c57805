import Treebank.Diagnostic
import Treebank.Proofs.Search.Reports
import Treebank.Proofs.Search.SurelyBound
import Treebank.Proofs.Statement.Reading
import Treebank.Proofs.Surgery.Failures
import Treebank.Proofs.Surgery.Run

/-!
# How accepted statements fail

A statement that has been read fails, in a sound state, only for a reason that is reported with its
place, and to change a label by an expression only for the size of an octal escape. If moreover every
name that it uses is surely bound by the pattern, or introduced by a statement before it, then it never
comes upon a name that stands for nothing.
-/

namespace Treebank

open Surgery

namespace Surgery

variable {s : State} {e : Error}

/-! ## Reported failures -/

theorem Tame.due {α : Type} {x : Surgery α} {Q : α → State → Prop} {L : Prop} {names : List String}
    (h : Tame L names s x Q) (he : (runFrom s x).1 = .error e) : e.Due L names s := by
  rw [Tame] at h
  split at h
  · rename_i hrun
    rw [hrun] at he
    cases he
  · rename_i hrun
    rw [hrun] at he
    cases he
    exact h

/-- A failure that may be expected, and that has its reason, is reported with its place unless it is a
fault of numbers. -/
theorem Error.Due.isPlaced {L : Prop} {names : List String} (h : e.Due L names s)
    (hexpected : e.Expected) : (Fault.surgery e).isPlaced = true ∨ L ∧ ∃ f, e = .badIndex f := by
  cases e with
  | badIndex f => exact Or.inr ⟨h, f, rfl⟩
  | footless => exact h.elim
  | unknownGroup g => exact h.elim
  | refused r => exact hexpected.elim
  | endless => exact hexpected.elim
  | _ => exact Or.inl rfl

/-- After any statements that have been read, failed ones among them, the next one succeeds or fails
for a reason that is reported with its place. The exception is a coindexing in a tree with an index
of as many digits as a number may have, or more. -/
theorem State.isPlaced_of_next_error (hs : s.Sound) (sts : List Statement) (st : Statement)
    (hsts : ∀ x ∈ sts ++ [st], (∃ text, Statement.read text = .ok x) ∧ x.Separate)
    (he : (runFrom (s.run sts) st.apply).1 = .error e) :
    (Fault.surgery e).isPlaced = true ∨
      (s.run sts).HasLongIndex ∧ ∃ f, e = .badIndex f := by
  obtain ⟨hbefore, hst⟩ := List.forall_mem_append.mp hsts
  obtain ⟨⟨text, hread⟩, hseparate⟩ := hst st (List.mem_singleton_self st)
  have hsound := hs.run sts fun x hx => (hbefore x hx).2
  have hdue := (st.apply_tame (s.run sts) (Statement.checked_of_read hread)).due he
  exact hdue.isPlaced ((st.apply_meets hsound hseparate).expected he)

/-- A node that has been deleted is cut out by its name. -/
theorem State.isPlaced_of_excise_deleted :
    let t := Tree.node "S" [.node "NP" [.node "dog" []]]
    let s := State.start t [("np", ⟨.node "NP" [.node "dog" []], [(0, t)]⟩)]
    let deletion := Statement.delete ["np"]
    let excision := Statement.excise "np" "np"
    Statement.read "delete np" = .ok deletion ∧ Statement.read "excise np np" = .ok excision ∧
      (runFrom (s.run [deletion]) excision.apply).1 = .error (.cutOff "np") ∧
      ((Fault.surgery (.cutOff "np")).isPlaced = true ∨
        (s.run [deletion]).HasLongIndex ∧ ∃ f, Error.cutOff "np" = .badIndex f) := by
  intro t s deletion excision
  have hdeletion : Statement.read "delete np" = .ok deletion := by decide +kernel
  have hexcision : Statement.read "excise np np" = .ok excision := by decide +kernel
  have hfailure : (runFrom (s.run [deletion]) excision.apply).1 = .error (.cutOff "np") := rfl
  refine ⟨hdeletion, hexcision, hfailure, ?_⟩
  refine State.isPlaced_of_next_error (State.sound_start t _) [deletion] excision ?_ hfailure
  intro x hx
  simp only [List.cons_append, List.nil_append, List.mem_cons, List.not_mem_nil, or_false] at hx
  rcases hx with rfl | rfl
  · exact ⟨⟨_, hdeletion⟩, trivial⟩
  · exact ⟨⟨_, hexcision⟩, trivial⟩

/-! ## Replacement texts -/

theorem runFrom_substitution {name : String} {n : NodeId} (r : Regex) (replacement : String)
    (hn : s.names.lookup name = some n) :
    runFrom s (relabel name (.substitution r replacement)) =
      match r.substitute replacement (s.forest.label n) with
      | .ok label => (.ok (), { s with forest := s.forest.setLabel n label })
      | .error e => (.error (.ofReplacement name replacement e), s) := by
  rw [relabel, runFrom_bind, runFrom_node, hn]
  show runFrom s (forest >>= _) = _
  rw [runFrom_forest_bind]
  cases r.substitute replacement (s.forest.label n) with
  | error e => rfl
  | ok label => rfl

end Surgery

namespace Statement

open Regex (hasLargeOctal)

/-- A statement that has been read changes the label as it says, whatever the label is, unless the
replacement text has an octal escape for too large a code. Then it fails for such an escape, with its
place, and leaves all as it was. -/
theorem relabels_or_too_large (s : State) {text name replacement : String} {r : Regex}
    {n : NodeId} (hread : read text = .ok (relabel name (.substitution r replacement)))
    (hn : s.names.lookup name = some n) :
    (hasLargeOctal replacement.toList = false →
      ∃ label, r.substitute replacement (s.forest.label n) = .ok label ∧
        runFrom s (relabel name (.substitution r replacement)).apply =
          (.ok (), { s with forest := s.forest.setLabel n label })) ∧
    (hasLargeOctal replacement.toList = true →
      ∃ e, runFrom s (relabel name (.substitution r replacement)).apply = (.error e, s) ∧
        (Fault.surgery e).isPlaced = true ∧
        ∃ digits place, e = .badReplacement name replacement
          (.malformed (.octalTooLarge digits) place)) := by
  have hsettled : (Relabeling.substitution r replacement).Settled := applicable_of_read hread
  rw [Relabeling.Settled] at hsettled
  have hrun := runFrom_substitution r replacement hn
  cases hpieces : r.pieces replacement with
  | ok pieces =>
      rw [hpieces] at hsettled
      obtain ⟨label, hlabel⟩ :
          ∃ label, r.substitute replacement (s.forest.label n) = .ok label := by
        rw [Regex.substitute, hpieces]
        exact ⟨_, rfl⟩
      rw [hlabel] at hrun
      refine ⟨fun _ => ⟨label, hlabel, hrun⟩, fun hlarge => ?_⟩
      rw [hsettled.1] at hlarge
      cases hlarge
  | error e =>
      rw [hpieces] at hsettled
      obtain ⟨hlarge, digits, place, rfl⟩ := hsettled
      have hfault : r.substitute replacement (s.forest.label n) =
          .error (.malformed (.octalTooLarge digits) place) := by
        rw [Regex.substitute, hpieces]
        rfl
      rw [hfault] at hrun
      refine ⟨fun hsmall => ?_, fun _ => ⟨_, hrun, rfl, digits, place, rfl⟩⟩
      rw [hlarge] at hsmall
      cases hsmall

/-- A label is made of groups by their name and number, a character by an octal escape and a protected
backslash. The code 256 is too large for an octal escape. -/
theorem relabels_noun_phrase :
    let t := Tree.node "S" [.node "NP" [.node "dog" []]]
    let s := State.start t [("np", ⟨.node "NP" [.node "dog" []], [(0, t)]⟩)]
    let e := Regex.Expr.seq (.capture 1 (.char (.code false 78 .exact))) (.char (.code false 80 .exact))
    let r : Regex := ⟨"(?P<c>N)P", e, 1, [("c", 1)], 2, none⟩
    let small := "\\g<c>\\1\\055\\\\"
    let large := "\\1\\400"
    read "relabel np /(?P<c>N)P/\\g<c>\\1\\055\\\\/" =
        .ok (relabel "np" (.substitution r small)) ∧
      read "relabel np /(?P<c>N)P/\\1\\400/" =
        .ok (relabel "np" (.substitution r large)) ∧
      s.names.lookup "np" = some 1 ∧
      hasLargeOctal small.toList = false ∧ hasLargeOctal large.toList = true ∧
      runFrom s (relabel "np" (.substitution r small)).apply =
        (.ok (), { s with forest := s.forest.setLabel 1 "NN-\\" }) ∧
      ∃ e, runFrom s (relabel "np" (.substitution r large)).apply = (.error e, s) ∧
        (Fault.surgery e).isPlaced = true := by
  intro t s e r small large
  have hsmall : read "relabel np /(?P<c>N)P/\\g<c>\\1\\055\\\\/" =
      .ok (relabel "np" (.substitution r small)) := by decide +kernel
  have hlarge : read "relabel np /(?P<c>N)P/\\1\\400/" =
      .ok (relabel "np" (.substitution r large)) := by decide +kernel
  have hn : s.names.lookup "np" = some 1 := by decide +kernel
  have hlabel : r.substitute small (s.forest.label 1) = .ok "NN-\\" := by decide +kernel
  have hnone : hasLargeOctal small.toList = false := by decide +kernel
  have hsome : hasLargeOctal large.toList = true := by decide +kernel
  obtain ⟨label, heq, hrun⟩ := (relabels_or_too_large s hsmall hn).1 hnone
  obtain ⟨e, hfails, hplaced, _⟩ := (relabels_or_too_large s hlarge hn).2 hsome
  cases hlabel.symm.trans heq
  exact ⟨hsmall, hlarge, hn, hnone, hsome, hrun, e, hfails, hplaced⟩

end Statement

namespace Surgery

variable {s : State}

/-! ## Names -/

theorem State.lookup_start_isSome {t : Tree} {b : Bindings} {name : String} (hb : b.In t)
    (hname : (b.find? name).isSome) : ((State.start t b).names.lookup name).isSome := by
  obtain ⟨site, hsite⟩ := Option.isSome_iff_exists.mp hname
  obtain ⟨n, hn, _⟩ := (Forest.empty.hangs_plant t).exists_follow? (hb.site_in hsite).get?_address
  have hmem : (name, n) ∈ (State.start t b).names := by
    refine List.mem_filterMap.mpr ⟨(name, site), Bindings.mem_of_find? hsite, ?_⟩
    exact congrArg (Option.map (name, ·)) hn
  refine Option.isSome_iff_ne_none.mpr fun hnone => ?_
  have hne := List.lookup_eq_none_iff.mp hnone (name, n) hmem
  simp at hne

/-- Checked statements that use only known names, and names that statements before them introduce,
come upon no other names. -/
theorem State.applyAll_ne_unbound (sts : List Statement) (s : State)
    (hchecked : ∀ st ∈ sts, st.Checked)
    (hnames : ∀ before st after, sts = before ++ st :: after → ∀ name ∈ st.referenced,
      (∃ earlier ∈ before, name ∈ earlier.introduced) ∨ (s.names.lookup name).isSome)
    (name : String) : (runFrom s (Statement.applyAll sts)).1 ≠ .error (.unbound name) := by
  induction sts generalizing s with
  | nil =>
      intro heq
      cases heq
  | cons st sts ih =>
      obtain ⟨hst, hsts⟩ := List.forall_mem_cons.mp hchecked
      have htame := st.apply_tame s hst
      simp only [Statement.applyAll]
      rw [runFrom_bind]
      rw [Tame] at htame
      rcases hrun : runFrom s st.apply with ⟨e | _, s'⟩
      · rw [hrun] at htame
        rintro heq
        cases heq
        obtain ⟨hused, hunknown⟩ := htame
        rcases hnames [] st sts rfl name hused with ⟨_, hearlier, _⟩ | hknown
        · simp at hearlier
        · simp [hunknown] at hknown
      · rw [hrun] at htame
        obtain ⟨hkeeps, hknows⟩ := htame
        show (runFrom s' (if s'.root.isNone then pure () else Statement.applyAll sts)).1 ≠ _
        split
        · intro heq
          cases heq
        · refine ih s' hsts ?_
          rintro before next after rfl other hother
          rcases hnames (st :: before) next after rfl other hother with
            ⟨earlier, hearlier, hin⟩ | hknown
          · rcases List.mem_cons.mp hearlier with rfl | hearlier
            · exact Or.inr (hknows other hin)
            · exact Or.inl ⟨earlier, hearlier, hin⟩
          · exact Or.inr (hkeeps other hknown)

end Surgery

namespace Statement

theorem exists_read_of_mapM {texts : List String} {pairs : List (String × Statement)}
    (h : (texts.mapM fun t => return (Text.trim t, ← read t)) = Except.ok pairs) :
    ∀ pair ∈ pairs, ∃ text, read text = .ok pair.2 := by
  induction texts generalizing pairs with
  | nil =>
      cases h
      exact nofun
  | cons text texts ih =>
      rw [List.mapM_cons] at h
      obtain ⟨pair, hpair, h⟩ := exists_of_bind_eq_ok h
      obtain ⟨rest, hrest, h⟩ := exists_of_bind_eq_ok h
      obtain ⟨st, hst, hpair⟩ := exists_of_bind_eq_ok hpair
      cases hpair
      cases h
      exact List.forall_mem_cons.mpr ⟨⟨text, hst⟩, ih hrest⟩

theorem checked_of_compile {texts : List String} {pattern : Option CompiledPattern}
    {sts : List Statement} (h : compile texts pattern = .ok sts) : ∀ st ∈ sts, st.Checked := by
  simp only [compile] at h
  obtain ⟨pairs, hpairs, h⟩ := exists_of_bind_eq_ok h
  have hsts : sts = pairs.map (·.2) := by
    split at h
    · cases h
    · cases pattern with
      | none =>
          cases h
          rfl
      | some p =>
          obtain ⟨_, _, h⟩ := exists_of_bind_eq_ok h
          cases h
          rfl
  subst hsts
  intro st hst
  obtain ⟨pair, hpair, rfl⟩ := List.mem_map.mp hst
  obtain ⟨text, hread⟩ := exists_read_of_mapM hpairs pair hpair
  exact checked_of_read hread

end Statement

namespace Surgery

/-- Statements accepted together with a pattern, which use only names that the pattern surely binds
or that statements before them introduce, never come upon an unbound name at a match of it. -/
theorem operate_ne_unbound {texts : List String} {p : CompiledPattern} {sts : List Statement}
    (haccepted : Statement.compile texts (some p) = .ok sts)
    (hsure : ∀ before st after, sts = before ++ st :: after → ∀ name ∈ st.referenced,
      (∃ earlier ∈ before, name ∈ earlier.introduced) ∨ p.root.surelyBinds name = true)
    {t : Tree} {m : Match} (hm : p.Reports t m) (name : String) :
    (operate sts t m.bindings).failure ≠ some (.unbound name) := by
  obtain ⟨hanchor, hanswer⟩ := hm.means
  have hin := CompiledPattern.bindings_in_of_mem_answers hanchor hanswer
  have hrun := State.applyAll_ne_unbound sts (State.start t m.bindings)
    (Statement.checked_of_compile haccepted) (fun before st after hsplit other hother => by
      rcases hsure before st after hsplit other hother with hearlier | hbound
      · exact Or.inl hearlier
      · exact Or.inr (State.lookup_start_isSome hin (NodePattern.find?_isSome _ hbound hanswer)))
    name
  intro hfailure
  simp only [operate] at hfailure
  split at hfailure
  · cases hfailure
  · rename_i e he
    cases hfailure
    exact hrun he

/-- The mother or the child of a node, whichever is captured, is taken out together with a node put in
before it. -/
theorem operate_surely_bound_name :
    let other := NodePattern.node (some ⟨[.any], false⟩) (some "n") none
    let root := NodePattern.node (some ⟨[.any], false⟩) none
      (some (.choice [.rel .childOf other, .rel .parentOf other]))
    let p : CompiledPattern := ⟨"__ [> __=n | < __=n]", root, ⟨HeadFinder.firstChild, id⟩⟩
    let t := Tree.node "S" [.node "NP" []]
    ∃ sts m, Statement.compile ["insert (X=x y) $+ n", "delete x n"] (some p) = .ok sts ∧
      p.Reports t m ∧ (operate sts t m.bindings).failure ≠ some (.unbound "x") := by
  intro other root p t
  let literal : Template := ⟨.node "X" [.node "y" []], [("x", [])], none, "(X=x y)"⟩
  let insertion := Statement.insert (.template literal) (.leftOf "n")
  let deletion := Statement.delete ["x", "n"]
  have haccepted : Statement.compile ["insert (X=x y) $+ n", "delete x n"] (some p) =
      .ok [insertion, deletion] := by decide +kernel
  let child : Site := ⟨.node "NP" [], [(0, t)]⟩
  let a : Assignment := ⟨fun _ => 1, fun part => if part = [] then .top t else child⟩
  have hcaptured : p.root.captured a = [("n", child)] := rfl
  have hsolves : a.Solves p t := by
    refine ⟨.top, ⟨rfl, List.mem_singleton.mpr rfl, rfl, trivial⟩, ?_⟩
    rintro n u v hu hv
    simp only [hcaptured, List.mem_singleton, Prod.mk.injEq] at hu hv
    exact hu.2.trans hv.2.symm
  obtain ⟨m, hm, _⟩ := CompiledPattern.exists_mem_allMatches_of_solves hsolves
  refine ⟨_, m, haccepted, Or.inl hm, operate_ne_unbound haccepted ?_ (Or.inl hm) "x"⟩
  have hsure : p.root.surelyBinds "n" = true := by decide +kernel
  intro before st after hsplit name hname
  rcases before with _ | ⟨first, before⟩
  · cases hsplit
    cases List.mem_singleton.mp hname
    exact Or.inr hsure
  · rcases before with _ | ⟨second, before⟩
    · cases hsplit
      rcases List.mem_pair.mp hname with rfl | rfl
      · exact Or.inl ⟨insertion, List.mem_singleton_self _, List.mem_singleton_self _⟩
      · exact Or.inr hsure
    · cases before <;> simp at hsplit

end Surgery

end Treebank
