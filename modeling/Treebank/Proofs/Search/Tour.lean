import Treebank.Proofs.Search.Reports

/-!
# Tours through the matches of a pattern

A tour is what can be told of a cursor from outside: the match that it stands at, and the matches
that it has still to report. Whatever is asked of a cursor, it answers as its tour says. A walk
reports all matches in their order, and goes past those at a node if it is asked for another node.
-/

namespace Treebank

namespace Cursor

/-- What a cursor over a tree can be asked for. -/
inductive Call (t : Tree) where
  | find
  | nextHere
  | findNext
  | reset
  | matchesAt (s : Site) (h : s.In t)

variable {t : Tree}

/-- The outcome of a call, and the cursor after it. A cursor that is set back stands at no match. -/
def perform (c : Cursor) : Call t → Bool × Cursor
  | .find => c.find
  | .nextHere => c.nextHere
  | .findNext => c.findNext
  | .reset => (false, c.reset)
  | .matchesAt s _ => c.matchesAt s

/-- The cursor after calls one after the other. -/
def after (c : Cursor) (calls : List (Call t)) : Cursor :=
  calls.foldl (fun c call => (c.perform call).2) c

/-- The matches that calls report, one after the other. -/
def reports (c : Cursor) : List (Call t) → List Match
  | [] => []
  | call :: calls => (c.perform call).2.found.toList ++ (c.perform call).2.reports calls

/-- A call of a walk: to the next match at the same node, or to the next one. -/
def Call.ofWalk (stay : Bool) : Call t := if stay then .nextHere else .find

end Cursor

/-- A place among the matches of a pattern in a tree. -/
structure Tour where
  /-- The matches that the walk through the tree has neither reported nor gone past. -/
  left : List Match
  /-- The node at which matches are reported. -/
  anchor : Site
  /-- The matches still to be reported at that node, if it is not one that the walk has come to. -/
  aside : Option (List Match)
  /-- The match reported by the last call, if it has reported one. -/
  found : Option Match

namespace Tour

variable {p : CompiledPattern} {t : Tree}

/-- Before the walk, and before the first match at a node. -/
def startAt (p : CompiledPattern) (t : Tree) (s : Site) : Tour :=
  ⟨p.allMatches t, s, some (p.meantAt t s), none⟩

/-- Before the walk, and before the first match at the top of the tree. -/
def start (p : CompiledPattern) (t : Tree) : Tour := startAt p t (.top t)

/-- Reports the next match at the same node. -/
def nextHere (r : Tour) : Tour :=
  match r.aside, r.left with
  | some ms, _ => { r with aside := some ms.tail, found := ms.head? }
  | none, [] => { r with found := none }
  | none, m :: left =>
    if m.anchor = r.anchor then { r with left, found := some m } else { r with found := none }

/-- Reports the first of these matches, and leaves the others to the walk. -/
def proceed (r : Tour) : List Match → Tour
  | [] => ⟨[], r.anchor, none, none⟩
  | m :: left => ⟨left, m.anchor, none, some m⟩

/-- Reports the next match of the walk. -/
def find (r : Tour) : Tour := r.proceed r.left

/-- Goes past the matches at the node of the current match, and reports the one after them. -/
def findNext (r : Tour) : Tour :=
  r.proceed (r.left.dropWhile fun m => Cursor.isAnchorOf r.found m.anchor)

/-- The tour after a call. -/
def perform (p : CompiledPattern) (r : Tour) : Cursor.Call t → Tour
  | .find => r.find
  | .nextHere => r.nextHere
  | .findNext => r.findNext
  | .reset => start p t
  | .matchesAt s _ => (startAt p t s).nextHere

/-- The tour after calls one after the other. -/
def after (p : CompiledPattern) (r : Tour) (calls : List (Cursor.Call t)) : Tour :=
  calls.foldl (perform p) r

end Tour

namespace Cursor

variable {p : CompiledPattern} {t : Tree} {c : Cursor} {r : Tour} {s : Site}

/-! ## The search at a node -/

theorem At.nextHere_at {bs : List Bindings} (h : c.At p t s bs) :
    c.nextHere.2.At p t s bs.tail := by
  cases bs with
  | cons b bs => exact h.nextHere_cons.2.2
  | nil =>
      have hnext := h.pending.next? h.fits.notes
      have hfits := h.fits.nextHere
      simp only [nextHere, h.anchor, Option.getD_some] at hfits ⊢
      split
      · rename_i hout
        rw [hout] at hfits
        exact ⟨hfits, rfl, [], .done, rfl⟩
      · rename_i hout
        rw [hout] at hnext
        obtain ⟨_, hnil, _⟩ := hnext
        simp at hnil

theorem At.abandon {bs : List Bindings} (h : c.At p t s bs) : c.abandon.At p t s [] :=
  ⟨h.fits.abandon, h.anchor, [], .done, rfl⟩

@[simp]
theorem ahead_nextHere (c : Cursor) : c.nextHere.2.ahead = c.ahead := by
  simp only [nextHere]
  split <;> rfl

/-- A cursor whose walk has not begun has all nodes before it. -/
theorem Fits.remaining_of_ahead (h : c.Fits p t) (hahead : c.ahead = none) :
    c.remaining = (Site.top t).preorder := by
  rw [Cursor.remaining, hahead, Option.getD_none, h.grounds]
  exact Grounds.nodes_ofTree t _ _

/-- The cursor with its node chosen: at first it is the top. -/
def settle (c : Cursor) : Cursor := { c with anchor := some (c.anchor.getD c.root) }

@[simp]
theorem nextHere_settle (c : Cursor) : c.settle.nextHere = c.nextHere := rfl

/-- After a step at its node a cursor has chosen it. -/
theorem settle_nextHere (c : Cursor) : c.nextHere.2.settle = c.nextHere.2 := by
  simp only [nextHere]
  split <;> rfl

/-! ## The tour of a cursor -/

/-- The cursor stands where the tour does: aside from the walk, at a node of the walk, or after its
last node. -/
inductive Follows (p : CompiledPattern) (t : Tree) (c : Cursor) : Tour → Prop where
  | aside {s : Site} {bs : List Bindings} : c.settle.At p t s bs → c.Fits p t → c.ahead = none →
      c.walking = false →
      Follows p t c ⟨p.allMatches t, s, some (bs.map (⟨s, ·⟩)), c.found⟩
  | walking {s : Site} {bs : List Bindings} : c.At p t s bs → c.walking = true →
      (s :: c.remaining).Nodup →
      Follows p t c ⟨bs.map (⟨s, ·⟩) ++ c.remaining.flatMap (p.meantAt t), s, none, c.found⟩
  | exhausted {s u : Site} : c.At p t s [] → c.walking = false → c.ahead = some [] → c.found = none →
      Follows p t c ⟨[], u, none, none⟩

theorem Follows.found_eq (h : c.Follows p t r) : c.found = r.found := by
  cases h with
  | aside => rfl
  | walking => rfl
  | exhausted _ _ _ hfound => exact hfound

theorem Follows.fits (h : c.Follows p t r) : c.Fits p t := by
  cases h with
  | aside _ hfits => exact hfits
  | walking hat => exact hat.fits
  | exhausted hat => exact hat.fits

/-- A call has come to where the tour is, and has told whether there is a match. -/
def Arrives (p : CompiledPattern) (t : Tree) (outcome : Bool × Cursor) (r : Tour) : Prop :=
  outcome.1 = r.found.isSome ∧ outcome.2.Follows p t r

theorem Fits.follows_reset (h : c.Fits p t) : c.reset.Follows p t (.start p t) := by
  have hsettle : c.reset.settle = { c.reset with anchor := some (.top t), pending := none } := by
    simp [settle, Cursor.reset, h.root]
  exact .aside (hsettle ▸ h.reset.at .top) h.reset rfl rfl

theorem follows_start (p : CompiledPattern) (t : Tree) :
    (Cursor.start p t).Follows p t (.start p t) := Fits.start.follows_reset

/-! ## Further matches at the same node -/

/-- No match at the nodes before the cursor is one at the node where it stands. -/
theorem anchor_ne_of_mem (hnodup : (s :: c.remaining).Nodup) {m : Match}
    (hm : m ∈ c.remaining.flatMap (p.meantAt t)) : m.anchor ≠ s := by
  obtain ⟨u, hu, hm⟩ := List.mem_flatMap.mp hm
  obtain ⟨b, _, rfl⟩ := List.mem_map.mp hm
  rintro rfl
  exact (List.nodup_cons.mp hnodup).1 hu

/-- A step at its node leaves a cursor aside from the walk there. -/
theorem At.follows_nextHere_aside (hat : c.settle.At p t s bs) (hfits : c.Fits p t)
    (hahead : c.ahead = none) (hwalking : c.walking = false) :
    c.nextHere.2.Follows p t
      ⟨p.allMatches t, s, some (bs.tail.map (⟨s, ·⟩)), c.nextHere.2.found⟩ := by
  have hnext := hat.nextHere_at
  rw [nextHere_settle] at hnext
  exact .aside (by rwa [settle_nextHere]) hfits.nextHere (by rwa [ahead_nextHere])
    (by rwa [nextHere_walking])

/-- A step at its node leaves a walking cursor there, with the nodes it had left. -/
theorem At.follows_nextHere (hat : c.At p t s bs) (hwalking : c.walking = true)
    (hnodup : (s :: c.remaining).Nodup) :
    c.nextHere.2.Follows p t
      ⟨bs.tail.map (⟨s, ·⟩) ++ c.remaining.flatMap (p.meantAt t), s, none, c.nextHere.2.found⟩ := by
  have hfollows := Follows.walking hat.nextHere_at ((nextHere_walking c).trans hwalking)
    (by rwa [nextHere_remaining])
  rwa [nextHere_remaining] at hfollows

theorem Follows.nextHere (h : c.Follows p t r) : Arrives p t c.nextHere r.nextHere := by
  cases h with
  | @aside s bs hat hfits hahead hwalking =>
      have hfollows := hat.follows_nextHere_aside hfits hahead hwalking
      cases bs with
      | nil =>
          have hmiss : c.nextHere.1 = false := hat.nextHere_nil
          rw [found_nextHere_of_miss hmiss] at hfollows
          exact ⟨hmiss, hfollows⟩
      | cons b bs =>
          obtain ⟨hhit, hfound, _⟩ := hat.nextHere_cons
          rw [nextHere_settle] at hhit hfound
          rw [hfound] at hfollows
          exact ⟨hhit, hfollows⟩
  | @walking s bs hat hwalking hnodup =>
      have hfollows := hat.follows_nextHere hwalking hnodup
      cases bs with
      | nil =>
          have hmiss := hat.nextHere_nil
          rw [found_nextHere_of_miss hmiss, List.tail_nil, List.map_nil,
            List.nil_append] at hfollows
          rw [List.map_nil, List.nil_append]
          cases hleft : c.remaining.flatMap (p.meantAt t) with
          | nil =>
              rw [hleft] at hfollows
              exact ⟨hmiss, hfollows⟩
          | cons m left =>
              rw [hleft] at hfollows
              have hother := anchor_ne_of_mem hnodup (hleft ▸ List.mem_cons_self)
              simp only [Tour.nextHere, hother, if_false]
              exact ⟨hmiss, hfollows⟩
      | cons b bs =>
          obtain ⟨hhit, hfound, _⟩ := hat.nextHere_cons
          rw [hfound] at hfollows
          simp only [List.map_cons, List.cons_append, Tour.nextHere, if_true]
          exact ⟨hhit, hfollows⟩
  | @exhausted s u hat hwalking hahead hfound =>
      have hmiss := hat.nextHere_nil
      exact ⟨hmiss, .exhausted hat.nextHere_at ((nextHere_walking c).trans hwalking)
        ((ahead_nextHere c).trans hahead) (found_nextHere_of_miss hmiss)⟩

/-! ## Further nodes -/

/-- The walk through some nodes, apart from that of an earlier match, comes to the first match
there. -/
theorem Fits.seek_arrives (last : Option Match) (ss : List Site) (hss : ∀ s ∈ ss, s.In t)
    (hnodup : ss.Nodup) (h : c.Fits p t) (hover : ss = [] → c.found = none ∧ ∃ s, c.At p t s []) :
    Arrives p t (Cursor.seek last ss c)
      (r.proceed ((ss.flatMap (p.meantAt t)).dropWhile fun m => isAnchorOf last m.anchor)) := by
  induction ss generalizing c with
  | nil =>
      obtain ⟨hfound, s, hat⟩ := hover rfl
      have hend : { c with ahead := some [], walking := false : Cursor }.At p t s [] :=
        ⟨⟨h.pattern, h.grounds, h.root, h.notes, h.pending, h.anchor,
          fun _ hahead => Option.some.inj hahead ▸ nofun⟩, hat.anchor, hat.pending⟩
      exact ⟨rfl, .exhausted hend rfl rfl hfound⟩
  | cons s ss ih =>
      obtain ⟨hs, hss⟩ := List.forall_mem_cons.mp hss
      let walker : Cursor := { c with ahead := some ss, walking := true }
      have hwalker : walker.Fits p t :=
        ⟨h.pattern, h.grounds, h.root, h.notes, h.pending, h.anchor,
          fun _ hahead => Option.some.inj hahead ▸ hss⟩
      have hat := hwalker.at hs
      have hnext : (walker.matchFrom s).2.At p t s _ := hat.nextHere_at
      have hremaining : (walker.matchFrom s).2.remaining = ss := nextHere_remaining _
      have hstep : Cursor.seek last (s :: ss) c =
          if isAnchorOf last s then Cursor.seek last ss (walker.matchFrom s).2.abandon
          else if (walker.matchFrom s).1 then (true, (walker.matchFrom s).2)
          else Cursor.seek last ss (walker.matchFrom s).2 := rfl
      rw [hstep, List.flatMap_cons, CompiledPattern.meantAt]
      -- the node of the earlier match is passed over, with all matches that it has
      by_cases hlast : isAnchorOf last s = true
      · have hdropped : ∀ m ∈ (CompiledPattern.distinctBindings ∅
            (p.root.answers (p.grounds t) s [])).map (Match.mk s ·),
            isAnchorOf last m.anchor = true := by simp [hlast]
        rw [if_pos hlast, List.dropWhile_append_of_pos hdropped]
        exact ih hss (List.nodup_cons.mp hnodup).2 hnext.fits.abandon
          fun _ => ⟨rfl, s, hnext.abandon⟩
      · rw [if_neg hlast]
        cases hmeant : CompiledPattern.distinctBindings ∅ (p.root.answers (p.grounds t) s []) with
        | nil =>
            rw [hmeant] at hat hnext
            have hmiss : (walker.matchFrom s).1 = false := hat.nextHere_nil
            rw [if_neg (by simp [hmiss])]
            exact ih hss (List.nodup_cons.mp hnodup).2 hnext.fits
              fun _ => ⟨found_nextHere_of_miss hmiss, s, hnext⟩
        | cons b bs =>
            rw [hmeant] at hat hnext
            obtain ⟨hhit, hfound, _⟩ := hat.nextHere_cons
            have hfollows := Follows.walking hnext (nextHere_walking _)
              (by rwa [hremaining])
            have hfound : (walker.matchFrom s).2.found = some ⟨s, b⟩ := hfound
            rw [hremaining, hfound] at hfollows
            rw [if_pos (show (walker.matchFrom s).1 = true from hhit)]
            simp only [List.map_cons, List.cons_append, List.dropWhile_cons, hlast]
            exact ⟨rfl, hfollows⟩

theorem dropWhile_isAnchorOf_none (ms : List Match) :
    ms.dropWhile (fun m => isAnchorOf none m.anchor) = ms := by
  cases ms <;> rfl

/-- Goes to the next match at a node other than that of an earlier match. -/
def findPast (last : Option Match) (c : Cursor) : Bool × Cursor :=
  if c.walking then
    if c.anchor.any (isAnchorOf last) then Cursor.seek last c.remaining c.abandon
    else
      let (hit, c) := c.nextHere
      if hit then (true, c) else Cursor.seek last c.remaining c
  else Cursor.seek last c.remaining c

theorem find_eq_findPast (c : Cursor) : c.find = c.findPast none := by
  have hnone : c.anchor.any (isAnchorOf none) = false := by cases c.anchor <;> rfl
  simp only [find, findPast, hnone, Bool.false_eq_true, if_false]

theorem findNext_eq_findPast (c : Cursor) : c.findNext = c.findPast c.found := rfl

theorem Follows.findPast (last : Option Match) (h : c.Follows p t r) :
    Arrives p t (c.findPast last)
      (r.proceed (r.left.dropWhile fun m => isAnchorOf last m.anchor)) := by
  cases h with
  | @aside s bs hat hfits hahead hwalking =>
      have hremaining := hfits.remaining_of_ahead hahead
      have hsome : c.remaining ≠ [] := by
        rw [hremaining]
        exact List.ne_nil_of_mem (Site.mem_preorder_top.mpr .top)
      simp only [Cursor.findPast, hwalking, Bool.false_eq_true, if_false]
      rw [CompiledPattern.allMatches_eq, ← hremaining]
      exact hfits.seek_arrives last _ hfits.remaining (hremaining ▸ Site.nodup_preorder _)
        fun hnil => absurd hnil hsome
  | @walking s bs hat hwalking hnodup =>
      have hrest := (List.nodup_cons.mp hnodup).2
      simp only [Cursor.findPast, hwalking, if_true, hat.anchor, Option.any_some]
      by_cases hlast : isAnchorOf last s = true
      · have hdropped : ∀ m ∈ bs.map (Match.mk s ·), isAnchorOf last m.anchor = true := by
          simp [hlast]
        rw [if_pos hlast, List.dropWhile_append_of_pos hdropped]
        exact hat.fits.abandon.seek_arrives last _ hat.fits.remaining hrest
          fun _ => ⟨rfl, s, hat.abandon⟩
      · rw [if_neg hlast]
        cases bs with
        | nil =>
            have hmiss := hat.nextHere_nil
            simp only [hmiss, Bool.false_eq_true, if_false, nextHere_remaining]
            exact hat.nextHere_at.fits.seek_arrives last _ hat.fits.remaining hrest
              fun _ => ⟨found_nextHere_of_miss hmiss, s, hat.nextHere_at⟩
        | cons b bs =>
            obtain ⟨hhit, hfound, _⟩ := hat.nextHere_cons
            have hfollows := hat.follows_nextHere hwalking hnodup
            rw [hfound] at hfollows
            simp only [hhit, if_true, List.map_cons, List.cons_append, List.dropWhile_cons, hlast]
            exact ⟨rfl, hfollows⟩
  | @exhausted s u hat hwalking hahead hfound =>
      have hremaining : c.remaining = [] := by rw [remaining, hahead, Option.getD_some]
      simp only [Cursor.findPast, hwalking, Bool.false_eq_true, if_false, hremaining]
      exact hat.fits.seek_arrives last [] (fun _ hs => absurd hs List.not_mem_nil) List.nodup_nil
        fun _ => ⟨hfound, s, hat⟩

/-! ## Calls -/

theorem Follows.find (h : c.Follows p t r) : Arrives p t c.find r.find := by
  have hnext := h.findPast none
  rwa [← find_eq_findPast, dropWhile_isAnchorOf_none] at hnext

theorem Follows.findNext (h : c.Follows p t r) : Arrives p t c.findNext r.findNext := by
  have hnext := h.findPast c.found
  rwa [← findNext_eq_findPast, h.found_eq] at hnext

theorem Follows.perform (h : c.Follows p t r) (call : Call t) :
    Arrives p t (c.perform call) (r.perform p call) := by
  cases call with
  | find => exact h.find
  | nextHere => exact h.nextHere
  | findNext => exact h.findNext
  | reset => exact ⟨rfl, h.fits.follows_reset⟩
  | matchesAt s hs =>
      have hat : { c.reset with anchor := some s, pending := none : Cursor }.Follows p t
          (.startAt p t s) := .aside (h.fits.reset.at hs) (h.fits.reset.at hs).fits rfl rfl
      exact hat.nextHere

theorem Follows.after (h : c.Follows p t r) (calls : List (Call t)) :
    (c.after calls).Follows p t (r.after p calls) := by
  induction calls generalizing c r with
  | nil => exact h
  | cons call calls ih => exact ih (h.perform call).2

end Cursor

namespace Tour

open Cursor (Call)

variable {p : CompiledPattern} {t : Tree} {r : Tour} {s : Site} {k : Nat}

theorem after_append (r : Tour) (calls calls' : List (Call t)) :
    r.after p (calls ++ calls') = (r.after p calls).after p calls' := List.foldl_append

/-! ## What is left of the walk -/

theorem left_proceed (r : Tour) (ms : List Match) : (r.proceed ms).left = ms.tail := by
  cases ms <;> rfl

theorem found_proceed (r : Tour) (ms : List Match) : (r.proceed ms).found = ms.head? := by
  cases ms <;> rfl

theorem left_nextHere_suffix (r : Tour) : r.nextHere.left <:+ r.left := by
  obtain ⟨left, anchor, aside, found⟩ := r
  cases aside with
  | some ms => exact List.suffix_refl _
  | none =>
      cases left with
      | nil => exact List.suffix_refl _
      | cons m left =>
          simp only [nextHere]
          split
          · exact List.suffix_cons m left
          · exact List.suffix_refl _

/-- The matches left are the last ones of all. -/
theorem left_suffix (p : CompiledPattern) (t : Tree) (calls : List (Call t)) :
    ((start p t).after p calls).left <:+ p.allMatches t := by
  suffices hstep : ∀ r : Tour, r.left <:+ p.allMatches t →
      (r.after p calls).left <:+ p.allMatches t from hstep _ (List.suffix_refl _)
  induction calls with
  | nil => exact fun _ h => h
  | cons call calls ih =>
      refine fun r h => ih _ ?_
      cases call with
      | find => exact (left_proceed r r.left) ▸ (List.tail_suffix r.left).trans h
      | nextHere => exact (left_nextHere_suffix r).trans h
      | findNext =>
          have hdropped := (List.tail_suffix _).trans (List.dropWhile_suffix
            (l := r.left) fun m => Cursor.isAnchorOf r.found m.anchor)
          exact (left_proceed r _) ▸ hdropped.trans h
      | reset => exact List.suffix_refl _
      | matchesAt s hs => exact List.suffix_refl _

/-! ## Walks -/

/-- The walk has reported the first `k` matches, and stands at the node of the last of them. -/
structure Walked (p : CompiledPattern) (t : Tree) (k : Nat) (r : Tour) : Prop where
  le : k ≤ (p.allMatches t).length
  left : r.left = (p.allMatches t).drop k
  aside : r.aside = none
  anchor : ∀ m, (p.allMatches t)[k]? = some m →
    ∃ l, (p.allMatches t)[k - 1]? = some l ∧ l.anchor = r.anchor

theorem walked_hit {m : Match} (h : (p.allMatches t)[k]? = some m) :
    Walked p t (k + 1) ⟨(p.allMatches t).drop (k + 1), m.anchor, none, some m⟩ where
  le := (List.getElem?_eq_some_iff.mp h).1
  left := rfl
  aside := rfl
  anchor := fun _ _ => ⟨m, h, rfl⟩

theorem Walked.eq (h : Walked p t k r) :
    r = ⟨(p.allMatches t).drop k, r.anchor, none, r.found⟩ := by
  obtain ⟨left, anchor, aside, found⟩ := r
  obtain ⟨_, rfl, rfl, _⟩ := h
  rfl

/-- The match after the first `k` is the first one left. -/
theorem drop_eq_cons {m : Match} (h : (p.allMatches t)[k]? = some m) :
    (p.allMatches t).drop k = m :: (p.allMatches t).drop (k + 1) := by
  obtain ⟨hk, rfl⟩ := List.getElem?_eq_some_iff.mp h
  exact List.drop_eq_getElem_cons hk

theorem Walked.find (h : Walked p t k r) : r.find.found = (p.allMatches t)[k]? ∧
    Walked p t (k + r.find.found.toList.length) r.find := by
  have hfound : r.find.found = (p.allMatches t)[k]? := by
    rw [Tour.find, found_proceed, h.left, List.head?_drop]
  refine ⟨hfound, ?_⟩
  rw [hfound]
  cases hm : (p.allMatches t)[k]? with
  | none =>
      have hnil := List.drop_eq_nil_of_le (List.getElem?_eq_none_iff.mp hm)
      rw [Tour.find, h.left, hnil]
      exact ⟨h.le, hnil.symm, rfl, h.anchor⟩
  | some m =>
      rw [Tour.find, h.left, drop_eq_cons hm]
      exact walked_hit hm

theorem Walked.nextHere (h : Walked p t k r) : (r.nextHere.found =
      if (p.allMatches t)[k]?.map Match.anchor = (p.allMatches t)[k - 1]?.map Match.anchor
      then (p.allMatches t)[k]? else none) ∧
    Walked p t (k + r.nextHere.found.toList.length) r.nextHere := by
  rw [h.eq]
  cases hm : (p.allMatches t)[k]? with
  | none =>
      have hnil := List.drop_eq_nil_of_le (List.getElem?_eq_none_iff.mp hm)
      rw [hnil]
      exact ⟨(ite_self _).symm, h.le, hnil.symm, rfl, h.anchor⟩
  | some m =>
      obtain ⟨l, hl, hanchor⟩ := h.anchor m hm
      rw [drop_eq_cons hm, hl]
      simp only [Tour.nextHere, Option.map_some, Option.some.injEq, ← hanchor]
      split
      · rename_i hsame
        exact ⟨rfl, hsame ▸ walked_hit hm⟩
      · exact ⟨rfl, h.le, (drop_eq_cons hm).symm, rfl, hanchor ▸ h.anchor⟩

/-- Each call of a walk reports the next match, or none. -/
theorem Walked.perform (h : Walked p t k r) (stay : Bool) :
    let r' := r.perform p (Call.ofWalk (t := t) stay)
    r'.found.toList = ((p.allMatches t).drop k).take r'.found.toList.length ∧
      Walked p t (k + r'.found.toList.length) r' := by
  intro r'
  have hstep : (r'.found = none ∨ r'.found = (p.allMatches t)[k]?) ∧
      Walked p t (k + r'.found.toList.length) r' := by
    cases stay with
    | false => exact ⟨Or.inr h.find.1, h.find.2⟩
    | true =>
        refine ⟨?_, h.nextHere.2⟩
        have hfound : r'.found = _ := h.nextHere.1
        rw [hfound]
        split
        · exact Or.inr rfl
        · exact Or.inl rfl
  refine ⟨?_, hstep.2⟩
  rcases hstep.1 with hnone | hnext
  · rw [hnone, Option.toList_none, List.length_nil, List.take_zero]
  · rw [hnext]
    cases hm : (p.allMatches t)[k]? with
    | none => rfl
    | some m => rw [drop_eq_cons hm, Option.toList_some, List.length_singleton, List.take_one]; rfl

/-- A walk begins with the first match. -/
theorem exists_walked_find_start (p : CompiledPattern) (t : Tree) :
    ∃ k, (start p t).find.found.toList = (p.allMatches t).take k ∧
      Walked p t k (start p t).find := by
  have hleft : (start p t).left = p.allMatches t := rfl
  rw [find, hleft, found_proceed]
  cases hmatches : p.allMatches t with
  | nil => exact ⟨0, rfl, Nat.zero_le _, hmatches.symm, rfl, by simp [hmatches]⟩
  | cons m ms =>
      have hfirst : (p.allMatches t)[0]? = some m := by rw [hmatches, List.getElem?_cons_zero]
      have hwalked := walked_hit hfirst
      rw [hmatches, List.drop_succ_cons, List.drop_zero] at hwalked
      exact ⟨1, rfl, hwalked⟩

theorem nextHere_aside (left ms : List Match) (s : Site) (found : Option Match) :
    nextHere ⟨left, s, some ms, found⟩ = ⟨left, s, some ms.tail, ms.head?⟩ := rfl

/-- At a node chosen aside from the walk, its matches are reported one after the other, and all
matches are left to the walk. -/
theorem after_matchesAt (r : Tour) (hs : s.In t) (n : Nat) :
    r.after p (.matchesAt s hs :: List.replicate n .nextHere) =
      ⟨p.allMatches t, s, some ((p.meantAt t s).drop (n + 1)), (p.meantAt t s)[n]?⟩ := by
  induction n with
  | zero =>
      have hfirst : r.after p [.matchesAt s hs] = (startAt p t s).nextHere := rfl
      rw [List.replicate_zero, hfirst, startAt, nextHere_aside, List.drop_one,
        List.head?_eq_getElem?]
  | succ n ih =>
      have hsnoc : Call.matchesAt s hs :: List.replicate (n + 1) .nextHere =
          (.matchesAt s hs :: List.replicate n .nextHere) ++ [.nextHere] := by
        rw [List.replicate_succ', List.cons_append]
      have hnext (r : Tour) : r.after p [(.nextHere : Call t)] = r.nextHere := rfl
      rw [hsnoc, after_append, ih, hnext, nextHere_aside, List.tail_drop, List.head?_drop]

end Tour

namespace Cursor

variable {p : CompiledPattern} {t : Tree} {c : Cursor} {r : Tour} {k : Nat}

/-- A walk goes on with the matches after those that it has reported. -/
theorem Follows.exists_walked (h : c.Follows p t r) (hr : r.Walked p t k) (steps : List Bool) :
    ∃ n r', c.reports (steps.map (Call.ofWalk (t := t))) = ((p.allMatches t).drop k).take n ∧
      (c.after (steps.map (Call.ofWalk (t := t)))).Follows p t r' ∧ r'.Walked p t (k + n) := by
  induction steps generalizing c r k with
  | nil => exact ⟨0, r, rfl, h, hr⟩
  | cons stay steps ih =>
      obtain ⟨_, hfollows⟩ := h.perform (Call.ofWalk (t := t) stay)
      obtain ⟨hfirst, hwalked⟩ := hr.perform stay
      rw [← hfollows.found_eq] at hfirst hwalked
      obtain ⟨n, r', hreports, hafter, hr'⟩ := ih hfollows hwalked
      refine ⟨_ + n, r', ?_, hafter, Nat.add_assoc k _ n ▸ hr'⟩
      rw [List.map_cons, reports, hreports, List.take_add, List.drop_drop, ← hfirst]

/-- A walk reports all matches in their order. A further match at the same node is reported only if
the next one is at that node. -/
theorem Follows.reports_walk (h : c.Follows p t r) (steps : List Bool) :
    let walk : List (Call t) := .find :: steps.map Call.ofWalk
    let here := c.reset.after walk
    ∃ n ≤ (p.allMatches t).length, c.reset.reports walk = (p.allMatches t).take n ∧
      here.find.1 = decide (n < (p.allMatches t).length) ∧
      here.find.2.found = (p.allMatches t)[n]? ∧
      here.nextHere.2.found =
        if (p.allMatches t)[n]?.map Match.anchor = (p.allMatches t)[n - 1]?.map Match.anchor
        then (p.allMatches t)[n]? else none := by
  intro walk here
  have hbegun := h.fits.follows_reset.find.2
  obtain ⟨k, hfirst, hwalked⟩ := Tour.exists_walked_find_start p t
  obtain ⟨n, r', hreports, hhere, hr'⟩ := hbegun.exists_walked hwalked steps
  have hanswer : here.find.1 = r'.find.found.isSome := hhere.find.1
  refine ⟨k + n, hr'.le, ?_, ?_, hhere.find.2.found_eq.trans hr'.find.1,
    hhere.nextHere.2.found_eq.trans hr'.nextHere.1⟩
  · have hsplit : c.reset.reports walk =
        c.reset.find.2.found.toList ++ c.reset.find.2.reports (steps.map (Call.ofWalk (t := t))) :=
      rfl
    rw [hsplit, hreports, hbegun.found_eq, hfirst, List.take_add]
  · rw [hanswer, hr'.find.1, Bool.eq_iff_iff]
    simp

/-- The next match at another node is the first one left that is not at the node of the current
match; the walk goes on after it. -/
theorem Follows.found_findNext (h : c.Follows p t r) :
    let others := r.left.dropWhile fun m => isAnchorOf c.found m.anchor
    c.findNext.2.found = others[0]? ∧ c.findNext.2.find.2.found = others[1]? := by
  intro others
  have hothers : r.findNext = r.proceed others := by rw [Tour.findNext, ← h.found_eq]
  have hnext := h.findNext.2
  have hafter := hnext.find.2
  rw [hothers] at hnext hafter
  refine ⟨hnext.found_eq.trans ?_, hafter.found_eq.trans ?_⟩
  · rw [Tour.found_proceed, List.head?_eq_getElem?]
  · rw [Tour.find, Tour.found_proceed, Tour.left_proceed, List.head?_tail]

/-- Whatever a cursor has been asked for: it answers every call as its tour does, with a match or
none. Set back, it walks through all matches in order: a match at the same node is reported only if
the next one is there, and the next match is missing only after the last one. The next match at
another node is the first one left at another node. At a chosen node, its matches are reported in
order, and the walk then begins anew. -/
theorem calls_follow_tour (p : CompiledPattern) (t : Tree) :
    p.allMatches t = (Site.top t).preorder.flatMap (p.meantAt t) ∧
    (∀ (calls : List (Call t)) (call : Call t),
      let c := (start p t).after calls
      let r := ((Tour.start p t).after p calls).perform p call
      (c.perform call).1 = (c.perform call).2.found.isSome ∧ (c.perform call).2.found = r.found) ∧
    (∀ (calls : List (Call t)) (steps : List Bool),
      let c := ((start p t).after calls).reset
      let walk : List (Call t) := .find :: steps.map Call.ofWalk
      let here := c.after walk
      ∃ n ≤ (p.allMatches t).length, c.reports walk = (p.allMatches t).take n ∧
        here.find.1 = decide (n < (p.allMatches t).length) ∧
        here.find.2.found = (p.allMatches t)[n]? ∧
        here.nextHere.2.found =
          if (p.allMatches t)[n]?.map Match.anchor = (p.allMatches t)[n - 1]?.map Match.anchor
          then (p.allMatches t)[n]? else none) ∧
    (∀ calls : List (Call t),
      let c := (start p t).after calls
      let left := ((Tour.start p t).after p calls).left
      let others := left.dropWhile fun m => isAnchorOf c.found m.anchor
      left <:+ p.allMatches t ∧ c.findNext.2.found = others[0]? ∧
        c.findNext.2.find.2.found = others[1]?) ∧
    (∀ (calls : List (Call t)) (s : Site) (hs : s.In t) (n : Nat),
      let c := (start p t).after (calls ++ .matchesAt s hs :: List.replicate n .nextHere)
      c.found = (p.meantAt t s)[n]? ∧ c.find.2.found = (p.allMatches t)[0]?) := by
  have hfollows (calls : List (Call t)) := (follows_start p t).after calls
  refine ⟨p.allMatches_eq t, fun calls call => ?_, fun calls steps => ?_, fun calls => ?_,
    fun calls s hs n => ?_⟩
  · obtain ⟨hanswer, hnext⟩ := (hfollows calls).perform call
    exact ⟨hanswer.trans (congrArg Option.isSome hnext.found_eq.symm), hnext.found_eq⟩
  · exact (hfollows calls).reports_walk steps
  · exact ⟨Tour.left_suffix p t calls, (hfollows calls).found_findNext⟩
  · intro c
    have hc : c.Follows p t _ := hfollows _
    rw [Tour.after_append, Tour.after_matchesAt] at hc
    refine ⟨hc.found_eq, hc.find.2.found_eq.trans ?_⟩
    exact (Tour.found_proceed _ _).trans List.head?_eq_getElem?

/-- The walk begins anew after a node without matches has been chosen. -/
theorem find_after_childless_node :
    let inner := NodePattern.node (some ⟨[.any], false⟩) (some "child") none
    let root := NodePattern.node (some ⟨[.any], false⟩) (some "node") (some (.rel .parentOf inner))
    let p : CompiledPattern := ⟨"__=node < __=child", root, ⟨HeadFinder.firstChild, id⟩⟩
    let t := Tree.node "A" [.node "B" []]
    let child : Site := ⟨.node "B" [], [(0, t)]⟩
    ∃ hchild : child.In t,
      let c := (start p t).after [.find, .matchesAt child hchild]
      c.found = none ∧
        c.find.2.found = some ⟨.top t, [("node", .top t), ("child", child)]⟩ := by
  intro inner root p t child
  have hchild : child.In t := .child .top rfl
  obtain ⟨hall, _, _, _, haside⟩ := calls_follow_tour p t
  have htop : p.meantAt t (.top t) = [⟨.top t, [("node", .top t), ("child", child)]⟩] := by
    have hanswers : p.root.answers (p.grounds t) (.top t) [] =
        [[("node", .top t), ("child", child)]] := rfl
    simp [CompiledPattern.meantAt, hanswers, CompiledPattern.distinctBindings]
  have hbelow : p.meantAt t child = [] := rfl
  have hpreorder : (Site.top t).preorder = [.top t, child] := rfl
  obtain ⟨hfound, hnext⟩ := haside [.find] child hchild 0
  rw [hbelow] at hfound
  rw [hall, hpreorder, List.flatMap_cons, htop] at hnext
  exact ⟨hchild, hfound, hnext⟩

end Cursor

end Treebank
