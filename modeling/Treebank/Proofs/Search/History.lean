import Treebank.Proofs.Search.Notes
import Treebank.Search.Cursor

/-!
# Searches that share notes

The searches of a cursor share their notes, whether they are taken to their end or left before it.
A history is a series of steps of a cursor, among them the beginning of a search for any part of the
pattern, and the next answer of any search begun before. Whatever the history, every search gives
the answers that its part means.
-/

namespace Treebank

/-- A search that has begun, with the answers it has given. -/
structure Inquiry where
  part : List Nat
  pattern : NodePattern
  site : Site
  bindings : Bindings
  given : List Bindings
  rest : Found

/-- The search for a part of a pattern from its beginning. -/
def Inquiry.begin (g : Grounds) (part : List Nat) (p : NodePattern) (s : Site) (b : Bindings) :
    Inquiry := ⟨part, p, s, b, [], p.search g part s b⟩

/-- The search after its next answer, if there is one. -/
def Inquiry.resume (i : Inquiry) (notes : Std.HashSet Question) :
    Inquiry × Std.HashSet Question :=
  match i.rest.next? (fun _ => true) notes with
  | (none, notes) => ({ i with rest := .done }, notes)
  | (some (b, rest), notes) => ({ i with given := i.given ++ [b], rest := rest () }, notes)

/-- The cursor and the searches begun with it can be in these states together. -/
inductive Cursor.Reached (p : CompiledPattern) (t : Tree) : Cursor → List Inquiry → Prop where
  | start : Reached p t (.start p t) []
  | reset {c : Cursor} {is : List Inquiry} : Reached p t c is → Reached p t c.reset is
  | nextHere {c : Cursor} {is : List Inquiry} : Reached p t c is → Reached p t c.nextHere.2 is
  | matchesAt {c : Cursor} {is : List Inquiry} {s : Site} :
      Reached p t c is → s.In t → Reached p t (c.matchesAt s).2 is
  | find {c : Cursor} {is : List Inquiry} : Reached p t c is → Reached p t c.find.2 is
  | findNext {c : Cursor} {is : List Inquiry} : Reached p t c is → Reached p t c.findNext.2 is
  | begin {c : Cursor} {is : List Inquiry} {part : List Nat} {q : NodePattern} {s : Site}
      {b : Bindings} : Reached p t c is → p.root.part? part = some (.node q) → s.In t → b.In t →
      Reached p t c (.begin c.grounds part q s b :: is)
  | resume {c : Cursor} {before after : List Inquiry} {i : Inquiry} :
      Reached p t c (before ++ i :: after) →
      Reached p t { c with hopeless := (i.resume c.hopeless).2 }
        (before ++ (i.resume c.hopeless).1 :: after)

variable {p : CompiledPattern} {t : Tree} {c : Cursor} {s : Site}

theorem CompiledPattern.grounds_within (p : CompiledPattern) (t : Tree) : (p.grounds t).Within t :=
  Grounds.within_ofTree t _ _

/-- A search for the whole pattern, from its beginning. -/
theorem CompiledPattern.search_gives (p : CompiledPattern) (hs : s.In t) :
    (p.root.search (p.grounds t) [] s []).Gives (Question.Hopeless p.root (p.grounds t) t)
      (p.root.answers (p.grounds t) s []) :=
  NodePattern.search_gives (p.grounds_within t) p.root rfl hs Bindings.in_nil

/-! ## Steps of a cursor -/

/-- The cursor is one of the pattern and the tree, and only hopeless questions are noted. -/
structure Cursor.Fits (p : CompiledPattern) (t : Tree) (c : Cursor) : Prop where
  pattern : c.pattern = p.root
  grounds : c.grounds = p.grounds t
  root : c.root = .top t
  notes : Answers.Sound (Question.Hopeless p.root (p.grounds t) t) c.hopeless
  pending : ∀ w, c.pending = some w →
    ∃ as, w.answers.Gives (Question.Hopeless p.root (p.grounds t) t) as
  anchor : ∀ s, c.anchor = some s → s.In t
  ahead : ∀ ss, c.ahead = some ss → ∀ s ∈ ss, s.In t

namespace Cursor

theorem Fits.start : (Cursor.start p t).Fits p t where
  pattern := rfl
  grounds := rfl
  root := rfl
  notes := Answers.sound_empty
  pending := nofun
  anchor := nofun
  ahead := nofun

theorem Fits.reset (h : c.Fits p t) : c.reset.Fits p t where
  pattern := h.pattern
  grounds := h.grounds
  root := h.root
  notes := h.notes
  pending := nofun
  anchor := nofun
  ahead := nofun

theorem Fits.abandon (h : c.Fits p t) : c.abandon.Fits p t where
  pattern := h.pattern
  grounds := h.grounds
  root := h.root
  notes := h.notes
  pending := by
    rintro w hw
    cases hw
    exact ⟨[], .done⟩
  anchor := h.anchor
  ahead := h.ahead

theorem Fits.searchAt (h : c.Fits p t) (hs : s.In t) :
    (c.searchAt s).answers.Gives (Question.Hopeless p.root (p.grounds t) t)
      (p.root.answers (p.grounds t) s []) := by
  rw [Cursor.searchAt, h.pattern, h.grounds]
  exact p.search_gives hs

theorem Fits.nextHere (h : c.Fits p t) : c.nextHere.2.Fits p t := by
  have hanchor : (c.anchor.getD c.root).In t := by
    cases ha : c.anchor with
    | none => exact h.root ▸ Site.In.top
    | some s => exact h.anchor s ha
  have hpending : ∃ as, (c.pending.getD (c.searchAt (c.anchor.getD c.root))).answers.Gives
      (Question.Hopeless p.root (p.grounds t) t) as := by
    cases hw : c.pending with
    | none => exact ⟨_, h.searchAt hanchor⟩
    | some w => exact h.pending w hw
  obtain ⟨as, has⟩ := hpending
  have hnext := has.next? (fun b => !(c.pending.getD
    (c.searchAt (c.anchor.getD c.root))).seen.contains b.sortedPlaces) h.notes
  simp only [Cursor.nextHere]
  split
  · rename_i hout
    rw [hout] at hnext
    refine ⟨h.pattern, h.grounds, h.root, hnext.2, ?_, ?_, h.ahead⟩
    · rintro w hw
      cases hw
      exact ⟨[], .done⟩
    · rintro s hs
      cases hs
      exact hanchor
  · rename_i hout
    rw [hout] at hnext
    obtain ⟨⟨_, _, bs, _, _, hrest⟩, hnotes⟩ := hnext
    refine ⟨h.pattern, h.grounds, h.root, hnotes, ?_, ?_, h.ahead⟩
    · rintro w hw
      cases hw
      exact ⟨bs, hrest⟩
    · rintro s hs
      cases hs
      exact hanchor

theorem Fits.matchFrom (h : c.Fits p t) (hs : s.In t) : (c.matchFrom s).2.Fits p t := by
  have hat : { c with anchor := some s, pending := none : Cursor }.Fits p t := by
    refine ⟨h.pattern, h.grounds, h.root, h.notes, nofun, ?_, h.ahead⟩
    rintro u hu
    cases hu
    exact hs
  exact hat.nextHere

theorem Fits.matchesAt (h : c.Fits p t) (hs : s.In t) : (c.matchesAt s).2.Fits p t :=
  h.reset.matchFrom hs

theorem Fits.seek (last : Option Match) (ss : List Site) (hss : ∀ s ∈ ss, s.In t)
    (h : c.Fits p t) : (Cursor.seek last ss c).2.Fits p t := by
  induction ss generalizing c with
  | nil =>
      refine ⟨h.pattern, h.grounds, h.root, h.notes, h.pending, h.anchor, ?_⟩
      rintro ss hss
      cases hss
      exact nofun
  | cons s rest ih =>
      obtain ⟨hs, hrest⟩ := List.forall_mem_cons.mp hss
      have hwalk : { c with ahead := some rest, walking := true : Cursor }.Fits p t := by
        refine ⟨h.pattern, h.grounds, h.root, h.notes, h.pending, h.anchor, ?_⟩
        rintro ss hss
        cases hss
        exact hrest
      have htried := hwalk.matchFrom hs
      simp only [Cursor.seek]
      split
      · exact ih hrest htried.abandon
      · split
        · exact htried
        · exact ih hrest htried

theorem Fits.remaining (h : c.Fits p t) : ∀ s ∈ c.remaining, s.In t := by
  intro s hs
  cases hss : c.ahead with
  | none =>
      rw [Cursor.remaining, hss, h.grounds] at hs
      obtain ⟨e, he, rfl⟩ := List.mem_map.mp hs
      exact p.grounds_within t e he
  | some ss =>
      rw [Cursor.remaining, hss] at hs
      exact h.ahead ss hss s hs

theorem Fits.find (h : c.Fits p t) : c.find.2.Fits p t := by
  simp only [Cursor.find]
  split
  · split
    · exact h.nextHere
    · exact h.nextHere.seek none _ h.nextHere.remaining
  · exact h.seek none _ h.remaining

theorem Fits.findNext (h : c.Fits p t) : c.findNext.2.Fits p t := by
  simp only [Cursor.findNext]
  split
  · split
    · exact h.abandon.seek _ _ h.remaining
    · split
      · exact h.nextHere
      · exact h.nextHere.seek _ _ h.nextHere.remaining
  · exact h.seek _ _ h.remaining

/-! ## Searches begun -/

end Cursor

/-- The search has given the first of its answers, and will give the others. -/
def Inquiry.Faithful (p : CompiledPattern) (t : Tree) (i : Inquiry) : Prop :=
  ∃ bs, i.rest.Gives (Question.Hopeless p.root (p.grounds t) t) bs ∧
    i.given ++ bs = i.pattern.answers (p.grounds t) i.site i.bindings

theorem Inquiry.Faithful.resume {i : Inquiry} {notes : Std.HashSet Question}
    (h : i.Faithful p t) (hn : Answers.Sound (Question.Hopeless p.root (p.grounds t) t) notes) :
    (i.resume notes).1.Faithful p t ∧
      Answers.Sound (Question.Hopeless p.root (p.grounds t) t) (i.resume notes).2 := by
  obtain ⟨bs, hbs, hall⟩ := h
  have hnext := hbs.next? (fun _ => true) hn
  simp only [Inquiry.resume]
  split
  · rename_i hout
    rw [hout] at hnext
    obtain ⟨hnone, hnotes⟩ := hnext
    -- every answer passes the test, so there is none left
    obtain rfl : bs = [] := List.eq_nil_iff_forall_not_mem.mpr fun b hb => nomatch hnone b hb
    exact ⟨⟨[], .done, hall⟩, hnotes⟩
  · rename_i hout
    rw [hout] at hnext
    obtain ⟨⟨_, skipped, cs, rfl, hskipped, hcs⟩, hnotes⟩ := hnext
    obtain rfl : skipped = [] :=
      List.eq_nil_iff_forall_not_mem.mpr fun b hb => nomatch hskipped b hb
    exact ⟨⟨cs, hcs, by simpa using hall⟩, hnotes⟩

theorem Cursor.Reached.fits {is : List Inquiry} (h : Reached p t c is) :
    c.Fits p t ∧ ∀ i ∈ is, i.Faithful p t := by
  induction h with
  | start => exact ⟨.start, nofun⟩
  | reset _ ih => exact ⟨ih.1.reset, ih.2⟩
  | nextHere _ ih => exact ⟨ih.1.nextHere, ih.2⟩
  | matchesAt _ hs ih => exact ⟨ih.1.matchesAt hs, ih.2⟩
  | find _ ih => exact ⟨ih.1.find, ih.2⟩
  | findNext _ ih => exact ⟨ih.1.findNext, ih.2⟩
  | begin _ hq hs hb ih =>
      refine ⟨ih.1, List.forall_mem_cons.mpr ⟨?_, ih.2⟩⟩
      rw [ih.1.grounds]
      exact ⟨_, NodePattern.search_gives (p.grounds_within t) _ hq hs hb, rfl⟩
  | @resume c before after i _ ih =>
      obtain ⟨hc, his⟩ := ih
      simp only [List.forall_mem_append, List.forall_mem_cons] at his
      obtain ⟨hbefore, hi, hafter⟩ := his
      obtain ⟨hresumed, hnotes⟩ := hi.resume hc.notes
      refine ⟨⟨hc.pattern, hc.grounds, hc.root, hnotes, hc.pending, hc.anchor, hc.ahead⟩, ?_⟩
      simp only [List.forall_mem_append, List.forall_mem_cons]
      exact ⟨hbefore, hresumed, hafter⟩

/-- Whatever has been searched for before, and whether to the end or not: a search gives the answers
that its part of the pattern means, a search begun before gives the rest of them, and what is noted
has no answers. -/
theorem Cursor.Reached.search_eq_answers {is : List Inquiry} (h : Reached p t c is) :
    (∀ part q s b, p.root.part? part = some (.node q) → s.In t → b.In t →
      ((q.search c.grounds part s b).toList c.hopeless).1 = q.answers (p.grounds t) s b) ∧
    (∀ i ∈ is, i.given ++ (i.rest.toList c.hopeless).1 =
      i.pattern.answers (p.grounds t) i.site i.bindings) ∧
    (∀ k ∈ c.hopeless, (∃ q s b, k.Asks p.root t q s b) ∧
      ∀ q s b, k.Asks p.root t q s b → q.answers (p.grounds t) s b = []) := by
  obtain ⟨hc, his⟩ := h.fits
  refine ⟨fun part q s b hq hs hb => ?_, fun i hi => ?_, fun k hk => ⟨?_, fun q s b hask => ?_⟩⟩
  · rw [hc.grounds]
    exact ((NodePattern.search_gives (p.grounds_within t) q hq hs hb).toList hc.notes).1
  · obtain ⟨bs, hbs, hall⟩ := his i hi
    rw [(hbs.toList hc.notes).1, hall]
  · obtain ⟨q, s, b, hask, _⟩ := hc.notes k hk
    exact ⟨q, s, b, hask⟩
  · exact (hc.notes k hk).answers_eq_nil hask

/-- Two searches after a first match: one for the whole pattern, begun at the top before the cursor
went on, and a later one for its inner part. -/
theorem Cursor.reached_after_find :
    let inner := NodePattern.node (some ⟨[.any], false⟩) (some "child") none
    let root := NodePattern.node (some ⟨[.any], false⟩) (some "node") (some (.rel .parentOf inner))
    let p : CompiledPattern := ⟨"__=node < __=child", root, ⟨HeadFinder.firstChild, id⟩⟩
    let t := Tree.node "A" [.node "B" []]
    let c := (Cursor.start p t).find.2.find.2
    let outerSearch := Inquiry.begin (Cursor.start p t).find.2.grounds [] root (.top t) []
    Reached p t c [outerSearch] ∧
      ((inner.search c.grounds [0, 0] (.top t) []).toList c.hopeless).1 =
        [[("child", .top t)]] ∧
      (outerSearch.rest.toList c.hopeless).1 =
        [[("node", .top t), ("child", ⟨.node "B" [], [(0, t)]⟩)]] := by
  intro inner root p t c outerSearch
  have hreached : Reached p t c [outerSearch] :=
    .find (.begin (.find .start) rfl .top Bindings.in_nil)
  obtain ⟨hfresh, hbegun, _⟩ := hreached.search_eq_answers
  refine ⟨hreached, ?_, ?_⟩
  · exact hfresh [0, 0] inner (.top t) [] rfl .top Bindings.in_nil
  · exact hbegun outerSearch List.mem_cons_self

end Treebank
