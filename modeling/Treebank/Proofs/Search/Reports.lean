import Treebank.Proofs.Search.Matches

/-!
# What is reported as a match

Whatever has been done with a cursor, the match that it stands at is an answer of the pattern at a
node of the tree. So is every match in the list of all. The first match comes first in that list.
-/

namespace Treebank

/-- The match is one that the pattern means. -/
def CompiledPattern.Means (p : CompiledPattern) (t : Tree) (m : Match) : Prop :=
  m.anchor.In t ∧ m.bindings ∈ p.root.answers (p.grounds t) m.anchor []

namespace Cursor

variable {p : CompiledPattern} {t : Tree} {c : Cursor} {s : Site}

/-- The cursor fits the pattern and the tree; the search under way is for answers at its node, and
its match is an answer. -/
structure Truthful (p : CompiledPattern) (t : Tree) (c : Cursor) : Prop where
  fits : c.Fits p t
  pending : ∀ w, c.pending = some w → ∃ as,
    w.answers.Gives (Question.Hopeless p.root (p.grounds t) t) as ∧
      ∀ b ∈ as, p.Means t ⟨c.anchor.getD c.root, b⟩
  found : ∀ m, c.found = some m → p.Means t m

theorem Truthful.start : (Cursor.start p t).Truthful p t := ⟨.start, nofun, nofun⟩

theorem Truthful.reset (h : c.Truthful p t) : c.reset.Truthful p t := ⟨h.fits.reset, nofun, nofun⟩

theorem Truthful.abandon (h : c.Truthful p t) : c.abandon.Truthful p t := by
  refine ⟨h.fits.abandon, ?_, nofun⟩
  intro w hw
  cases hw
  exact ⟨[], .done, nofun⟩

theorem Truthful.nextHere (h : c.Truthful p t) : c.nextHere.2.Truthful p t := by
  have hfits := h.fits.nextHere
  have hanchor : (c.anchor.getD c.root).In t := by
    cases ha : c.anchor with
    | none => exact h.fits.root ▸ Site.In.top
    | some s => exact h.fits.anchor s ha
  have hpending : ∃ as, (c.pending.getD (c.searchAt (c.anchor.getD c.root))).answers.Gives
      (Question.Hopeless p.root (p.grounds t) t) as ∧
      ∀ b ∈ as, p.Means t ⟨c.anchor.getD c.root, b⟩ := by
    cases hw : c.pending with
    | none => exact ⟨_, h.fits.searchAt hanchor, fun b hb => ⟨hanchor, hb⟩⟩
    | some w => exact h.pending w hw
  obtain ⟨as, has, hmeant⟩ := hpending
  have hnext := has.next? (fun b => !(c.pending.getD
    (c.searchAt (c.anchor.getD c.root))).seen.contains b.sortedPlaces) h.fits.notes
  simp only [Cursor.nextHere] at hfits ⊢
  split
  · rename_i hout
    rw [hout] at hfits
    refine ⟨hfits, ?_, fun _ hm => by cases hm⟩
    intro w hw
    cases hw
    exact ⟨[], .done, fun _ hb => absurd hb List.not_mem_nil⟩
  · rename_i b rest hopeless hout
    rw [hout] at hnext hfits
    obtain ⟨⟨_, skipped, bs, rfl, _, hrest⟩, _⟩ := hnext
    simp only [List.forall_mem_append, List.forall_mem_cons] at hmeant
    obtain ⟨_, hb, hbs⟩ := hmeant
    refine ⟨hfits, ?_, ?_⟩
    · intro w hw
      cases hw
      exact ⟨bs, hrest, hbs⟩
    · intro m hm
      cases hm
      exact hb

theorem Truthful.matchFrom (h : c.Truthful p t) (hs : s.In t) : (c.matchFrom s).2.Truthful p t := by
  have hat : { c with anchor := some s, pending := none : Cursor }.Truthful p t := by
    refine ⟨⟨h.fits.pattern, h.fits.grounds, h.fits.root, h.fits.notes, nofun, ?_, h.fits.ahead⟩,
      nofun, h.found⟩
    intro u hu
    cases hu
    exact hs
  exact hat.nextHere

theorem Truthful.seek (last : Option Match) (ss : List Site) (hss : ∀ s ∈ ss, s.In t)
    (h : c.Truthful p t) : (Cursor.seek last ss c).2.Truthful p t := by
  induction ss generalizing c with
  | nil => exact ⟨h.fits.seek last [] nofun, h.pending, h.found⟩
  | cons s rest ih =>
      obtain ⟨hs, hrest⟩ := List.forall_mem_cons.mp hss
      have hwalk : { c with ahead := some rest, walking := true : Cursor }.Truthful p t := by
        refine ⟨⟨h.fits.pattern, h.fits.grounds, h.fits.root, h.fits.notes, h.fits.pending,
          h.fits.anchor, ?_⟩, h.pending, h.found⟩
        intro ss hss
        cases hss
        exact hrest
      have htried := hwalk.matchFrom hs
      simp only [Cursor.seek]
      split
      · exact ih hrest htried.abandon
      · split
        · exact htried
        · exact ih hrest htried

theorem Truthful.find (h : c.Truthful p t) : c.find.2.Truthful p t := by
  simp only [Cursor.find]
  split
  · split
    · exact h.nextHere
    · exact h.nextHere.seek none _ h.nextHere.fits.remaining
  · exact h.seek none _ h.fits.remaining

theorem Truthful.findNext (h : c.Truthful p t) : c.findNext.2.Truthful p t := by
  simp only [Cursor.findNext]
  split
  · split
    · exact h.abandon.seek _ _ h.fits.remaining
    · split
      · exact h.nextHere
      · exact h.nextHere.seek _ _ h.nextHere.fits.remaining
  · exact h.seek _ _ h.fits.remaining

theorem Reached.truthful {is : List Inquiry} (h : Reached p t c is) : c.Truthful p t := by
  induction h with
  | start => exact .start
  | reset _ ih => exact ih.reset
  | nextHere _ ih => exact ih.nextHere
  | matchesAt _ hs ih => exact ih.reset.matchFrom hs
  | find _ ih => exact ih.find
  | findNext _ ih => exact ih.findNext
  | begin _ _ _ _ ih => exact ih
  | resume h ih => exact ⟨(Reached.resume h).fits.1, ih.pending, ih.found⟩

end Cursor

/-- The match is in the list of all matches, or some cursor over the tree can come to stand at it. -/
def CompiledPattern.Reports (p : CompiledPattern) (t : Tree) (m : Match) : Prop :=
  m ∈ p.allMatches t ∨ ∃ c is, Cursor.Reached p t c is ∧ c.found = some m

theorem CompiledPattern.Reports.means {p : CompiledPattern} {t : Tree} {m : Match}
    (h : p.Reports t m) : p.Means t m := by
  rcases h with hm | ⟨c, is, hreached, hfound⟩
  · exact mem_allMatches hm
  · exact hreached.truthful.found m hfound

/-! ## The first match -/

namespace Cursor

variable {c : Cursor}

theorem found_nextHere_of_miss (h : c.nextHere.1 = false) : c.nextHere.2.found = none := by
  simp only [nextHere] at h ⊢
  split
  · rfl
  · rename_i hout
    simp only [hout] at h
    cases h

theorem found_seek_of_miss (ss : List Site) (hnone : c.found = none)
    (h : (seek none ss c).1 = false) : (seek none ss c).2.found = none := by
  induction ss generalizing c with
  | nil => exact hnone
  | cons s ss ih =>
      simp only [seek, isAnchorOf, Option.any_none, Bool.false_eq_true, if_false] at h ⊢
      split
      · rename_i hhit
        rw [if_pos hhit] at h
        cases h
      · rename_i hmiss
        rw [if_neg hmiss] at h
        exact ih (found_nextHere_of_miss (by simpa [matchFrom] using hmiss)) h

end Cursor

namespace CompiledPattern

theorem head?_distinctBindings (bs : List Bindings) : (distinctBindings ∅ bs).head? = bs.head? := by
  cases bs with
  | nil => rfl
  | cons b bs => rw [distinctBindings, if_neg (by simp), List.head?_cons, List.head?_cons]

theorem firstMatch?_eq_head? (p : CompiledPattern) (t : Tree) :
    p.firstMatch? t = (p.allMatches t).head? := by
  have hyields := Cursor.start_yields p t
  generalize p.allMatches t = ms at hyields
  cases hyields with
  | nil hmiss => exact Cursor.found_seek_of_miss _ rfl hmiss
  | cons _ hfound _ => exact hfound

theorem firstMatch?_eq_none {p : CompiledPattern} {t : Tree} :
    p.firstMatch? t = none ↔ p.allMatches t = [] := by
  rw [firstMatch?_eq_head?, List.head?_eq_none_iff]

/-- The first match is at the first node where the pattern means something, with the first bindings
that it means there. -/
theorem firstMatch?_eq (p : CompiledPattern) (t : Tree) : p.firstMatch? t =
    (Site.top t).preorder.findSome? fun s =>
      (p.root.answers (p.grounds t) s []).head?.map (⟨s, ·⟩) := by
  rw [firstMatch?_eq_head?, allMatches_eq, List.head?_flatMap]
  refine congrArg (List.findSome? · _) (funext fun s => ?_)
  rw [meantAt, List.head?_map, head?_distinctBindings]

end CompiledPattern

end Treebank
