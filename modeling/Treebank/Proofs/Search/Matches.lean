import Treebank.Proofs.Search.Assignment
import Treebank.Proofs.Search.History

/-!
# The matches of a pattern in a tree

A cursor gives the matches of a pattern one after the other: at each node in preorder, the answers
that the pattern means there, without those that bind the names as an earlier one does. For patterns
without negated and optional constraints, these are what satisfying assignments capture.
-/

namespace Treebank

namespace CompiledPattern

/-! ## Distinct bindings -/

variable {t : Tree} {b : Bindings} {bs : List Bindings}
  {seen : Std.HashSet (List (String × List Nat))}

theorem mem_of_mem_distinctBindings (h : b ∈ distinctBindings seen bs) :
    b ∈ bs ∧ b.sortedPlaces ∉ seen := by
  induction bs generalizing seen with
  | nil => simp [distinctBindings] at h
  | cons d bs ih =>
      rw [distinctBindings] at h
      split at h
      · obtain ⟨hmem, hseen⟩ := ih h
        exact ⟨List.mem_cons_of_mem d hmem, hseen⟩
      · rename_i hd
        rcases List.mem_cons.mp h with rfl | h
        · exact ⟨List.mem_cons_self, hd⟩
        · obtain ⟨hmem, hseen⟩ := ih h
          exact ⟨List.mem_cons_of_mem d hmem,
            fun hb => hseen (Std.HashSet.mem_insert.mpr (Or.inr hb))⟩

/-- Bindings that are left out bind the names as others do. -/
theorem exists_mem_distinctBindings (h : b ∈ bs) (hb : b.sortedPlaces ∉ seen) :
    ∃ d ∈ distinctBindings seen bs, d.sortedPlaces = b.sortedPlaces := by
  induction bs generalizing seen with
  | nil => simp at h
  | cons d bs ih =>
      rw [distinctBindings]
      by_cases hd : seen.contains d.sortedPlaces = true
      · rw [if_pos hd]
        rcases List.mem_cons.mp h with rfl | h
        · exact absurd hd hb
        · exact ih h hb
      · rw [if_neg hd]
        by_cases hsame : d.sortedPlaces = b.sortedPlaces
        · exact ⟨d, List.mem_cons_self, hsame⟩
        · rcases List.mem_cons.mp h with rfl | h
          · exact absurd rfl hsame
          · have hnew : b.sortedPlaces ∉ seen.insert d.sortedPlaces := by
              rw [Std.HashSet.mem_insert]
              rintro (heq | hmem)
              · exact hsame (eq_of_beq heq)
              · exact hb hmem
            obtain ⟨e, he, heq⟩ := ih h hnew
            exact ⟨e, List.mem_cons_of_mem d he, heq⟩

theorem pairwise_distinctBindings :
    (distinctBindings seen bs).Pairwise fun b d => b.sortedPlaces ≠ d.sortedPlaces := by
  induction bs generalizing seen with
  | nil => exact List.Pairwise.nil
  | cons d bs ih =>
      rw [distinctBindings]
      split
      · exact ih
      · refine List.Pairwise.cons (fun e he heq => ?_) ih
        exact (mem_of_mem_distinctBindings he).2
          (Std.HashSet.mem_insert.mpr (Or.inl (beq_iff_eq.mpr heq)))

theorem distinctBindings_append {ds : List Bindings} (hds : ∀ d ∈ ds, d.sortedPlaces ∈ seen) :
    distinctBindings seen (ds ++ bs) = distinctBindings seen bs := by
  induction ds with
  | nil => rfl
  | cons d ds ih =>
      obtain ⟨hd, hds⟩ := List.forall_mem_cons.mp hds
      rw [List.cons_append, distinctBindings, if_pos (Std.HashSet.mem_iff_contains.mp hd), ih hds]

/-! ## All matches -/

variable {p : CompiledPattern} {c : Cursor} {s : Site} {notes : Std.HashSet Question}

/-- The matches at a node that the pattern means. -/
def meantAt (p : CompiledPattern) (t : Tree) (s : Site) : List Match :=
  (distinctBindings ∅ (p.root.answers (p.grounds t) s [])).map (⟨s, ·⟩)

theorem matchesAtEach_eq {ss : List Site} (hss : ∀ s ∈ ss, s.In t)
    (hn : Answers.Sound (Question.Hopeless p.root (p.grounds t) t) notes) :
    matchesAtEach p.root (p.grounds t) ss notes = ss.flatMap (p.meantAt t) := by
  induction ss generalizing notes with
  | nil => rfl
  | cons s ss ih =>
      obtain ⟨hs, hss⟩ := List.forall_mem_cons.mp hss
      obtain ⟨hanswers, hnotes⟩ := (p.search_gives hs).toList hn
      simp only [matchesAtEach]
      rw [hanswers, ih hss hnotes, List.flatMap_cons, meantAt]

theorem allMatches_eq (p : CompiledPattern) (t : Tree) :
    p.allMatches t = (Site.top t).preorder.flatMap (p.meantAt t) := by
  have hnodes : (p.grounds t).nodes.map (·.1) = (Site.top t).preorder :=
    Grounds.nodes_ofTree t _ _
  rw [allMatches, hnodes]
  exact matchesAtEach_eq (fun s hs => Site.mem_preorder_top.mp hs) Answers.sound_empty

end CompiledPattern

/-! ## Going through the matches -/

/-- The search under way has these bindings to come. -/
def Pending.Holds (Hopeless : Question → Prop) (w : Pending) (bs : List Bindings) : Prop :=
  ∃ ds, w.answers.Gives Hopeless ds ∧ CompiledPattern.distinctBindings w.seen ds = bs

theorem Pending.Holds.next? {Hopeless : Question → Prop} {w : Pending} {bs : List Bindings}
    {notes : Std.HashSet Question} (h : w.Holds Hopeless bs) (hn : Answers.Sound Hopeless notes) :
    match (w.answers.next? (fun b => !w.seen.contains b.sortedPlaces) notes).1 with
    | none => bs = []
    | some (b, rest) => ∃ ds, bs = b :: ds ∧
        Pending.Holds Hopeless ⟨rest (), w.seen.insert b.sortedPlaces⟩ ds := by
  obtain ⟨as, hgives, rfl⟩ := h
  have hreach := (hgives.next? (fun b => !w.seen.contains b.sortedPlaces) hn).1
  split
  · rename_i hout
    rw [hout] at hreach
    have hseen : ∀ b ∈ as, b.sortedPlaces ∈ w.seen := fun b hb => by simpa using hreach b hb
    have hnone : CompiledPattern.distinctBindings w.seen (as ++ []) = [] :=
      CompiledPattern.distinctBindings_append hseen
    rwa [List.append_nil] at hnone
  · rename_i b rest hout
    rw [hout] at hreach
    obtain ⟨hb, skipped, ds, rfl, hskipped, hds⟩ := hreach
    refine ⟨_, ?_, ds, hds, rfl⟩
    rw [CompiledPattern.distinctBindings_append fun d hd => by simpa using hskipped d hd,
      CompiledPattern.distinctBindings, if_neg (by simpa using hb)]

namespace Cursor

variable {p : CompiledPattern} {t : Tree} {c : Cursor} {s : Site} {b : Bindings}
  {bs : List Bindings} {ms : List Match}

/-- The cursor gives these matches, one at a time, and then no further one. -/
inductive Yields : Cursor → List Match → Prop where
  | nil {c : Cursor} : c.find.1 = false → Yields c []
  | cons {c : Cursor} {m : Match} {ms : List Match} :
      c.find.1 = true → c.find.2.found = some m → Yields c.find.2 ms → Yields c (m :: ms)

/-- The cursor stands at a node where these bindings are still to come. -/
structure At (p : CompiledPattern) (t : Tree) (s : Site) (bs : List Bindings) (c : Cursor) :
    Prop where
  fits : c.Fits p t
  anchor : c.anchor = some s
  pending : (c.pending.getD (c.searchAt s)).Holds (Question.Hopeless p.root (p.grounds t) t) bs

theorem At.nextHere_nil (h : c.At p t s []) : c.nextHere.1 = false := by
  have hnext := h.pending.next? h.fits.notes
  simp only [nextHere, h.anchor, Option.getD_some]
  split
  · rfl
  · rename_i hout
    rw [hout] at hnext
    obtain ⟨_, hnil, _⟩ := hnext
    simp at hnil

theorem At.nextHere_cons (h : c.At p t s (b :: bs)) :
    c.nextHere.1 = true ∧ c.nextHere.2.found = some ⟨s, b⟩ ∧ c.nextHere.2.At p t s bs := by
  have hnext := h.pending.next? h.fits.notes
  have hfits := h.fits.nextHere
  simp only [nextHere, h.anchor, Option.getD_some] at hfits ⊢
  split
  · rename_i hout
    rw [hout] at hnext
    simp at hnext
  · rename_i hout
    rw [hout] at hnext hfits
    obtain ⟨ds, hds, hrest⟩ := hnext
    rw [List.cons.injEq] at hds
    obtain ⟨rfl, rfl⟩ := hds
    exact ⟨rfl, rfl, hfits, rfl, hrest⟩

@[simp]
theorem nextHere_walking (c : Cursor) : c.nextHere.2.walking = c.walking := by
  simp only [nextHere]
  split <;> rfl

@[simp]
theorem nextHere_remaining (c : Cursor) : c.nextHere.2.remaining = c.remaining := by
  simp only [nextHere]
  split <;> rfl

/-- The matches that the cursor has before it, those at its node among them. -/
inductive Faces (p : CompiledPattern) (t : Tree) (c : Cursor) : List Match → Prop where
  | idle : c.Fits p t → c.walking = false → Faces p t c (c.remaining.flatMap (p.meantAt t))
  | walking {s : Site} {bs : List Bindings} : c.At p t s bs → c.walking = true →
      Faces p t c (bs.map (⟨s, ·⟩) ++ c.remaining.flatMap (p.meantAt t))

/-- The outcome of a step to the next of these matches. -/
def Leads (p : CompiledPattern) (t : Tree) (outcome : Bool × Cursor) : List Match → Prop
  | [] => outcome.1 = false
  | m :: ms => outcome.1 = true ∧ outcome.2.found = some m ∧ outcome.2.Faces p t ms

/-- A cursor that begins anew at a node has all bindings there to come. -/
theorem Fits.at (h : c.Fits p t) (hs : s.In t) :
    { c with anchor := some s, pending := none : Cursor }.At p t s
      (CompiledPattern.distinctBindings ∅ (p.root.answers (p.grounds t) s [])) where
  fits := ⟨h.pattern, h.grounds, h.root, h.notes, nofun, fun _ hu => Option.some.inj hu ▸ hs,
    h.ahead⟩
  anchor := rfl
  pending := ⟨_, h.searchAt hs, rfl⟩

theorem Fits.seek_leads (ss : List Site) (hss : ∀ s ∈ ss, s.In t) (h : c.Fits p t) :
    Leads p t (Cursor.seek none ss c) (ss.flatMap (p.meantAt t)) := by
  induction ss generalizing c with
  | nil => rfl
  | cons s ss ih =>
      obtain ⟨hs, hss⟩ := List.forall_mem_cons.mp hss
      let walker : Cursor := { c with ahead := some ss, walking := true }
      have hwalker : walker.Fits p t :=
        ⟨h.pattern, h.grounds, h.root, h.notes, h.pending, h.anchor,
          fun _ hahead => Option.some.inj hahead ▸ hss⟩
      have hat := hwalker.at hs
      have htried := hwalker.matchFrom hs
      have hstep : Cursor.seek none (s :: ss) c =
          if (walker.matchFrom s).1 then (true, (walker.matchFrom s).2)
          else Cursor.seek none ss (walker.matchFrom s).2 := by
        simp only [Cursor.seek, isAnchorOf, Option.any_none, Bool.false_eq_true, if_false]
        rfl
      rw [hstep, List.flatMap_cons, CompiledPattern.meantAt]
      cases hmeant : CompiledPattern.distinctBindings ∅ (p.root.answers (p.grounds t) s []) with
      | nil =>
          rw [hmeant] at hat
          have hmiss : (walker.matchFrom s).1 = false := hat.nextHere_nil
          rw [if_neg (by simp [hmiss])]
          exact ih hss htried
      | cons b bs =>
          rw [hmeant] at hat
          obtain ⟨hhit, hfound, hnext⟩ := hat.nextHere_cons
          have hfaces := Faces.walking hnext (nextHere_walking _)
          rw [nextHere_remaining] at hfaces
          rw [if_pos (show (walker.matchFrom s).1 = true from hhit)]
          exact ⟨rfl, hfound, hfaces⟩

theorem Faces.find_leads (h : c.Faces p t ms) : Leads p t c.find ms := by
  cases h with
  | idle hfits hwalking =>
      simp only [find, hwalking, Bool.false_eq_true, if_false]
      exact hfits.seek_leads _ hfits.remaining
  | @walking s bs hat hwalking =>
      simp only [find, hwalking, if_true]
      cases bs with
      | nil =>
          simp only [hat.nextHere_nil, Bool.false_eq_true, if_false, nextHere_remaining]
          exact hat.fits.nextHere.seek_leads _ hat.fits.remaining
      | cons b bs =>
          obtain ⟨hhit, hfound, hnext⟩ := hat.nextHere_cons
          have hfaces := Faces.walking hnext ((nextHere_walking c).trans hwalking)
          rw [nextHere_remaining] at hfaces
          simp only [hhit, if_true]
          exact ⟨rfl, hfound, hfaces⟩

theorem Faces.yields (h : c.Faces p t ms) : c.Yields ms := by
  induction ms generalizing c with
  | nil => exact .nil h.find_leads
  | cons m ms ih =>
      obtain ⟨hhit, hfound, hfaces⟩ := h.find_leads
      exact .cons hhit hfound (ih hfaces)

/-- A new cursor goes through all matches. -/
theorem start_yields (p : CompiledPattern) (t : Tree) :
    (start p t).Yields (p.allMatches t) := by
  have hremaining : (start p t).remaining = (Site.top t).preorder := Grounds.nodes_ofTree t _ _
  rw [CompiledPattern.allMatches_eq, ← hremaining]
  exact (Faces.idle .start rfl).yields

end Cursor

/-! ## Matches and assignments -/

/-- The assignment puts the pattern somewhere in the tree and satisfies it, and no name is captured
with two nodes. -/
structure Assignment.Solves (p : CompiledPattern) (t : Tree) (a : Assignment) : Prop where
  root_in : (a.node []).In t
  satisfied : p.root.Satisfied (p.grounds t) a
  captured_unique : ∀ n u v, (n, u) ∈ p.root.captured a → (n, v) ∈ p.root.captured a → u = v

namespace CompiledPattern

variable {p : CompiledPattern} {t : Tree} {m : Match} {a : Assignment}

theorem mem_allMatches (h : m ∈ p.allMatches t) :
    m.anchor.In t ∧ m.bindings ∈ p.root.answers (p.grounds t) m.anchor [] := by
  rw [allMatches_eq, List.mem_flatMap] at h
  obtain ⟨s, hs, hm⟩ := h
  obtain ⟨b, hb, rfl⟩ := List.mem_map.mp hm
  exact ⟨Site.mem_preorder_top.mp hs, (mem_of_mem_distinctBindings hb).1⟩

theorem bindings_in_of_mem_answers {s : Site} {b : Bindings} (hs : s.In t)
    (hb : b ∈ p.root.answers (p.grounds t) s []) : b.In t :=
  NodePattern.answers_in (p.grounds_within t) p.root hs Bindings.in_nil hb

/-- Every match comes from an assignment. -/
theorem exists_solves_of_mem_allMatches (hp : p.root.Positive) (h : m ∈ p.allMatches t) :
    ∃ a : Assignment, a.Solves p t ∧ a.node [] = m.anchor ∧
      ∀ n u, m.bindings.find? n = some u ↔ (n, u) ∈ p.root.captured a := by
  obtain ⟨hanchor, hanswer⟩ := mem_allMatches h
  obtain ⟨a, hnode, hsat, hjoin⟩ := NodePattern.exists_satisfied (p.grounds_within t) p.root
    hp hanchor Bindings.in_nil hanswer
  have hcaptured : ∀ n u, m.bindings.find? n = some u ↔ (n, u) ∈ p.root.captured a :=
    fun n u => (hjoin n u).trans (by simp [Bindings.find?])
  refine ⟨a, ⟨hnode ▸ hanchor, hsat, fun n u v hu hv => ?_⟩, hnode, hcaptured⟩
  exact Option.some.inj (((hcaptured n u).mpr hu).symm.trans ((hcaptured n v).mpr hv))

/-- Every assignment gives a match. -/
theorem exists_mem_allMatches_of_solves (h : a.Solves p t) : ∃ m ∈ p.allMatches t,
    m.anchor = a.node [] ∧
      ∀ n u, m.bindings.find? n = some u ↔ (n, u) ∈ p.root.captured a := by
  -- the captured nodes as a map, by the first capture of each name
  let f (n : String) : Option Site := (p.root.captured a).lookup n
  have hf : Bindings.Assigns f (p.root.captured a) := by
    rintro ⟨n, u⟩ hu
    cases hn : f n with
    | none =>
        have hne := List.lookup_eq_none_iff.mp hn (n, u) hu
        simp at hne
    | some v =>
        exact congrArg some (h.captured_unique n v u (Bindings.mem_of_find? hn) hu)
  obtain ⟨d, hd, hjoin⟩ := NodePattern.exists_answer (p.grounds_within t) p.root h.root_in
    Bindings.in_nil h.satisfied (f := f) nofun hf
  obtain ⟨e, he, hsame⟩ := exists_mem_distinctBindings hd Std.HashSet.not_mem_empty
  have hfind := ((bindings_in_of_mem_answers h.root_in (mem_of_mem_distinctBindings he).1)
    |>.sortedPlaces_eq_iff (bindings_in_of_mem_answers h.root_in hd)).mp hsame
  refine ⟨⟨a.node [], e⟩, ?_, rfl, fun n u => ?_⟩
  · rw [allMatches_eq, List.mem_flatMap]
    exact ⟨_, Site.mem_preorder_top.mpr h.root_in, List.mem_map_of_mem he⟩
  · exact (hfind n ▸ hjoin n u).trans (by simp [Bindings.find?])

theorem pairwise_allMatches (p : CompiledPattern) (t : Tree) : (p.allMatches t).Pairwise fun m m' =>
    ¬(m.anchor = m'.anchor ∧ ∀ n, m.bindings.find? n = m'.bindings.find? n) := by
  rw [allMatches_eq, List.pairwise_flatMap]
  constructor
  · intro s hs
    have hin := Site.mem_preorder_top.mp hs
    rw [meantAt, List.pairwise_map]
    refine pairwise_distinctBindings.imp_of_mem ?_
    rintro b d hb hd hne ⟨_, hfind⟩
    exact hne ((bindings_in_of_mem_answers hin (mem_of_mem_distinctBindings hb).1
      |>.sortedPlaces_eq_iff (bindings_in_of_mem_answers hin
        (mem_of_mem_distinctBindings hd).1)).mpr hfind)
  · refine (Site.nodup_preorder _).imp ?_
    rintro s u hne m hm m' hm' ⟨hanchor, _⟩
    obtain ⟨_, _, rfl⟩ := List.mem_map.mp hm
    obtain ⟨_, _, rfl⟩ := List.mem_map.mp hm'
    exact hne hanchor

theorem anchors_allMatches (p : CompiledPattern) (t : Tree) : (p.allMatches t).map Match.anchor =
    (Site.top t).preorder.flatMap fun s => List.replicate (p.meantAt t s).length s := by
  rw [allMatches_eq, List.map_flatMap]
  congr 1
  funext s
  rw [List.eq_replicate_iff]
  refine ⟨List.length_map _, fun u hu => ?_⟩
  obtain ⟨m, hm, rfl⟩ := List.mem_map.mp hu
  obtain ⟨_, _, rfl⟩ := List.mem_map.mp hm
  rfl

/-- A cursor goes through the matches of a pattern without negated and optional constraints: these
are the anchors and captured nodes of the assignments that solve it, each once, the anchors in
preorder. -/
theorem matches_iff_solutions (p : CompiledPattern) (t : Tree) (hp : p.root.Positive) :
    (Cursor.start p t).Yields (p.allMatches t) ∧
      (∀ s (f : String → Option Site),
        (∃ m ∈ p.allMatches t, m.anchor = s ∧ ∀ n, m.bindings.find? n = f n) ↔
          ∃ a : Assignment, a.Solves p t ∧ a.node [] = s ∧
            ∀ n u, f n = some u ↔ (n, u) ∈ p.root.captured a) ∧
      ((p.allMatches t).Pairwise fun m m' =>
        ¬(m.anchor = m'.anchor ∧ ∀ n, m.bindings.find? n = m'.bindings.find? n)) ∧
      ∃ count : Site → Nat, (p.allMatches t).map Match.anchor =
        (Site.top t).preorder.flatMap fun s => List.replicate (count s) s := by
  refine ⟨Cursor.start_yields p t, fun s f => ⟨?_, ?_⟩, pairwise_allMatches p t, _,
    anchors_allMatches p t⟩
  · rintro ⟨m, hm, rfl, hfind⟩
    obtain ⟨a, hsolves, hnode, hcaptured⟩ := exists_solves_of_mem_allMatches hp hm
    exact ⟨a, hsolves, hnode, fun n u => hfind n ▸ hcaptured n u⟩
  · rintro ⟨a, hsolves, rfl, hcaptured⟩
    obtain ⟨m, hm, hanchor, hfind⟩ := exists_mem_allMatches_of_solves hsolves
    refine ⟨m, hm, hanchor, fun n => ?_⟩
    ext u
    rw [hfind, hcaptured]

/-- A node that has a mother or a child is found by its child: an assignment chooses the second item,
and a match captures what it assigns. -/
theorem match_of_second_item :
    let fits (name : String) := NodePattern.node (some ⟨[.any], false⟩) (some name) none
    let choice := Constraint.choice [.rel .childOf (fits "mother"), .rel .parentOf (fits "child")]
    let root := NodePattern.node (some ⟨[.any], false⟩) (some "node") (some choice)
    let p : CompiledPattern :=
      ⟨"__=node [> __=mother | < __=child]", root, ⟨HeadFinder.firstChild, id⟩⟩
    let t := Tree.node "A" [.node "B" []]
    let child : Site := ⟨.node "B" [], [(0, t)]⟩
    root.Positive ∧ ∃ m ∈ p.allMatches t, m.anchor = .top t ∧
      ∀ n, m.bindings.find? n = [("node", .top t), ("child", child)].lookup n := by
  intro fits choice root p t child
  let a : Assignment := ⟨fun _ => 1, fun part => if part = [] then .top t else child⟩
  have hpositive : root.Positive := ⟨trivial, trivial, trivial⟩
  have hcaptured : p.root.captured a = [("node", .top t), ("child", child)] := rfl
  have hsolves : a.Solves p t := by
    refine ⟨.top, ?_, ?_⟩
    · exact ⟨rfl, List.mem_singleton.mpr rfl, rfl, trivial⟩
    · rintro n u v hu hv
      simp only [hcaptured, List.mem_cons, Prod.mk.injEq, List.not_mem_nil, or_false] at hu hv
      grind
  refine ⟨hpositive, ?_⟩
  obtain ⟨_, hmatch, _⟩ := matches_iff_solutions p t hpositive
  refine (hmatch (.top t) ([("node", .top t), ("child", child)].lookup ·)).mpr ⟨a, hsolves, rfl, ?_⟩
  intro n u
  rw [hcaptured]
  simp only [List.lookup_cons, List.lookup_nil, List.mem_cons, Prod.mk.injEq, List.not_mem_nil,
    or_false]
  grind

end CompiledPattern

end Treebank
