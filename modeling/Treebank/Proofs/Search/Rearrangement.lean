import Treebank.Proofs.Search.Reports

/-!
# Patterns with parts in another order

The items of a choice can be put into any order, and two neighbouring items of a conjunction can be
swapped if nothing in them is negated or optional. A pattern finds the same matches after that, in
another order at most. What is negated or optional asks only whether there are answers, but it sees the
bindings made so far: such an item has to stay where it is.
-/

namespace Treebank

/-! ## Rearranged patterns -/

mutual
/-- The patterns differ only in the order of items of choices, and of neighbouring items of
conjunctions that have no negated and no optional parts. -/
inductive NodePattern.Rearranged : NodePattern → NodePattern → Prop where
  | refl (p : NodePattern) : NodePattern.Rearranged p p
  | trans {p q r : NodePattern} :
      NodePattern.Rearranged p q → NodePattern.Rearranged q r → NodePattern.Rearranged p r
  | node (label : Option Description) (name : Option String) {c d : Constraint} :
      Constraint.Rearranged c d →
      NodePattern.Rearranged (.node label name (some c)) (.node label name (some d))
/-- The constraints differ only in the order of such items. -/
inductive Constraint.Rearranged : Constraint → Constraint → Prop where
  | permute {items items' : List Constraint} : items.Perm items' →
      Constraint.Rearranged (.choice items) (.choice items')
  | swap (before after : List Constraint) {c d : Constraint} : c.Positive → d.Positive →
      Constraint.Rearranged (.all (before ++ c :: d :: after)) (.all (before ++ d :: c :: after))
  | refl (c : Constraint) : Constraint.Rearranged c c
  | trans {c d e : Constraint} :
      Constraint.Rearranged c d → Constraint.Rearranged d e → Constraint.Rearranged c e
  | rel (r : Relation) {p q : NodePattern} :
      NodePattern.Rearranged p q → Constraint.Rearranged (.rel r p) (.rel r q)
  | all (before after : List Constraint) {c d : Constraint} : Constraint.Rearranged c d →
      Constraint.Rearranged (.all (before ++ c :: after)) (.all (before ++ d :: after))
  | choice (before after : List Constraint) {c d : Constraint} : Constraint.Rearranged c d →
      Constraint.Rearranged (.choice (before ++ c :: after)) (.choice (before ++ d :: after))
  | not {c d : Constraint} : Constraint.Rearranged c d → Constraint.Rearranged (.not c) (.not d)
  | maybe {c d : Constraint} :
      Constraint.Rearranged c d → Constraint.Rearranged (.maybe c) (.maybe d)
end

/-! ## Answers up to the order of binding -/

namespace Bindings

/-- The bindings are the same map. -/
def Agree (b b' : Bindings) : Prop := ∀ n, b.find? n = b'.find? n

variable {b b' d d' : Bindings} {as as' bs bs' cs : List Bindings}

theorem Agree.refl (b : Bindings) : Agree b b := fun _ => rfl

theorem Agree.symm (h : Agree b b') : Agree b' b := fun n => (h n).symm

theorem Agree.trans (h : Agree b b') (h' : Agree b' d) : Agree b d := fun n => (h n).trans (h' n)

/-- Each member of the first list is the same map as one of the second. -/
def MapsAmong (as as' : List Bindings) : Prop := ∀ d ∈ as, ∃ d' ∈ as', Agree d d'

theorem MapsAmong.of_subset (h : as ⊆ as') : MapsAmong as as' := by
  intro d hd
  exact ⟨d, h hd, .refl d⟩

theorem MapsAmong.trans (h : MapsAmong as bs) (h' : MapsAmong bs cs) : MapsAmong as cs := by
  intro d hd
  obtain ⟨e, he, hde⟩ := h d hd
  obtain ⟨f, hf, hef⟩ := h' e he
  exact ⟨f, hf, hde.trans hef⟩

theorem MapsAmong.eq_nil (h : MapsAmong as []) : as = [] := by
  cases as with
  | nil => rfl
  | cons d as =>
      obtain ⟨e, he, _⟩ := h d List.mem_cons_self
      cases he

theorem MapsAmong.append (h : MapsAmong as as') (h' : MapsAmong bs bs') :
    MapsAmong (as ++ bs) (as' ++ bs') := by
  intro d hd
  rcases List.mem_append.mp hd with hd | hd
  · obtain ⟨e, he, hde⟩ := h d hd
    exact ⟨e, List.mem_append_left _ he, hde⟩
  · obtain ⟨e, he, hde⟩ := h' d hd
    exact ⟨e, List.mem_append_right _ he, hde⟩

/-- What extends the first bindings extends the second in the same way, if equal maps have equal
extensions. -/
theorem MapsAmong.flatMap {f : Bindings → List Bindings} (h : MapsAmong as as')
    (hf : ∀ d d', Agree d d' → MapsAmong (f d) (f d')) :
    MapsAmong (as.flatMap f) (as'.flatMap f) := by
  intro e he
  obtain ⟨d, hd, he⟩ := List.mem_flatMap.mp he
  obtain ⟨d', hd', hagree⟩ := h d hd
  obtain ⟨e', he', hsame⟩ := hf d d' hagree e he
  exact ⟨e', List.mem_flatMap.mpr ⟨d', hd', he'⟩, hsame⟩

/-- The members of the two lists are the same maps. -/
def SameMaps (as as' : List Bindings) : Prop := MapsAmong as as' ∧ MapsAmong as' as

theorem SameMaps.symm (h : SameMaps as as') : SameMaps as' as := ⟨h.2, h.1⟩

theorem SameMaps.of_mem_iff (h : ∀ d, d ∈ as ↔ d ∈ as') : SameMaps as as' :=
  ⟨.of_subset fun d hd => (h d).mp hd, .of_subset fun d hd => (h d).mpr hd⟩

theorem SameMaps.refl (as : List Bindings) : SameMaps as as := .of_mem_iff fun _ => Iff.rfl

theorem SameMaps.trans (h : SameMaps as bs) (h' : SameMaps bs cs) : SameMaps as cs :=
  ⟨h.1.trans h'.1, h'.2.trans h.2⟩

theorem SameMaps.isEmpty_eq (h : SameMaps as as') : as.isEmpty = as'.isEmpty := by
  rw [Bool.eq_iff_iff, List.isEmpty_iff, List.isEmpty_iff]
  constructor
  · rintro rfl
    exact h.2.eq_nil
  · rintro rfl
    exact h.1.eq_nil

theorem SameMaps.append (h : SameMaps as as') (h' : SameMaps bs bs') :
    SameMaps (as ++ bs) (as' ++ bs') :=
  ⟨h.1.append h'.1, h.2.append h'.2⟩

theorem SameMaps.flatMap {f : Bindings → List Bindings} (h : SameMaps as as')
    (hf : ∀ d d', Agree d d' → SameMaps (f d) (f d')) :
    SameMaps (as.flatMap f) (as'.flatMap f) :=
  ⟨h.1.flatMap fun d d' hagree => (hf d d' hagree).1,
    h.2.flatMap fun d d' hagree => (hf d d' hagree).1⟩

theorem sameMaps_flatMap {α : Type} {f f' : α → List Bindings} (xs : List α)
    (h : ∀ x ∈ xs, SameMaps (f x) (f' x)) : SameMaps (xs.flatMap f) (xs.flatMap f') := by
  induction xs with
  | nil => exact .refl []
  | cons x xs ih =>
      obtain ⟨hx, hxs⟩ := List.forall_mem_cons.mp h
      simp only [List.flatMap_cons]
      exact hx.append (ih hxs)

theorem Agree.agreeOn (h : Agree b b') (names : List String) : AgreeOn names b b' :=
  fun n _ => h n

/-- Equal maps are extended in the same ways. -/
theorem Parallel.sameMaps (h : Parallel b b' as as') (hb : Agree b b') : SameMaps as as' := by
  obtain ⟨ds, rfl, rfl⟩ := h
  have hagree : ∀ d, Agree (b ++ d) (b' ++ d) := by
    intro d n
    rw [find?_append, find?_append, hb n]
  constructor
  · intro e he
    obtain ⟨d, hd, rfl⟩ := List.mem_map.mp he
    exact ⟨b' ++ d, List.mem_map_of_mem hd, hagree d⟩
  · intro e he
    obtain ⟨d, hd, rfl⟩ := List.mem_map.mp he
    exact ⟨b ++ d, List.mem_map_of_mem hd, (hagree d).symm⟩

end Bindings

open Bindings

/-! ## Lists of constraints -/

variable {g : Grounds} {t : Tree} {s : Site} {b d : Bindings}

theorem Constraint.answersAll_append (cs ds : List Constraint) :
    Constraint.answersAll g (cs ++ ds) s b =
      (Constraint.answersAll g cs s b).flatMap (Constraint.answersAll g ds s) := by
  induction cs generalizing b with
  | nil => simp [Constraint.answersAll]
  | cons c cs ih => simp only [List.cons_append, Constraint.answersAll, ih, List.flatMap_assoc]

theorem Constraint.mem_answersEach {cs : List Constraint} :
    d ∈ Constraint.answersEach g cs s b ↔ ∃ c ∈ cs, d ∈ c.answers g s b := by
  induction cs with
  | nil => simp [Constraint.answersEach]
  | cons c cs ih => simp [Constraint.answersEach, ih]

theorem Constraint.answersEach_append (cs ds : List Constraint) :
    Constraint.answersEach g (cs ++ ds) s b =
      Constraint.answersEach g cs s b ++ Constraint.answersEach g ds s b := by
  induction cs with
  | nil => rfl
  | cons c cs ih => simp only [List.cons_append, Constraint.answersEach, ih, List.append_assoc]

/-- A part of a conjunction can be replaced by one with the same answers. -/
theorem Constraint.answersAll_replace (hg : g.Within t) (before after : List Constraint)
    (cs ds : List Constraint) (hs : s.In t) (hb : b.In t) (h : ∀ b, b.In t →
      SameMaps (Constraint.answersAll g cs s b) (Constraint.answersAll g ds s b)) :
    SameMaps (Constraint.answersAll g (before ++ (cs ++ after)) s b)
      (Constraint.answersAll g (before ++ (ds ++ after)) s b) := by
  rw [Constraint.answersAll_append, Constraint.answersAll_append]
  apply sameMaps_flatMap
  intro b₁ hb₁
  rw [Constraint.answersAll_append, Constraint.answersAll_append]
  apply (h b₁ (Constraint.answersAll_in hg before hs hb hb₁)).flatMap
  intro e e' hagree
  exact (Constraint.answersAll_parallel g after s (hagree.agreeOn _)).sameMaps hagree

/-! ## Swapped items -/

/-- What two items bind one after the other, they bind in the other order too: the first answer of
both says which nodes the names have, and nothing that either item needs contradicts it. -/
theorem Constraint.exists_answer_swap (hg : g.Within t) {c c' : Constraint} (hc : c.Positive)
    (hc' : c'.Positive) (hs : s.In t) (hb : b.In t) (hd : d ∈ Constraint.answersAll g [c, c'] s b) :
    ∃ e ∈ Constraint.answersAll g [c', c] s b, Agree d e := by
  simp only [Constraint.answersAll, List.mem_flatMap, List.mem_singleton] at hd
  obtain ⟨b₁, hb₁, b₂, hb₂, rfl⟩ := hd
  have hin₁ := Constraint.answers_in hg c hs hb hb₁
  obtain ⟨a, hsat, hjoin⟩ := Constraint.exists_satisfied hg c hc hs hb hb₁
  obtain ⟨a', hsat', hjoin'⟩ := Constraint.exists_satisfied hg c' hc' hs hin₁ hb₂
  have hboth := hjoin.trans hjoin'
  have hcaptured : Assigns d.find? (c.captured a ++ c'.captured a') :=
    fun e he => (hboth e.1 e.2).mpr (Or.inr he)
  obtain ⟨hcap, hcap'⟩ := List.forall_mem_append.mp hcaptured
  have hext : Extends d.find? b := fun n u hu => (hboth n u).mpr (Or.inl hu)
  obtain ⟨e₁, he₁, hfirst⟩ := Constraint.exists_answer hg c' hs hb hsat' hext hcap'
  have hin := Constraint.answers_in hg c' hs hb he₁
  obtain ⟨e, he, hsecond⟩ :=
    Constraint.exists_answer hg c hs hin hsat (hext.joins hcap' hfirst) hcap
  refine ⟨e, ?_, ?_⟩
  · simp only [Constraint.answersAll, List.mem_flatMap, List.mem_singleton]
    exact ⟨e₁, he₁, e, he, rfl⟩
  · intro n
    ext u
    rw [hboth n u, hfirst.trans hsecond n u, List.mem_append, List.mem_append,
      or_comm (a := (n, u) ∈ c.captured a)]

theorem Constraint.sameMaps_swap (hg : g.Within t) {c c' : Constraint} (hc : c.Positive)
    (hc' : c'.Positive) (hs : s.In t) (hb : b.In t) :
    SameMaps (Constraint.answersAll g [c, c'] s b) (Constraint.answersAll g [c', c] s b) := by
  constructor
  · intro d hd
    exact Constraint.exists_answer_swap hg hc hc' hs hb hd
  · intro d hd
    exact Constraint.exists_answer_swap hg hc' hc hs hb hd

/-! ## Rearranged patterns have the same answers -/

mutual
theorem NodePattern.Rearranged.sameMaps (hg : g.Within t) : {p q : NodePattern} → {s : Site} →
    {b : Bindings} → p.Rearranged q → s.In t → b.In t →
    SameMaps (p.answers g s b) (q.answers g s b)
  | _, _, _, _, .refl _, _, _ => .refl _
  | _, _, _, _, .trans h h', hs, hb => (h.sameMaps hg hs hb).trans (h'.sameMaps hg hs hb)
  | _, _, s, b, .node label name h, hs, hb => by
      simp only [NodePattern.answers]
      split
      · cases hcap : b.capture? name s with
        | none => exact .refl []
        | some b₁ => exact h.sameMaps hg hs (hb.capture? hs hcap)
      · exact .refl []
theorem Constraint.Rearranged.sameMaps (hg : g.Within t) : {c d : Constraint} → {s : Site} →
    {b : Bindings} → c.Rearranged d → s.In t → b.In t →
    SameMaps (c.answers g s b) (d.answers g s b)
  | _, _, s, b, .permute hperm, hs, hb => by
      apply SameMaps.of_mem_iff
      intro d
      simp only [Constraint.answers, Constraint.mem_answersEach, hperm.mem_iff]
  | _, _, s, b, @Constraint.Rearranged.swap before after c d hc hd, hs, hb => by
      apply Constraint.answersAll_replace hg before after [c, d] [d, c] hs hb
      intro b₁ hin
      exact Constraint.sameMaps_swap hg hc hd hs hin
  | _, _, _, _, .refl _, _, _ => .refl _
  | _, _, _, _, .trans h h', hs, hb => (h.sameMaps hg hs hb).trans (h'.sameMaps hg hs hb)
  | _, _, s, b, .rel r h, hs, hb => by
      simp only [Constraint.answers]
      apply sameMaps_flatMap
      intro u hu
      exact h.sameMaps hg (Relation.in_of_mem_candidates hg hs hu) hb
  | _, _, s, b, @Constraint.Rearranged.all before after c d h, hs, hb => by
      apply Constraint.answersAll_replace hg before after [c] [d] hs hb
      intro b₁ hin
      simpa [Constraint.answersAll] using h.sameMaps hg hs hin
  | _, _, s, b, .choice before after h, hs, hb => by
      simp only [Constraint.answers, Constraint.answersEach_append, Constraint.answersEach]
      exact (SameMaps.refl _).append ((h.sameMaps hg hs hb).append (.refl _))
  | _, _, s, b, .not h, hs, hb => by
      simp only [Constraint.answers, (h.sameMaps hg hs hb).isEmpty_eq]
      exact .refl _
  | _, _, s, b, .maybe h, hs, hb => by
      have hitem := h.sameMaps hg hs hb
      simp only [Constraint.answers, hitem.isEmpty_eq]
      split
      · exact .refl _
      · exact hitem
end

/-! ## Rearranged patterns find the same matches -/

/-- The node of a match, and its bindings as a map. -/
def Match.told (m : Match) : Site × (String → Option Site) := (m.anchor, m.bindings.find?)

namespace CompiledPattern

variable {p q : CompiledPattern}

theorem nodup_told (p : CompiledPattern) (t : Tree) : ((p.allMatches t).map Match.told).Nodup := by
  rw [List.Nodup, List.pairwise_map]
  apply (pairwise_allMatches p t).imp
  intro m m' hne heq
  simp only [Match.told, Prod.mk.injEq] at heq
  exact hne ⟨heq.1, fun n => congrFun heq.2 n⟩

/-- A match is told for each answer at a node of the tree. -/
theorem mem_told_iff {s : Site} {f : String → Option Site} :
    (s, f) ∈ (p.allMatches t).map Match.told ↔
      s.In t ∧ ∃ b ∈ p.root.answers (p.grounds t) s [], b.find? = f := by
  simp only [List.mem_map, Match.told, Prod.mk.injEq]
  constructor
  · rintro ⟨m, hm, rfl, rfl⟩
    obtain ⟨hanchor, hanswer⟩ := mem_allMatches hm
    exact ⟨hanchor, m.bindings, hanswer, rfl⟩
  · rintro ⟨hs, b, hb, rfl⟩
    obtain ⟨d, hd, hplaces⟩ := exists_mem_distinctBindings hb Std.HashSet.not_mem_empty
    have hin := bindings_in_of_mem_answers hs hb
    have hin' := bindings_in_of_mem_answers hs (mem_of_mem_distinctBindings hd).1
    refine ⟨⟨s, d⟩, ?_, rfl, funext ((hin'.sortedPlaces_eq_iff hin).mp hplaces)⟩
    rw [allMatches_eq, List.mem_flatMap]
    exact ⟨s, Site.mem_preorder_top.mpr hs, List.mem_map_of_mem hd⟩

theorem told_subset (h : ∀ s, s.In t →
    SameMaps (p.root.answers (p.grounds t) s []) (q.root.answers (q.grounds t) s [])) :
    (p.allMatches t).map Match.told ⊆ (q.allMatches t).map Match.told := by
  rintro ⟨s, f⟩ hf
  obtain ⟨hs, b, hb, rfl⟩ := mem_told_iff.mp hf
  obtain ⟨d, hd, hagree⟩ := (h s hs).1 b hb
  exact mem_told_iff.mpr ⟨hs, d, hd, funext hagree.symm⟩

/-- Cursors for two patterns that differ only in the order of such items go through matches at the
same nodes with the same bindings, each once; only the order of the matches may differ. -/
theorem matches_perm_of_rearranged (h : p.root.Rearranged q.root)
    (hstrategies : p.strategies = q.strategies) (t : Tree) :
    (Cursor.start p t).Yields (p.allMatches t) ∧ (Cursor.start q t).Yields (q.allMatches t) ∧
      ((p.allMatches t).map Match.told).Perm ((q.allMatches t).map Match.told) := by
  have hgrounds : p.grounds t = q.grounds t := by rw [grounds, grounds, hstrategies]
  have hanswers : ∀ s, s.In t →
      SameMaps (p.root.answers (p.grounds t) s []) (q.root.answers (q.grounds t) s []) := by
    intro s hs
    rw [← hgrounds]
    exact h.sameMaps (p.grounds_within t) hs Bindings.in_nil
  have hsubset := told_subset hanswers
  have hsubset' := told_subset fun s hs => (hanswers s hs).symm
  refine ⟨Cursor.start_yields p t, Cursor.start_yields q t, ?_⟩
  rw [List.perm_ext_iff_of_nodup (nodup_told p t) (nodup_told q t)]
  exact fun _ => ⟨fun hm => hsubset hm, fun hm => hsubset' hm⟩

/-- With the alternatives the other way round, the other child is found first; the same matches are
found in all, also with the items of a negated choice and of a conjunction the other way round. -/
theorem matches_perm_of_child_or_child :
    let labelled (label : String) (name : Option String) :=
      NodePattern.node (some ⟨[.literal label], false⟩) name none
    let first := Constraint.rel .parentOf (labelled "B" (some "x"))
    let second := Constraint.rel .parentOf (labelled "C" (some "x"))
    let mother := Constraint.rel .childOf (labelled "S" none)
    let last := Constraint.rel .parentOf (labelled "D" none)
    let anyChild := Constraint.rel .parentOf (.node (some ⟨[.any], false⟩) none none)
    let root (items : List Constraint) :=
      NodePattern.node (some ⟨[.literal "A"], false⟩) (some "a") (some (.all items))
    let strategies : Strategies := ⟨HeadFinder.firstChild, id⟩
    let p : CompiledPattern := ⟨"A=a ![< D | > S] < __ [< B=x | < C=x]",
      root [.not (.choice [last, mother]), anyChild, .choice [first, second]], strategies⟩
    let q : CompiledPattern := ⟨"A=a ![> S | < D] [< C=x | < B=x] < __",
      root [.not (.choice [mother, last]), .choice [second, first], anyChild], strategies⟩
    let t := Tree.node "A" [.node "B" [], .node "C" []]
    p.root.Rearranged q.root ∧
      (p.firstMatch? t).map (·.bindings.places) = some [("a", []), ("x", [0])] ∧
      (q.firstMatch? t).map (·.bindings.places) = some [("a", []), ("x", [1])] ∧
      ((p.allMatches t).map Match.told).Perm ((q.allMatches t).map Match.told) := by
  intro labelled first second mother last anyChild root strategies p q t
  have hrearranged : p.root.Rearranged q.root := by
    refine .node _ _ (.trans (.all [] _ (.not (.permute (.swap mother last [])))) ?_)
    refine .trans (.all [_, _] [] (.permute (.swap second first []))) ?_
    exact .swap [_] [] trivial ⟨trivial, trivial, trivial⟩
  refine ⟨hrearranged, ?_, ?_, (matches_perm_of_rearranged hrearranged rfl t).2.2⟩
  · rw [firstMatch?_eq]
    rfl
  · rw [firstMatch?_eq]
    rfl

end CompiledPattern

end Treebank
