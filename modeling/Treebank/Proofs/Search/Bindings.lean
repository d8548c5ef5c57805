import Treebank.Proofs.Site
import Treebank.Search.Bindings

/-!
# Bindings as maps

Bindings of a tree bind each name once, to a node of the tree. Two such bindings have the same places
by name if and only if they are the same map.
-/

namespace Treebank.Bindings

variable {t : Tree} {s : Site} {b b' d : Bindings} {n : String}

/-- The bindings bind each name once, to a node of the tree. -/
structure In (t : Tree) (b : Bindings) : Prop where
  names_nodup : (b.map (·.1)).Nodup
  sites_in : ∀ e ∈ b, e.2.In t

theorem in_nil : In t [] := ⟨List.nodup_nil, nofun⟩

/-! ## Looking up -/

theorem find?_append : find? (b ++ d) n = (b.find? n).or (d.find? n) := List.lookup_append

theorem mem_of_find? (h : b.find? n = some s) : (n, s) ∈ b := by
  obtain ⟨l₁, l₂, rfl, _⟩ := List.lookup_eq_some_iff.mp h
  simp

theorem In.find?_eq_some_iff (hb : b.In t) : b.find? n = some s ↔ (n, s) ∈ b := by
  refine ⟨mem_of_find?, fun h => ?_⟩
  obtain ⟨l₁, l₂, rfl⟩ := List.append_of_mem h
  refine List.lookup_eq_some_iff.mpr ⟨l₁, l₂, rfl, fun e he => ?_⟩
  have hnames := hb.names_nodup
  simp only [List.map_append, List.map_cons, List.nodup_append] at hnames
  have hne := hnames.2.2 e.1 (List.mem_map_of_mem he) n List.mem_cons_self
  simpa using Ne.symm hne

theorem In.site_in (hb : b.In t) (h : b.find? n = some s) : s.In t :=
  hb.sites_in _ (mem_of_find? h)

theorem find?_eq_none_iff : b.find? n = none ↔ n ∉ b.map (·.1) := by
  simp only [find?, List.lookup_eq_none_iff, List.mem_map]
  constructor
  · rintro h ⟨e, he, rfl⟩
    simpa using h e he
  · intro h e he
    simpa using fun hn => h ⟨e, he, hn.symm⟩

/-! ## Binding a further name -/

/-- A node is bound to a name in one of three ways: there is no name, the name is free, or it is bound
to that node already. -/
theorem capture?_cases {name : Option String} (h : b.capture? name s = some d) :
    (name = none ∧ d = b) ∨
    (∃ n, name = some n ∧ b.find? n = none ∧ d = b ++ [(n, s)]) ∨
    (∃ n u, name = some n ∧ b.find? n = some u ∧ u.same s = true ∧ d = b) := by
  cases name with
  | none => exact Or.inl ⟨rfl, (Option.some.inj h).symm⟩
  | some n =>
      simp only [capture?, bind?] at h
      split at h
      · rename_i hn
        exact Or.inr (Or.inl ⟨n, rfl, hn, (Option.some.inj h).symm⟩)
      · rename_i u hn
        split at h
        · rename_i hu
          exact Or.inr (Or.inr ⟨n, u, rfl, hn, hu, (Option.some.inj h).symm⟩)
        · simp at h

theorem In.capture? {name : Option String} (hb : b.In t) (hs : s.In t)
    (h : b.capture? name s = some d) : d.In t := by
  rcases capture?_cases h with ⟨_, rfl⟩ | ⟨n, _, hn, rfl⟩ | ⟨n, u, _, _, _, rfl⟩
  · exact hb
  · constructor
    · rw [List.map_append, List.nodup_append]
      refine ⟨hb.names_nodup, by simp, ?_⟩
      rintro m hm k hk rfl
      simp only [List.map_cons, List.map_nil, List.mem_singleton] at hk
      exact find?_eq_none_iff.mp hn (hk ▸ hm)
    · intro e he
      rcases List.mem_append.mp he with he | he
      · exact hb.sites_in e he
      · rw [List.mem_singleton.mp he]
        exact hs
  · exact hb

/-! ## Bindings that agree on names -/

/-- The names are bound to the same nodes. -/
def AgreeOn (names : List String) (b b' : Bindings) : Prop := ∀ n ∈ names, b.find? n = b'.find? n

theorem AgreeOn.mono {names names' : List String} (h : AgreeOn names b b') (hsub : names' ⊆ names) :
    AgreeOn names' b b' := fun n hn => h n (hsub hn)

theorem AgreeOn.append {names : List String} (h : AgreeOn names b b') (d : Bindings) :
    AgreeOn names (b ++ d) (b' ++ d) := by
  intro n hn
  rw [find?_append, find?_append, h n hn]

/-- Bindings that agree on a name are extended by it in the same way. -/
theorem AgreeOn.capture? {name : Option String} (h : AgreeOn name.toList b b') (s : Site) :
    ∃ new : Option Bindings, b.capture? name s = new.map (b ++ ·) ∧
      b'.capture? name s = new.map (b' ++ ·) := by
  cases name with
  | none => exact ⟨some [], by simp [Bindings.capture?], by simp [Bindings.capture?]⟩
  | some n =>
      have hn := h n (by simp)
      simp only [Bindings.capture?, bind?, ← hn]
      split
      · exact ⟨some [(n, s)], rfl, rfl⟩
      · split
        · exact ⟨some [], by simp, by simp⟩
        · exact ⟨none, rfl, rfl⟩

theorem In.restrict (hb : b.In t) (names : List String) : (b.restrict names).In t :=
  ⟨hb.names_nodup.sublist (List.filter_sublist.map _),
    fun e he => hb.sites_in e (List.mem_filter.mp he).1⟩

theorem find?_restrict {names : List String} (hn : n ∈ names) :
    (b.restrict names).find? n = b.find? n := by
  induction b with
  | nil => rfl
  | cons e b ih =>
      obtain ⟨m, u⟩ := e
      simp only [find?, Bindings.restrict] at ih ⊢
      by_cases hm : m ∈ names
      · rw [List.filter_cons_of_pos (by simpa using hm), List.lookup_cons, List.lookup_cons, ih]
      · rw [List.filter_cons_of_neg (by simpa using hm), List.lookup_cons, ih]
        have hne : (n == m) = false := by
          rw [beq_eq_false_iff_ne]
          rintro rfl
          exact hm hn
        rw [hne]

/-! ## Places by name -/

theorem In.mem_places_iff (hb : b.In t) (hs : s.In t) : (n, s.steps) ∈ b.places ↔ (n, s) ∈ b := by
  simp only [places, List.mem_map, Prod.exists, Prod.mk.injEq]
  constructor
  · rintro ⟨_, u, hu, rfl, hsteps⟩
    exact (hb.sites_in _ hu).eq_of_steps hs hsteps ▸ hu
  · exact fun h => ⟨n, s, h, rfl, rfl⟩

theorem sortedPlaces_perm (b : Bindings) : b.sortedPlaces.Perm b.places := List.mergeSort_perm _ _

theorem sortedPlaces_pairwise (b : Bindings) :
    b.sortedPlaces.Pairwise fun x y => decide (x.1 ≤ y.1) = true :=
  List.pairwise_mergeSort (fun x y z => by simpa using String.le_trans)
    (fun x y => by simpa using String.le_total x.1 y.1) _

theorem In.find?_of_sortedPlaces (hb : b.In t) (hb' : b'.In t)
    (h : b.sortedPlaces = b'.sortedPlaces) (hs : b.find? n = some s) : b'.find? n = some s := by
  have hin := hb.site_in hs
  have hperm : b.places.Perm b'.places :=
    (sortedPlaces_perm b).symm.trans (h ▸ sortedPlaces_perm b')
  rw [hb.find?_eq_some_iff, ← hb.mem_places_iff hin, hperm.mem_iff, hb'.mem_places_iff hin] at hs
  exact hb'.find?_eq_some_iff.mpr hs

theorem In.nodup (hb : b.In t) : b.Nodup :=
  List.Pairwise.of_map (·.1) (fun _ _ hne he => hne (congrArg _ he)) hb.names_nodup

/-- Bindings have the same places by name if and only if they are the same map. -/
theorem In.sortedPlaces_eq_iff (hb : b.In t) (hb' : b'.In t) :
    b.sortedPlaces = b'.sortedPlaces ↔ ∀ n, b.find? n = b'.find? n := by
  constructor
  · intro h n
    ext s
    exact ⟨hb.find?_of_sortedPlaces hb' h, hb'.find?_of_sortedPlaces hb h.symm⟩
  · intro h
    have hperm : b.Perm b' := by
      rw [List.perm_ext_iff_of_nodup hb.nodup hb'.nodup]
      rintro ⟨n, s⟩
      rw [← hb.find?_eq_some_iff, h n, hb'.find?_eq_some_iff]
    have hplaces : b.places.Perm b'.places := hperm.map _
    refine List.Perm.eq_of_pairwise ?_ (sortedPlaces_pairwise b) (sortedPlaces_pairwise b')
      ((sortedPlaces_perm b).trans (hplaces.trans (sortedPlaces_perm b').symm))
    -- no two places have the same name, so equal names make equal places
    intro x y hx hy hxy hyx
    simp only [decide_eq_true_eq] at hxy hyx
    obtain ⟨⟨n, s⟩, hs, rfl⟩ := List.mem_map.mp ((sortedPlaces_perm b).mem_iff.mp hx)
    obtain ⟨⟨m, u⟩, hu, rfl⟩ :=
      List.mem_map.mp (hplaces.mem_iff.mpr ((sortedPlaces_perm b').mem_iff.mp hy))
    obtain rfl : n = m := String.le_antisymm hxy hyx
    have hsu := (hb.find?_eq_some_iff.mpr hs).symm.trans (hb.find?_eq_some_iff.mpr hu)
    rw [Option.some.inj hsu]

end Treebank.Bindings
