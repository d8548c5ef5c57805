/-!
# Runs and lists of entries

Programs that may fail keep their state when they do: one part after another is run from what the part
before it has left. In a list of entries, the first one with a name counts.
-/

namespace Treebank

theorem run_bind {ε σ α β : Type} (x : ExceptT ε (StateM σ) α) (k : α → ExceptT ε (StateM σ) β)
    (s : σ) : (x >>= k).run.run s = match x.run.run s with
      | (.ok a, s') => (k a).run.run s'
      | (.error e, s') => (.error e, s') := by
  simp only [ExceptT.run_bind, StateT.run_bind]
  rcases x.run.run s with ⟨_ | _, _⟩ <;> rfl

theorem run_get_bind {ε σ α : Type} (k : σ → ExceptT ε (StateM σ) α) (s : σ) :
    (get >>= k).run.run s = (k s).run.run s := rfl

theorem ok_bind {ε α β : Type} (a : α) (f : α → Except ε β) : (Except.ok a >>= f) = f a := rfl

theorem exists_of_bind_eq_ok {ε α β : Type} {x : Except ε α} {f : α → Except ε β} {b : β}
    (h : x >>= f = .ok b) : ∃ a, x = .ok a ∧ f a = .ok b := by
  cases x with
  | error e => cases h
  | ok a => exact ⟨a, rfl, h⟩

theorem exists_of_map_eq_ok {ε α β : Type} {x : Except ε α} {f : α → β} {b : β}
    (h : f <$> x = .ok b) : ∃ a, x = .ok a ∧ f a = b := by
  cases x with
  | error e => cases h
  | ok a => exact ⟨a, rfl, Except.ok.inj h⟩

theorem eq_error_of_map_eq_error {ε α β : Type} {x : Except ε α} {f : α → β} {e : ε}
    (h : f <$> x = .error e) : x = .error e := by
  cases x with
  | error e' => exact congrArg Except.error (Except.error.inj h)
  | ok a => cases h

theorem eq_ok_of_mapError {ε ε' α : Type} {x : Except ε α} {f : ε → ε'} {a : α}
    (h : x.mapError f = .ok a) : x = .ok a := by
  cases x with
  | error e => cases h
  | ok b => exact congrArg Except.ok (Except.ok.inj h)

/-! ## What programs leave behind -/

section
variable {ε σ α β : Type} {s : σ} {Q Q' : α → σ → Prop} {R : β → σ → Prop} {F F' : ε → σ → Prop}
  {x : ExceptT ε (StateM σ) α} {k : α → ExceptT ε (StateM σ) β}

/-- Run from a state, the program comes to its end as the one told, or it fails as the other. -/
def Concludes (s : σ) (x : ExceptT ε (StateM σ) α) (Q : α → σ → Prop) (F : ε → σ → Prop) : Prop :=
  match x.run.run s with
  | (.ok a, s') => Q a s'
  | (.error e, s') => F e s'

theorem concludes_pure {a : α} (h : Q a s) : Concludes s (pure a : ExceptT ε (StateM σ) α) Q F := h

theorem concludes_throw {e : ε} (h : F e s) : Concludes s (throw e : ExceptT ε (StateM σ) α) Q F := h

theorem concludes_throw_bind {e : ε} (h : F e s) :
    Concludes s ((throw e : ExceptT ε (StateM σ) α) >>= k) R F := h

theorem concludes_set {Q : PUnit → σ → Prop} {s' : σ} (h : Q ⟨⟩ s') :
    Concludes s (set s' : ExceptT ε (StateM σ) PUnit) Q F := h

theorem concludes_modify {Q : PUnit → σ → Prop} {g : σ → σ} (h : Q ⟨⟩ (g s)) :
    Concludes s (modify g : ExceptT ε (StateM σ) PUnit) Q F := h

theorem concludes_get_bind {k : σ → ExceptT ε (StateM σ) β} (h : Concludes s (k s) R F) :
    Concludes s (get >>= k) R F := h

theorem concludes_iff : Concludes s x Q F ↔ (∀ a s', x.run.run s = (.ok a, s') → Q a s') ∧
    ∀ e s', x.run.run s = (.error e, s') → F e s' := by
  unfold Concludes
  rcases x.run.run s with ⟨e | a, s'⟩
  · refine ⟨fun h => ⟨?_, ?_⟩, fun h => h.2 e s' rfl⟩
    · rintro _ _ ⟨⟩
    · rintro _ _ ⟨⟩
      exact h
  · refine ⟨fun h => ⟨?_, ?_⟩, fun h => h.1 a s' rfl⟩
    · rintro _ _ ⟨⟩
      exact h
    · rintro _ _ ⟨⟩

theorem Concludes.of_ok {a : α} {s' : σ} (h : Concludes s x Q F)
    (hrun : x.run.run s = (.ok a, s')) : Q a s' := (concludes_iff.mp h).1 a s' hrun

theorem Concludes.of_error {e : ε} {s' : σ} (h : Concludes s x Q F)
    (hrun : x.run.run s = (.error e, s')) : F e s' := (concludes_iff.mp h).2 e s' hrun

/-- What holds after success and after failure. -/
theorem Concludes.after {P : σ → Prop} (h : Concludes s x (fun _ s' => P s') fun _ s' => P s') :
    P (x.run.run s).2 := by
  unfold Concludes at h
  rcases hrun : x.run.run s with ⟨_ | _, _⟩
  · rw [hrun] at h
    exact h
  · rw [hrun] at h
    exact h

theorem Concludes.mono (h : Concludes s x Q F) (hQ : ∀ a s', Q a s' → Q' a s')
    (hF : ∀ e s', F e s' → F' e s') : Concludes s x Q' F' := by
  obtain ⟨hok, herror⟩ := concludes_iff.mp h
  exact concludes_iff.mpr ⟨fun a s' hrun => hQ a s' (hok a s' hrun),
    fun e s' hrun => hF e s' (herror e s' hrun)⟩

theorem Concludes.imp (h : Concludes s x Q F) (hQ : ∀ a s', Q a s' → Q' a s') :
    Concludes s x Q' F :=
  h.mono hQ fun _ _ => id

theorem Concludes.imp_error (h : Concludes s x Q F) (hF : ∀ e s', F e s' → F' e s') :
    Concludes s x Q F' :=
  h.mono (fun _ _ => id) hF

theorem Concludes.bind (hx : Concludes s x Q F) (hk : ∀ a s', Q a s' → Concludes s' (k a) R F) :
    Concludes s (x >>= k) R F := by
  unfold Concludes at hx ⊢
  rw [run_bind]
  rcases hfirst : x.run.run s with ⟨e | a, s'⟩
  · rw [hfirst] at hx
    exact hx
  · rw [hfirst] at hx
    exact hk a s' hx

end

/-- What a name stands for after the entries with some name have been changed. -/
theorem lookup_map {β : Type} (g : β → β) (entries : List (String × β)) (name other : String) :
    (entries.map fun (m, k) => if m == name then (m, g k) else (m, k)).lookup other =
      if other = name then (entries.lookup other).map g else entries.lookup other := by
  induction entries with
  | nil => simp
  | cons e entries ih =>
      obtain ⟨m, k⟩ := e
      rw [List.map_cons]
      by_cases hother : other = m
      · subst hother
        by_cases hname : other = name
        · simp [hname]
        · simp [hname]
      · have hne : (other == m) = false := beq_eq_false_iff_ne.mpr hother
        by_cases hm : m = name
        · simp only [hm, beq_self_eq_true, if_true] at hne ⊢
          rw [List.lookup_cons, List.lookup_cons, hne]
          exact ih
        · simp only [beq_eq_false_iff_ne.mpr hm, Bool.false_eq_true, if_false]
          rw [List.lookup_cons, List.lookup_cons, hne]
          exact ih

/-- What a name stands for after something has been found for every entry. -/
theorem lookup_filterMap {α β : Type} (g : α → Option β) {entries : List (String × α)}
    (h : ∀ e ∈ entries, ∃ b, g e.2 = some b) (name : String) :
    (entries.filterMap fun (m, a) => (g a).map (m, ·)).lookup name =
      (entries.lookup name).bind g := by
  induction entries with
  | nil => rfl
  | cons e entries ih =>
      obtain ⟨m, a⟩ := e
      obtain ⟨⟨b, hb⟩, h⟩ := List.forall_mem_cons.mp h
      simp only [List.filterMap_cons, hb, Option.map_some]
      rw [List.lookup_cons, List.lookup_cons, ih h]
      cases name == m with
      | true => exact hb.symm
      | false => rfl

end Treebank
