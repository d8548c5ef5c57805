import Treebank.CommandLine.Arguments
import Treebank.Head.Collins
import Treebank.Proofs.Basic

/-!
# What arguments can ask for

Arguments are taken one after the other. So what holds without arguments, and is not lost with one
more option or rule file, holds of everything that arguments ask for.
-/

namespace Treebank

theorem HeadFinder.exists_ofName {name : String} (h : name ∈ names) :
    ∃ head, ofName name = .ok head := by
  simp only [names, List.mem_cons, List.not_mem_nil, or_false] at h
  rcases h with rfl | rfl | rfl <;> exact ⟨_, rfl⟩

namespace CommandLine

variable {P : Options → Prop} {finders args : List String} {o : Options} {t t' : Taken}
  {s : Switch} {values : List String}

/-- What holds of options is not lost with one more option, or with other rule files. -/
structure Lasting (finders : List String) (P : Options → Prop) : Prop where
  put {o o' : Options} {s : Switch} {values : List String} :
    o.put finders s values = .ok o' → P o → P o'
  files {o : Options} (paths : List String) : P o → P { o with ruleFiles := paths }

namespace Lasting

theorem take (h : Lasting finders P) (hrun : t.take finders s values = .ok t')
    (ht : P t.options) : P t'.options := by
  rw [Taken.take] at hrun
  split at hrun
  · cases hrun
    exact ht
  · split at hrun
    · cases hrun
      exact ht
    · obtain ⟨o', hput, hrest⟩ := exists_of_bind_eq_ok hrun
      cases hrest
      exact h.put hput ht

theorem takeAll (h : Lasting finders P) {ss : List Switch}
    (hrun : t.takeAll finders ss = .ok t') (ht : P t.options) : P t'.options := by
  induction ss generalizing t with
  | nil =>
      cases hrun
      exact ht
  | cons s ss ih =>
      obtain ⟨t₁, hone, hrest⟩ := exists_of_bind_eq_ok hrun
      exact ih hrest (h.take hone ht)

theorem serve (h : Lasting finders P) (hrun : t.serve finders = .ok t') (ht : P t.options) :
    P t'.options := by
  rw [Taken.serve] at hrun
  split at hrun
  · cases hrun
    exact ht
  · split at hrun
    · exact h.take hrun ht
    · cases hrun
      exact ht

theorem endFiles (ht : P t.options) : P t.endFiles.options := by
  rw [Taken.endFiles]
  split <;> exact ht

theorem word (h : Lasting finders P) {w : Word} (hrun : t.word finders w = .ok t')
    (ht : P t.options) : P t'.options := by
  rw [Taken.word.eq_def] at hrun
  split at hrun
  case h_1 => exact h.serve hrun ht
  case h_2 =>
    cases hrun
    split
    · exact ht
    · exact h.files _ ht
  case h_3 =>
    obtain ⟨_, _, hrest⟩ := exists_of_bind_eq_ok hrun
    cases hrest
    split <;> exact ht
  case h_4 =>
    obtain ⟨_, _, hrest⟩ := exists_of_bind_eq_ok hrun
    cases hrest
    exact endFiles ht
  case h_5 =>
    obtain ⟨_, _, hrest⟩ := exists_of_bind_eq_ok hrun
    obtain ⟨c, _, hrest⟩ := exists_of_bind_eq_ok hrest
    obtain ⟨t₁, hflags, hrest⟩ := exists_of_bind_eq_ok hrest
    have ht₁ := h.takeAll hflags (endFiles ht)
    exact h.serve hrest ht₁

theorem words (h : Lasting finders P) {ws : List Word} (hrun : t.words finders ws = .ok t')
    (ht : P t.options) : P t'.options := by
  induction ws generalizing t with
  | nil =>
      obtain ⟨_, _, hrest⟩ := exists_of_bind_eq_ok hrun
      cases hrest
      exact ht
  | cons w ws ih =>
      obtain ⟨t₁, hone, hrest⟩ := exists_of_bind_eq_ok hrun
      have ht₁ := h.word hone ht
      split at hrest
      · cases hrest
        exact ht₁
      · exact ih hrest ht₁

end Lasting

/-- The work that is asked for, if it is work. -/
def work? : Except Refusal Request → Option Options
  | .ok (.work o) => some o
  | .ok .help => none
  | .error _ => none

theorem eq_ok_of_work? {x : Except Refusal Request} (h : work? x = some o) : x = .ok (.work o) := by
  rcases x with _ | _ | o'
  · cases h
  · cases h
  · rw [Option.some.inj h]

/-- What arguments ask for is what has been taken from them, and that is not rule files beside a rule
among the arguments. -/
theorem exists_taken (hread : readArguments finders args = .ok (.work o)) :
    (∃ ws t, Taken.none.words finders ws = .ok t ∧ t.options = o) ∧
      (o.inlineRule ≠ none → o.ruleFiles = []) := by
  obtain ⟨ws, _, hread⟩ := exists_of_bind_eq_ok hread
  obtain ⟨t, hwords, hread⟩ := exists_of_bind_eq_ok hread
  dsimp only at hread
  split at hread
  · cases hread
  split at hread
  · cases hread
  split at hread
  · cases hread
  split at hread
  · cases hread
  rename_i hboth
  cases hread
  refine ⟨⟨ws, t, hwords, rfl⟩, fun hinline => ?_⟩
  simpa [Option.isSome_iff_ne_none, hinline] using hboth

/-- The head finder is one of those that there are. -/
theorem lasting_headFinder : Lasting finders fun o => o.headFinder ∈ finders where
  put {o o' s values} hput ho := by
    rw [Options.put.eq_def] at hput
    split at hput
    case h_7 v =>
      split at hput
      · rename_i hv
        cases hput
        exact List.contains_iff_mem.mp hv
      · cases hput
    case h_5 | h_8 =>
      obtain ⟨n, _, hrest⟩ := exists_of_bind_eq_ok hput
      cases hrest
      exact ho
    all_goals
      cases hput
      exact ho
  files _ ho := ho

theorem exists_headFinder (hread : readArguments HeadFinder.names args = .ok (.work o)) :
    ∃ head, HeadFinder.ofName o.headFinder = .ok head := by
  obtain ⟨⟨ws, t, hwords, rfl⟩, _⟩ := exists_taken hread
  exact HeadFinder.exists_ofName (lasting_headFinder.words hwords (by decide))

end CommandLine

end Treebank
