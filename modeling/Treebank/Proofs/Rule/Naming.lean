import Mathlib.Data.List.Nodup
import Treebank.Proofs.Rule.Loading
import Treebank.Session

/-!
# The names of loaded rules

A path that is given again has a number put behind it. The rules of one path have different names by
that; those of two paths have one name in common if and only if one of the paths is written like the
other one with such a number, a case that no session takes.
-/

namespace Treebank

namespace Rule

variable {strategies : Strategies} {view : File.View} {path name p q : String} {i j m n : Nat}
  {before paths : List String}

/-! ## Paths with numbers -/

theorem hash_not_mem_toDigits (n : Nat) : '#' ∉ Nat.toDigits 10 n := by
  intro h
  have hdigit := Nat.isDigit_of_mem_toDigits (by decide) (by decide) h
  revert hdigit
  decide

theorem toList_numbered (p : String) (m : Nat) :
    s!"{p}#{m}".toList = p.toList ++ '#' :: Nat.toDigits 10 m := by
  have hdigits : (toString m).toList = Nat.toDigits 10 m := Nat.toList_repr
  simp only [String.toList_append, hdigits]
  simp [toString]

/-- The text behind the last hash sign is told by the whole text, and so is the text before it. -/
theorem eq_of_append_hash {cs ds es fs : List Char} (h : cs ++ '#' :: ds = es ++ '#' :: fs)
    (hds : '#' ∉ ds) (hfs : '#' ∉ fs) : cs = es ∧ ds = fs := by
  rcases List.append_eq_append_iff.mp h with ⟨gs, rfl, hrest⟩ | ⟨gs, rfl, hrest⟩
  all_goals
    cases gs with
    | nil =>
        have hrest := List.cons.inj hrest
        simp_all
    | cons g gs =>
        simp only [List.cons_append, List.cons.injEq] at hrest
        obtain ⟨-, rfl⟩ := hrest
        simp at hds hfs

theorem numbered_inj (h : s!"{p}#{m}" = s!"{q}#{n}") : p = q ∧ m = n := by
  have hlist := congrArg String.toList h
  rw [toList_numbered, toList_numbered] at hlist
  obtain ⟨hpath, hdigits⟩ :=
    eq_of_append_hash hlist (hash_not_mem_toDigits m) (hash_not_mem_toDigits n)
  refine ⟨String.toList_inj.mp hpath, ?_⟩
  rw [← Nat.ofDigitChars_ten_toDigits (n := m), hdigits, Nat.ofDigitChars_ten_toDigits]

/-- The path is written like the other one with a number that it gets when it is given so many
times. -/
def Numbers (q : String) (times : Nat) (p : String) : Prop :=
  ∃ m, 2 ≤ m ∧ m ≤ times ∧ p = s!"{q}#{m}"

theorem nameOf_succ (path : String) (i : Nat) : nameOf path (i + 1) = s!"{path}#{i + 2}" := rfl

theorem nameOf_ne_empty (h : path ≠ "") (i : Nat) : nameOf path i ≠ "" := by
  cases i with
  | zero => exact h
  | succ i =>
      intro hempty
      have hlist := congrArg String.toList hempty
      rw [nameOf_succ, toList_numbered] at hlist
      simp at hlist

/-- Names that are given to files differ unless a path is given without its number, and is written
like another one with a number. -/
theorem nameOf_eq_cases (h : nameOf p i = nameOf q j) :
    (p = q ∧ i = j) ∨ Numbers q (j + 1) p ∨ Numbers p (i + 1) q := by
  cases i with
  | zero =>
      cases j with
      | zero => exact .inl ⟨h, rfl⟩
      | succ j => exact .inr (.inl ⟨j + 2, by omega, Nat.le_refl _, h⟩)
  | succ i =>
      cases j with
      | zero => exact .inr (.inr ⟨i + 2, by omega, Nat.le_refl _, h.symm⟩)
      | succ j =>
          obtain ⟨hpath, hnumber⟩ := numbered_inj h
          exact .inl ⟨hpath, by omega⟩

/-! ## How often a path has been given -/

/-- The paths, each with the number of times that it has been given before. -/
def occurrences (before : List String) : List String → List (String × Nat)
  | [] => []
  | path :: paths => (path, before.count path) :: occurrences (before ++ [path]) paths

theorem mem_occurrences : (p, i) ∈ occurrences before paths ↔
    before.count p ≤ i ∧ i < before.count p + paths.count p := by
  induction paths generalizing before with
  | nil => simp [occurrences]
  | cons path paths ih =>
      rw [occurrences, List.mem_cons, ih, List.count_append, List.count_cons, Prod.mk.injEq]
      by_cases hpath : p = path
      · subst hpath
        simp
        omega
      · have hne : path ≠ p := fun h => hpath h.symm
        simp [hpath, hne]

theorem nodup_occurrences (before paths : List String) : (occurrences before paths).Nodup := by
  induction paths generalizing before with
  | nil => exact List.nodup_nil
  | cons path paths ih =>
      rw [occurrences, List.nodup_cons]
      refine ⟨fun h => ?_, ih _⟩
      have hlater := (mem_occurrences.mp h).1
      rw [List.count_append, List.count_singleton_self] at hlater
      omega

/-! ## Files with rules -/

/-- The file at the path has a rule. -/
def hasRule (view : File.View) (strategies : Strategies) (path : String) : Bool :=
  (ofFile view strategies path "").isOk

theorem Gives.isOk_eq {x : Except LoadFault Rule} (h : Gives view strategies path x) :
    x.isOk = hasRule view strategies path := by
  obtain ⟨name, rfl⟩ := h
  rw [hasRule]
  rcases ofFile view strategies path "" with (_ | _ | _) | _ <;> rfl

theorem loaded_of_gives {outcomes : List (Except LoadFault Rule)}
    (h : List.Forall₂ (Gives view strategies) paths outcomes) :
    (outcomes.filterMap Except.toOption = [] ↔
      ∀ path ∈ paths, hasRule view strategies path = false) ∧
    (outcomes.filterMap fault? = [] ↔ ∀ path ∈ paths, hasRule view strategies path = true) := by
  induction h with
  | nil => simp
  | @cons path x paths outcomes hone _ ih =>
      have hisOk := hone.isOk_eq
      cases x with
      | ok r =>
          have hrule : hasRule view strategies path = true := hisOk.symm
          have hfault : fault? (.ok r) = none := rfl
          have hsome : Except.toOption (.ok r : Except LoadFault Rule) = some r := rfl
          rw [List.filterMap_cons_some hsome, List.filterMap_cons_none hfault,
            List.forall_mem_cons, List.forall_mem_cons, hrule]
          simpa using ih.2
      | error f =>
          have hrule : hasRule view strategies path = false := hisOk.symm
          have hfault : fault? (.error f) = some f := rfl
          have hnone : Except.toOption (.error f : Except LoadFault Rule) = none := rfl
          rw [List.filterMap_cons_none hnone, List.filterMap_cons_some hfault,
            List.forall_mem_cons, List.forall_mem_cons, hrule]
          simpa using ih.1

/-- No rules are loaded if and only if no file has one, and nothing is left out if and only if every
file has one. -/
theorem loaded_eq_nil_iff (h : (load view strategies paths).1 = none) :
    ((load view strategies paths).2.rules = [] ↔
      ∀ path ∈ paths, hasRule view strategies path = false) ∧
    ((load view strategies paths).2.faults = [] ↔
      ∀ path ∈ paths, hasRule view strategies path = true) := by
  rw [load] at h ⊢
  rcases loadAfter_cases view strategies paths [] with
    ⟨loaded, outcomes, hrun, hall, _⟩ | ⟨f, loaded, hrun, _⟩
  · rw [hrun, hall.rules, hall.faults]
    exact loaded_of_gives hall.gives
  · rw [hrun] at h
    cases h

/-! ## The names of rules -/

theorem name_of_read {r : Rule} {text : String} (h : read strategies name text = .ok r) :
    r.name = name := by
  have hself : read strategies name text = readAs name (read strategies name text) :=
    read_as name name text
  rw [h] at hself
  exact congrArg Rule.name (Except.ok.inj hself)

theorem name_of_ofFile {r : Rule} (h : ofFile view strategies path name = .ok r)
    (hname : name ≠ "") : r.name = name := by
  obtain ⟨bytes, -, h⟩ := exists_of_bind_eq_ok h
  obtain ⟨text, -, h⟩ := exists_of_bind_eq_ok h
  rw [if_neg (by simpa using hname)] at h
  cases hread : read strategies name text with
  | ok r' =>
      rw [hread] at h
      cases h
      exact name_of_read hread
  | error d =>
      rw [hread] at h
      cases h

/-- The names of the rules are those of the files that have one. -/
theorem names_loadAfter (hempty : hasRule view strategies "" = false)
    (h : (loadAfter view strategies before paths).1 = none) :
    (loadAfter view strategies before paths).2.rules.map Rule.name =
      ((occurrences before paths).filter fun e => hasRule view strategies e.1).map
        fun e => nameOf e.1 e.2 := by
  induction paths generalizing before with
  | nil => rfl
  | cons path paths ih =>
      have hgives : Gives view strategies path _ := gives_ofFile (nameOf path (before.count path))
      have hisOk := hgives.isOk_eq
      rw [loadAfter] at h ⊢
      rw [occurrences, List.filter_cons]
      cases hfile : ofFile view strategies path (nameOf path (before.count path)) with
      | ok r =>
          rw [hfile] at h hisOk
          have hrule : hasRule view strategies path = true := hisOk.symm
          have hpath : path ≠ "" := by
            rintro rfl
            rw [hrule] at hempty
            cases hempty
          have hname := name_of_ofFile hfile (nameOf_ne_empty hpath _)
          rw [if_pos hrule]
          exact congrArg₂ (· :: ·) hname (ih h)
      | error f =>
          rw [hfile] at h hisOk
          have hrule : ¬ hasRule view strategies path = true := Bool.not_eq_true _ ▸ hisOk.symm
          rw [if_neg hrule]
          by_cases hconfined : f.isConfined = true
          · simp only [hconfined, if_true] at h ⊢
            exact ih h
          · simp [hconfined] at h

/-- No file with a rule has a path that is written like that of another one with a number which it
gets. -/
def Distinguishable (view : File.View) (strategies : Strategies) (paths : List String) : Prop :=
  ∀ p ∈ paths, ∀ q ∈ paths, hasRule view strategies p = true → hasRule view strategies q = true →
    ¬ Numbers q (paths.count q) p

theorem Numbers.mono {k : Nat} (h : Numbers q n p) (hle : n ≤ k) : Numbers q k p := by
  obtain ⟨m, hm, hmn, rfl⟩ := h
  exact ⟨m, hm, Nat.le_trans hmn hle, rfl⟩

theorem nodup_names_iff (hempty : hasRule view strategies "" = false)
    (h : (load view strategies paths).1 = none) :
    ((load view strategies paths).2.rules.map Rule.name).Nodup ↔
      Distinguishable view strategies paths := by
  have hmem {p : String} {i : Nat} :
      (p, i) ∈ (occurrences [] paths).filter (fun e => hasRule view strategies e.1) ↔
        i < paths.count p ∧ hasRule view strategies p = true := by
    simp [mem_occurrences]
  rw [load] at h ⊢
  rw [names_loadAfter hempty h,
    List.nodup_map_iff_inj_on ((nodup_occurrences [] paths).filter _)]
  constructor
  · -- a path with its number would name two files
    rintro hinj p hp q hq hrule hrule' ⟨m, hm, hle, rfl⟩
    have hfirst := hmem.mpr ⟨List.count_pos_iff.mpr hp, hrule⟩
    have hlater := hmem.mpr ⟨show m - 1 < paths.count q by omega, hrule'⟩
    have hname : nameOf q (m - 1) = s!"{q}#{m}" := by
      obtain ⟨k, rfl⟩ := Nat.exists_eq_add_of_le' hm
      rfl
    have heq := hinj _ hfirst _ hlater hname.symm
    simp only [Prod.mk.injEq] at heq
    omega
  · rintro hapart ⟨p, i⟩ hp ⟨q, j⟩ hq hname
    obtain ⟨hi, hrule⟩ := hmem.mp hp
    obtain ⟨hj, hrule'⟩ := hmem.mp hq
    have hp := List.count_pos_iff.mp (Nat.zero_lt_of_lt hi)
    have hq := List.count_pos_iff.mp (Nat.zero_lt_of_lt hj)
    rcases nameOf_eq_cases hname with ⟨rfl, rfl⟩ | hnumbers | hnumbers
    · rfl
    · exact absurd (hnumbers.mono hj) (hapart p hp q hq hrule hrule')
    · exact absurd (hnumbers.mono hi) (hapart q hq p hp hrule' hrule)

/-- The empty path stands for the current folder, which is no file. -/
theorem hasRule_empty (hhere : (view.read ".").isOk = false) :
    hasRule view strategies "" = false := by
  have hplain : File.normalize "" = "." := by decide
  rw [hasRule, ofFile]
  simp only [hplain]
  cases hread : view.read "." with
  | error c => rfl
  | ok bytes =>
      rw [hread] at hhere
      cases hhere

end Rule

/-! ## Sessions with loaded rules -/

namespace Session

theorem duplicates_eq_nil_iff {names : List String} : duplicates names = [] ↔ names.Nodup := by
  have hdups : ∀ l : List String, l.eraseDups = [] ↔ l = [] := by
    intro l
    cases l with
    | nil => simp
    | cons a l => simp [List.eraseDups_cons]
  rw [duplicates, sortedNames, ← List.length_eq_zero_iff, List.length_mergeSort,
    List.length_eq_zero_iff, hdups, List.filter_eq_nil_iff, List.nodup_iff_count_le_one]
  constructor
  · intro h name
    by_cases hname : name ∈ names
    · simpa using h name hname
    · rw [List.count_eq_zero_of_not_mem hname]
      exact Nat.zero_le 1
  · intro h name _
    simpa using h name

/-- A session refuses rules for their names only if some of them have the same name, and then it
does so whatever else it is asked for, unless its budget is no budget. -/
theorem start_ne_duplicateRules_iff {rules : List Rule} :
    (∀ budget names, start rules budget ≠ .error (.duplicateRules names)) ↔
      (rules.map Rule.name).Nodup := by
  rw [← duplicates_eq_nil_iff]
  constructor
  · intro h
    cases hnames : duplicates (rules.map Rule.name) with
    | nil => rfl
    | cons name names =>
        have hstart := h none (name :: names)
        simp [start, hnames] at hstart
  · intro h budget names
    simp only [start, h]
    split <;> simp

end Session

/-- Loaded rules have pairwise different names if and only if no file with a rule has a path that is
written like that of another file with a rule and a number that it gets for being given again. A
session refuses loaded rules for their names in just the other case. -/
theorem loaded_names_nodup_iff {strategies : Strategies} {view : File.View} {paths : List String}
    (hhere : (view.read ".").isOk = false) (h : (Rule.load view strategies paths).1 = none) :
    let rules := (Rule.load view strategies paths).2.rules
    ((rules.map Rule.name).Nodup ↔ Rule.Distinguishable view strategies paths) ∧
      ((∀ budget names, Session.start rules budget ≠ .error (.duplicateRules names)) ↔
        Rule.Distinguishable view strategies paths) := by
  intro rules
  have hempty : Rule.hasRule view strategies "" = false := Rule.hasRule_empty hhere
  have hnames := Rule.nodup_names_iff hempty h
  exact ⟨hnames, Session.start_ne_duplicateRules_iff.trans hnames⟩

/-- A file that is loaded twice beside a file with another path gives two rules of different
names. -/
theorem loaded_names_of_repeated_path :
    let bytes := "NP=n\n\ndelete n\n".toList.map Char.toNat
    let view : File.View :=
      ⟨fun path => if path == "." then .error .isFolder else .ok bytes, fun _ => .ok ()⟩
    let strategies : Strategies := ⟨HeadFinder.firstChild, id⟩
    let paths := ["cut.rules", "cut.rules", "cut#2.rules"]
    (view.read ".").isOk = false ∧ (Rule.load view strategies paths).1 = none ∧
      ((Rule.load view strategies paths).2.rules.map Rule.name).Nodup := by
  intro bytes view strategies paths
  have hhere : (view.read ".").isOk = false := rfl
  have hload : (Rule.load view strategies paths).1 = none := by decide +kernel
  refine ⟨hhere, hload, (loaded_names_nodup_iff hhere hload).1.mpr ?_⟩
  rintro p hp q hq - - ⟨m, hm, hle, rfl⟩
  have hcount : ∀ q ∈ paths, paths.count q ≤ 2 := by decide
  have hother : ∀ q ∈ paths, Rule.nameOf q 1 ∉ paths := by decide
  obtain rfl : m = 2 := Nat.le_antisymm (Nat.le_trans hle (hcount q hq)) hm
  exact hother q hq hp

/-- A file that is loaded twice and a file whose path is written like the name of the second one give
two rules of one name, which no session takes. -/
theorem loaded_names_of_numbered_path :
    let bytes := "NP=n\n\ndelete n\n".toList.map Char.toNat
    let view : File.View :=
      ⟨fun path => if path == "." then .error .isFolder else .ok bytes, fun _ => .ok ()⟩
    let loaded := Rule.load view ⟨HeadFinder.firstChild, id⟩
      ["cut.rules", "cut.rules", "cut.rules#2"]
    loaded.1 = none ∧ ¬ (loaded.2.rules.map Rule.name).Nodup ∧
      Session.start loaded.2.rules none = .error (.duplicateRules ["cut.rules#2"]) := by
  intro bytes view loaded
  have hload : loaded.1 = none := by decide +kernel
  have hnames : loaded.2.rules.map Rule.name = ["cut.rules", "cut.rules#2", "cut.rules#2"] := by
    decide +kernel
  have hdups : Session.duplicates ["cut.rules", "cut.rules#2", "cut.rules#2"] = ["cut.rules#2"] := by
    decide +kernel
  refine ⟨hload, ?_, ?_⟩
  · rw [hnames]
    decide
  · rw [Session.start, hnames, hdups]
    rfl

end Treebank
