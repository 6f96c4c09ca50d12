import FirmwareGlue.Proofs.FirstError
import FirmwareGlue.Workspace.Basic

/-!
# Searches through packages

A keyword or a library class is searched for in a list of packages, and the first package that has
an answer gives it. Every package up to that one has to be registered; those after it are not looked
at, so they may be missing. Where an answer is required, its absence is an error of its own, which
needs all packages to be registered and none of them to have one.
-/

namespace FirmwareGlue.Workspace

variable {α : Type} {ws : Workspace} {answer : Package → Option α} {packages : List Reference}
variable {r : Reference} {x : α} {absent e : Error}

/-- A reference is to a registered package. -/
def Registered (ws : Workspace) (r : Reference) : Prop :=
  ∃ p, ws.package? r = some p

theorem requirePackage_ok_iff {p : Package} :
    ws.requirePackage r = .ok p ↔ ws.package? r = some p := by
  rw [requirePackage]
  cases ws.package? r with
  | none => simp
  | some q => simp

theorem requirePackage_error_iff :
    ws.requirePackage r = .error e ↔ ws.package? r = none ∧ e = .packageNotFound r := by
  rw [requirePackage]
  cases ws.package? r with
  | none => simp [eq_comm]
  | some p => simp

/-- A package is registered and has an answer. -/
def Answers (ws : Workspace) (answer : Package → Option α) (r : Reference) (x : α) : Prop :=
  ∃ p, ws.package? r = some p ∧ answer p = some x

/-- A package is registered and has no answer. -/
def Silent (ws : Workspace) (answer : Package → Option α) (r : Reference) : Prop :=
  ∃ p, ws.package? r = some p ∧ answer p = none

/-- Some package has an answer, and those before it are registered and have none. -/
def FirstAnswer (ws : Workspace) (answer : Package → Option α) (packages : List Reference)
    (x : α) : Prop :=
  ∃ before r after, packages = before ++ r :: after ∧
    (∀ other ∈ before, ws.Silent answer other) ∧ ws.Answers answer r x

/-- Some package is not registered, and those before it are and have no answer. -/
def FirstMissing (ws : Workspace) (answer : Package → Option α) (packages : List Reference)
    (e : Error) : Prop :=
  ∃ before r after, packages = before ++ r :: after ∧
    (∀ other ∈ before, ws.Silent answer other) ∧ ws.package? r = none ∧ e = .packageNotFound r

theorem search_cons_of_silent (h : ws.Silent answer r) :
    ws.search answer (r :: packages) = ws.search answer packages := by
  obtain ⟨p, found, none⟩ := h
  simp [search, requirePackage, found, none, bind, Except.bind]

theorem search_cons_of_answers (h : ws.Answers answer r x) :
    ws.search answer (r :: packages) = .ok (some x) := by
  obtain ⟨p, found, some⟩ := h
  simp [search, requirePackage, found, some, bind, Except.bind]

theorem search_cons_of_missing (h : ws.package? r = none) :
    ws.search answer (r :: packages) = .error (.packageNotFound r) := by
  simp [search, requirePackage, h, bind, Except.bind]

theorem silent_or_answers_or_missing (ws : Workspace) (answer : Package → Option α)
    (r : Reference) :
    ws.Silent answer r ∨ (∃ x, ws.Answers answer r x) ∨ ws.package? r = none := by
  cases found : ws.package? r with
  | none => exact .inr (.inr rfl)
  | some p =>
      cases said : answer p with
      | none => exact .inl ⟨p, found, said⟩
      | some x => exact .inr (.inl ⟨x, p, found, said⟩)

/-- Packages without an answer are skipped. -/
theorem search_append_of_silent {before : List Reference}
    (silent : ∀ other ∈ before, ws.Silent answer other) (packages : List Reference) :
    ws.search answer (before ++ packages) = ws.search answer packages := by
  induction before with
  | nil => rfl
  | cons other rest ih =>
      rw [List.forall_mem_cons] at silent
      rw [List.cons_append, search_cons_of_silent silent.1]
      exact ih silent.2

theorem search_of_silent (silent : ∀ r ∈ packages, ws.Silent answer r) :
    ws.search answer packages = .ok none := by
  rw [← List.append_nil packages, search_append_of_silent silent]
  rfl

theorem search_of_firstAnswer (h : ws.FirstAnswer answer packages x) :
    ws.search answer packages = .ok (some x) := by
  obtain ⟨before, r, after, rfl, silent, answers⟩ := h
  rw [search_append_of_silent silent]
  exact search_cons_of_answers answers

theorem search_of_firstMissing (h : ws.FirstMissing answer packages e) :
    ws.search answer packages = .error e := by
  obtain ⟨before, r, after, rfl, silent, missing, rfl⟩ := h
  rw [search_append_of_silent silent]
  exact search_cons_of_missing missing

/-- What each result of a search says about the packages. -/
theorem search_spec (ws : Workspace) (answer : Package → Option α) (packages : List Reference) :
    match ws.search answer packages with
    | .ok (some x) => ws.FirstAnswer answer packages x
    | .ok none => ∀ r ∈ packages, ws.Silent answer r
    | .error e => ws.FirstMissing answer packages e := by
  induction packages with
  | nil => simp [search]
  | cons r rest ih =>
      rcases silent_or_answers_or_missing ws answer r with silent | ⟨x, answers⟩ | missing
      · -- The package is skipped: what the rest says is said with it in front.
        rw [search_cons_of_silent silent]
        match ws.search answer rest, ih with
        | .ok (some x), ⟨before, other, after, split, earlier, answers⟩ =>
            refine ⟨r :: before, other, after, by rw [split, List.cons_append], ?_, answers⟩
            exact List.forall_mem_cons.2 ⟨silent, earlier⟩
        | .ok none, all => exact List.forall_mem_cons.2 ⟨silent, all⟩
        | .error e, ⟨before, other, after, split, earlier, missing⟩ =>
            refine ⟨r :: before, other, after, by rw [split, List.cons_append], ?_, missing⟩
            exact List.forall_mem_cons.2 ⟨silent, earlier⟩
      · rw [search_cons_of_answers answers]
        exact ⟨[], r, rest, rfl, by simp, answers⟩
      · rw [search_cons_of_missing missing]
        exact ⟨[], r, rest, rfl, by simp, missing, rfl⟩

/-- A search whose answer has to exist. -/
def searchOr (ws : Workspace) (answer : Package → Option α) (packages : List Reference)
    (absent : Error) : Except Error α := do
  match ← ws.search answer packages with
  | some x => .ok x
  | none => .error absent

theorem search_bind_eq {next : Option α → Except Error α} (found : ∀ x, next (some x) = .ok x)
    (nothing : next none = .error absent) :
    ws.search answer packages >>= next = ws.searchOr answer packages absent := by
  rw [searchOr]
  match ws.search answer packages with
  | .ok (some x) => exact found x
  | .ok none => exact nothing
  | .error e => rfl

theorem searchOr_ok_iff :
    ws.searchOr answer packages absent = .ok x ↔ ws.FirstAnswer answer packages x := by
  constructor
  · intro h
    have spec := search_spec ws answer packages
    rw [searchOr] at h
    match result : ws.search answer packages, spec with
    | .ok (some y), first =>
        rw [result] at h
        cases h
        exact first
    | .ok none, _ =>
        rw [result] at h
        cases h
    | .error e, _ =>
        rw [result] at h
        cases h
  · intro first
    rw [searchOr, search_of_firstAnswer first]
    rfl

theorem exists_searchOr_iff : (∃ x, ws.searchOr answer packages absent = .ok x) ↔
    ∃ x, ws.FirstAnswer answer packages x := by
  simp only [searchOr_ok_iff]

theorem searchOr_error_iff : ws.searchOr answer packages absent = .error e ↔
    ws.FirstMissing answer packages e ∨ (∀ r ∈ packages, ws.Silent answer r) ∧ e = absent := by
  constructor
  · intro h
    have spec := search_spec ws answer packages
    rw [searchOr] at h
    match result : ws.search answer packages, spec with
    | .ok (some x), _ =>
        rw [result] at h
        cases h
    | .ok none, all =>
        rw [result] at h
        cases h
        exact .inr ⟨all, rfl⟩
    | .error other, missing =>
        rw [result] at h
        cases h
        exact .inl missing
  · rintro (missing | ⟨silent, rfl⟩)
    · rw [searchOr, search_of_firstMissing missing]
      rfl
    · rw [searchOr, search_of_silent silent]
      rfl

theorem FirstMissing.not_registered (h : ws.FirstMissing answer packages e) :
    ¬ ∀ r ∈ packages, ws.Registered r := by
  intro registered
  obtain ⟨_, r, _, split, _, missing, _⟩ := h
  obtain ⟨p, found⟩ := registered r (by simp [split])
  rw [missing] at found
  cases found

/-- Where all packages are registered, a search finds what some package has. -/
theorem exists_firstAnswer_iff (registered : ∀ r ∈ packages, ws.Registered r) :
    (∃ x, ws.FirstAnswer answer packages x) ↔ ∃ r ∈ packages, ∃ x, ws.Answers answer r x := by
  constructor
  · rintro ⟨x, _, r, _, rfl, _, answers⟩
    exact ⟨r, by simp, x, answers⟩
  · rintro ⟨r, listed, x, p, found, said⟩
    have spec := search_spec ws answer packages
    match ws.search answer packages, spec with
    | .ok (some y), first => exact ⟨y, first⟩
    | .ok none, silent =>
        obtain ⟨q, same, none⟩ := silent r listed
        rw [found] at same
        cases same
        rw [said] at none
        cases none
    | .error _, missing => exact absurd registered missing.not_registered

end FirmwareGlue.Workspace
