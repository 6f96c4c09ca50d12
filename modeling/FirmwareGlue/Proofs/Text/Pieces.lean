import FirmwareGlue.Text.Blank

/-!
# The pieces of a text

A text is cut at its separators, and what is cut apart on the two sides of a separator does not
depend on the other side. The runs of a text are its pieces between characters that are neither
letters nor digits, without the empty ones; runs that are joined by such characters are found
again.
-/

namespace FirmwareGlue.Text

variable {p : Char → Bool} {before after cs : List Char}

theorem splitBy_ne_nil (p : Char → Bool) (cs : List Char) : splitBy p cs ≠ [] := by
  induction cs with
  | nil => simp [splitBy]
  | cons c cs ih =>
      rw [splitBy]
      split
      next => simp
      next =>
        obtain ⟨piece, rest, pieces⟩ := List.exists_cons_of_ne_nil ih
        simp [pieces]

theorem splitBy_append_cons {c : Char} (separates : p c = true) :
    splitBy p (before ++ c :: after) = splitBy p before ++ splitBy p after := by
  induction before with
  | nil => simp [splitBy, separates]
  | cons d before ih =>
      rw [List.cons_append, splitBy, splitBy, ih]
      split
      next => rfl
      next =>
        obtain ⟨piece, rest, pieces⟩ := List.exists_cons_of_ne_nil (splitBy_ne_nil p before)
        simp [pieces]

theorem splitBy_whole (whole : ∀ c ∈ cs, p c = false) : splitBy p cs = [cs] := by
  induction cs with
  | nil => rfl
  | cons c cs ih =>
      simp only [List.mem_cons, forall_eq_or_imp] at whole
      simp [splitBy, whole.1, ih whole.2]

/-- The longest runs of letters and digits in a text, in order. -/
def runs (cs : List Char) : List (List Char) :=
  (splitBy (fun c => !c.isAlphanum) cs).filter (· ≠ [])

/-- A text that is a single run. -/
structure IsRun (cs : List Char) : Prop where
  some_character : cs ≠ []
  unbroken : ∀ c ∈ cs, c.isAlphanum = true

@[simp] theorem runs_nil : runs [] = [] := rfl

theorem runs_append_cons {c : Char} (separates : c.isAlphanum = false) :
    runs (before ++ c :: after) = runs before ++ runs after := by
  rw [runs, splitBy_append_cons (by simp [separates]), List.filter_append, runs, runs]

theorem runs_isRun (h : IsRun cs) : runs cs = [cs] := by
  rw [runs, splitBy_whole fun c member => by simp [h.unbroken c member]]
  simp [h.some_character]

/-- Characters in a row that no run has, at least one of them. -/
structure IsSeparator (cs : List Char) : Prop where
  some_character : cs ≠ []
  apart : ∀ c ∈ cs, c.isAlphanum = false

section Separator

variable {separator : List Char}

theorem isSeparator_singleton {c : Char} (separates : c.isAlphanum = false) : IsSeparator [c] :=
  ⟨List.cons_ne_nil c [], List.forall_mem_singleton.2 separates⟩

theorem IsSeparator.cons {c : Char} (separates : c.isAlphanum = false)
    (rest : IsSeparator separator) : IsSeparator (c :: separator) :=
  ⟨List.cons_ne_nil c separator, List.forall_mem_cons.2 ⟨separates, rest.apart⟩⟩

theorem runs_separated (separates : IsSeparator separator) :
    runs (before ++ separator ++ after) = runs before ++ runs after := by
  obtain ⟨some_character, apart⟩ := separates
  induction separator generalizing before with
  | nil => exact absurd rfl some_character
  | cons c separator ih =>
      rw [List.forall_mem_cons] at apart
      rw [List.append_assoc, List.cons_append, runs_append_cons apart.1]
      cases separator with
      | nil => rfl
      | cons d separator =>
          have later : runs ([] ++ (d :: separator) ++ after) = runs [] ++ runs after :=
            ih (List.cons_ne_nil d separator) apart.2
          rwa [List.append_right_inj]

theorem runs_joined (separates : IsSeparator separator) {pieces : List (List Char)}
    (whole : ∀ piece ∈ pieces, IsRun piece) : runs (separator.intercalate pieces) = pieces := by
  induction pieces with
  | nil => rfl
  | cons piece pieces ih =>
      rw [List.forall_mem_cons] at whole
      cases pieces with
      | nil => rw [List.intercalate_singleton, runs_isRun whole.1]
      | cons next pieces =>
          rw [List.intercalate_cons_cons, runs_separated separates, runs_isRun whole.1,
            ih whole.2, List.singleton_append]

end Separator

end FirmwareGlue.Text
