import Mathlib.Data.List.Forall2

/-!
# Work that stops at the first error

Loading and generation work through lists and stop at the first entry that has an error. What such
work gives is said here once: it succeeds if every entry does, and otherwise reports the error of
the first entry that fails, whatever the later ones would say.
-/

namespace FirmwareGlue

variable {ε α β σ : Type}

theorem bind_ok_iff {x : Except ε α} {f : α → Except ε β} {b : β} :
    x >>= f = .ok b ↔ ∃ a, x = .ok a ∧ f a = .ok b := by
  cases x with
  | error e => simp [bind, Except.bind]
  | ok a => simp [bind, Except.bind]

theorem bind_error_iff {x : Except ε α} {f : α → Except ε β} {e : ε} :
    x >>= f = .error e ↔ x = .error e ∨ ∃ a, x = .ok a ∧ f a = .error e := by
  cases x with
  | error other => simp [bind, Except.bind]
  | ok a => simp [bind, Except.bind]

theorem ok_bind (a : α) (f : α → Except ε β) : (Except.ok a >>= f) = f a := rfl

/-- What did not give an error gave a result. -/
theorem exists_ok_iff {x : Except ε α} : (∃ a, x = .ok a) ↔ ∀ e, x ≠ .error e := by
  cases x with
  | error e => simp
  | ok a => simp

/-- Whether there is a result, in a form that can be evaluated. -/
theorem exists_ok_iff_isSome {x : Except ε α} : (∃ a, x = .ok a) ↔ x.toOption.isSome := by
  cases x <;> simp [Except.toOption]

/-- An error is the first one in a list: the entries before have none. -/
def FirstError (f : α → Except ε β) (entries : List α) (e : ε) : Prop :=
  ∃ before entry after, entries = before ++ entry :: after ∧
    (∀ earlier ∈ before, ∃ b, f earlier = .ok b) ∧ f entry = .error e

namespace FirstError

variable {f : α → Except ε β} {entry : α} {entries : List α} {e : ε}

theorem head (h : f entry = .error e) : FirstError f (entry :: entries) e :=
  ⟨[], entry, entries, rfl, by simp, h⟩

theorem cons {b : β} (h : f entry = .ok b) (later : FirstError f entries e) :
    FirstError f (entry :: entries) e := by
  obtain ⟨before, failing, after, rfl, fine, failure⟩ := later
  refine ⟨entry :: before, failing, after, rfl, ?_, failure⟩
  intro earlier member
  rcases List.mem_cons.1 member with rfl | member
  · exact ⟨b, h⟩
  · exact fine earlier member

theorem not_nil : ¬ FirstError f [] e := by
  rintro ⟨before, entry, after, h, _⟩
  simp at h

theorem of_cons (h : FirstError f (entry :: entries) e) :
    f entry = .error e ∨ (∃ b, f entry = .ok b) ∧ FirstError f entries e := by
  obtain ⟨before, failing, after, split, fine, failure⟩ := h
  cases before with
  | nil =>
      obtain ⟨rfl, rfl⟩ := List.cons.inj split
      exact .inl failure
  | cons first before =>
      obtain ⟨rfl, rfl⟩ := List.cons.inj split
      refine .inr ⟨fine _ List.mem_cons_self, before, failing, after, rfl, ?_, failure⟩
      intro earlier member
      exact fine earlier (List.mem_cons_of_mem _ member)

theorem exists_mem (h : FirstError f entries e) : ∃ entry ∈ entries, f entry = .error e := by
  obtain ⟨before, entry, after, rfl, _, failure⟩ := h
  exact ⟨entry, by simp, failure⟩

end FirstError

theorem mapM_ok_iff {f : α → Except ε β} {entries : List α} {results : List β} :
    entries.mapM f = .ok results ↔ List.Forall₂ (fun a b => f a = .ok b) entries results := by
  induction entries generalizing results with
  | nil =>
      constructor
      · intro h
        cases h
        exact .nil
      · intro h
        cases h
        rfl
  | cons entry rest ih =>
      simp only [List.mapM_cons, bind_ok_iff]
      constructor
      · rintro ⟨b, hb, later, hlater, h⟩
        cases h
        exact .cons hb (ih.1 hlater)
      · intro h
        cases h with
        | cons hb hlater => exact ⟨_, hb, _, ih.2 hlater, rfl⟩

theorem mapM_error_iff {f : α → Except ε β} {entries : List α} {e : ε} :
    entries.mapM f = .error e ↔ FirstError f entries e := by
  induction entries with
  | nil =>
      constructor
      · intro h
        cases h
      · intro h
        exact absurd h FirstError.not_nil
  | cons entry rest ih =>
      simp only [List.mapM_cons, bind_error_iff]
      constructor
      · rintro (h | ⟨b, hb, h | ⟨_, _, h⟩⟩)
        · exact .head h
        · exact .cons hb (ih.1 h)
        · cases h
      · intro h
        rcases h.of_cons with h | ⟨⟨b, hb⟩, h⟩
        · exact .inl h
        · exact .inr ⟨b, hb, .inl (ih.2 h)⟩

theorem mapM_congr {f g : α → Except ε β} {entries : List α} (same : ∀ a ∈ entries, f a = g a) :
    entries.mapM f = entries.mapM g := by
  induction entries with
  | nil => rfl
  | cons entry rest ih =>
      rw [List.forall_mem_cons] at same
      rw [List.mapM_cons, List.mapM_cons, same.1, ih same.2]

/-- Working through a list succeeds exactly if every entry succeeds. -/
theorem exists_mapM_ok_iff {f : α → Except ε β} {entries : List α} :
    (∃ results, entries.mapM f = .ok results) ↔ ∀ a ∈ entries, ∃ b, f a = .ok b := by
  induction entries with
  | nil => simp [pure, Except.pure]
  | cons entry rest ih =>
      simp only [List.mapM_cons, bind_ok_iff, List.forall_mem_cons, ← ih]
      constructor
      · rintro ⟨_, b, hb, later, hlater, _⟩
        exact ⟨⟨b, hb⟩, later, hlater⟩
      · rintro ⟨⟨b, hb⟩, later, hlater⟩
        exact ⟨_, b, hb, later, hlater, rfl⟩

/-- What the results of a list are the results of. -/
theorem mem_results_iff {f : α → Except ε β} {entries : List α} {results : List β}
    (h : entries.mapM f = .ok results) {b : β} :
    b ∈ results ↔ ∃ a ∈ entries, f a = .ok b := by
  have related := mapM_ok_iff.1 h
  clear h
  induction related with
  | nil => simp
  | cons hb _ ih => simp [ih, hb, eq_comm (a := b)]

/-- The results of a list whose entries all have one. -/
theorem filterMap_of_mapM {f : α → Except ε β} {g : α → Option β} {entries : List α}
    {results : List β} (same : ∀ a b, f a = .ok b ↔ g a = some b)
    (read : entries.mapM f = .ok results) : entries.filterMap g = results := by
  have related := mapM_ok_iff.1 read
  clear read
  induction related with
  | nil => rfl
  | cons here _ ih => rw [List.filterMap_cons_some ((same _ _).1 here), ih]

/-- Going through a list for its errors succeeds exactly if no entry has one. -/
theorem forM_ok_iff {f : α → Except ε Unit} {entries : List α} :
    forM entries f = .ok () ↔ ∀ a ∈ entries, f a = .ok () := by
  induction entries with
  | nil => simp [pure, Except.pure]
  | cons entry rest ih =>
      simp only [List.forM_cons, bind_ok_iff, List.forall_mem_cons, ← ih]
      constructor
      · rintro ⟨⟨⟩, here, later⟩
        exact ⟨here, later⟩
      · rintro ⟨here, later⟩
        exact ⟨(), here, later⟩

theorem forM_error_iff {f : α → Except ε Unit} {entries : List α} {e : ε} :
    forM entries f = .error e ↔ FirstError f entries e := by
  induction entries with
  | nil =>
      constructor
      · intro h
        cases h
      · intro h
        exact absurd h FirstError.not_nil
  | cons entry rest ih =>
      simp only [List.forM_cons, bind_error_iff]
      constructor
      · rintro (h | ⟨_, here, h⟩)
        · exact .head h
        · exact .cons here (ih.1 h)
      · intro h
        rcases h.of_cons with h | ⟨⟨_, here⟩, h⟩
        · exact .inl h
        · exact .inr ⟨_, here, ih.2 h⟩

theorem forM_append (f : α → Except ε Unit) (first second : List α) :
    forM (first ++ second) f = forM first f >>= fun _ => forM second f := by
  induction first with
  | nil => rfl
  | cons entry rest ih =>
      rw [List.cons_append, List.forM_cons, List.forM_cons, ih, bind_assoc]

/-- A collection that grows by what each entry gives is the plain fold over the results. -/
theorem foldlM_eq_mapM (f : α → Except ε β) (grow : σ → β → σ) (entries : List α) (s : σ) :
    entries.foldlM (fun s a => f a >>= fun b => .ok (grow s b)) s =
      entries.mapM f >>= fun results => .ok (results.foldl grow s) := by
  induction entries generalizing s with
  | nil => rfl
  | cons entry rest ih =>
      rw [List.foldlM_cons, List.mapM_cons]
      cases f entry with
      | error e => rfl
      | ok b =>
          change rest.foldlM _ (grow s b) = _
          rw [ih]
          cases rest.mapM f with
          | error e => rfl
          | ok later => rfl

end FirmwareGlue
