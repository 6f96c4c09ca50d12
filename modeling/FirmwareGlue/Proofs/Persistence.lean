import FirmwareGlue.Proofs.FirstError

/-!
# Results that persist

The same work is done twice, and knows more the second time. A result persists if the second run
gives it again. It need not if it is an error that more knowledge may lift. Work made of steps
persists if each step does, and a later step is only asked about what the earlier ones gave. Where
no error may be lifted, to persist is to be equal.
-/

namespace FirmwareGlue

variable {ε α β : Type} {liftable : ε → Prop} {before after : Except ε α}

/-- A second result is the same as the first, unless the first is an error that may be lifted. -/
def Persists (liftable : ε → Prop) (before after : Except ε α) : Prop :=
  after = before ∨ ∃ e, before = .error e ∧ liftable e

namespace Persists

theorem refl (liftable : ε → Prop) (x : Except ε α) : Persists liftable x x :=
  .inl rfl

theorem of_error {e : ε} (lifts : liftable e) (after : Except ε α) :
    Persists liftable (.error e) after :=
  .inr ⟨e, rfl, lifts⟩

/-- A result that no more knowledge can change is given again. -/
theorem eq (h : Persists liftable before after) (settled : ∀ e, before = .error e → ¬ liftable e) :
    after = before := by
  rcases h with same | ⟨e, failed, lifts⟩
  · exact same
  · exact absurd lifts (settled e failed)

theorem ok {a : α} (h : Persists liftable (.ok a) after) : after = .ok a :=
  h.eq (by rintro e ⟨⟩)

theorem bind {f g : α → Except ε β} (h : Persists liftable before after)
    (next : ∀ a, before = .ok a → Persists liftable (f a) (g a)) :
    Persists liftable (before >>= f) (after >>= g) := by
  rcases h with rfl | ⟨e, rfl, lifts⟩
  · cases after with
    | error e => exact .refl _ _
    | ok a => exact next a rfl
  · exact of_error lifts _

theorem mapM {f g : β → Except ε α} {entries : List β}
    (each : ∀ entry ∈ entries, Persists liftable (f entry) (g entry)) :
    Persists liftable (entries.mapM f) (entries.mapM g) := by
  induction entries with
  | nil => exact .refl _ _
  | cons entry rest ih =>
      rw [List.forall_mem_cons] at each
      rw [List.mapM_cons, List.mapM_cons]
      exact each.1.bind fun _ _ => (ih each.2).bind fun _ _ => .refl _ _

end Persists

end FirmwareGlue
