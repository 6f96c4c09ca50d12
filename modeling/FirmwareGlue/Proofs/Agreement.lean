import FirmwareGlue.Proofs.FirstError

/-!
# Computations that agree

Two computations on related data agree if they fail with the same error, or if both give results and
these are related. Work made of steps agrees if each step does on what the earlier steps gave. Where
related results are equal, to agree is to be equal.
-/

namespace FirmwareGlue

variable {ε α β γ δ : Type}

/-- Two computations fail with the same error, or give related results. -/
inductive Agree (R : α → β → Prop) : Except ε α → Except ε β → Prop where
  | error (e : ε) : Agree R (.error e) (.error e)
  | ok {a : α} {b : β} (related : R a b) : Agree R (.ok a) (.ok b)

namespace Agree

variable {R : α → β → Prop} {S : γ → δ → Prop} {x : Except ε α} {y : Except ε β}

theorem refl (x : Except ε α) : Agree Eq x x := by
  cases x with
  | error e => exact .error e
  | ok a => exact .ok rfl

theorem bind {f : α → Except ε γ} {g : β → Except ε δ} (h : Agree R x y)
    (next : ∀ a b, R a b → Agree S (f a) (g b)) : Agree S (x >>= f) (y >>= g) := by
  cases h with
  | error e => exact .error e
  | ok related => exact next _ _ related

/-- Computations on the entries of two lists agree as a whole if they do entry by entry. -/
theorem mapM {f : γ → Except ε α} {g : δ → Except ε β} {first : List γ} {second : List δ}
    (h : List.Forall₂ (fun a b => Agree R (f a) (g b)) first second) :
    Agree (List.Forall₂ R) (first.mapM f) (second.mapM g) := by
  induction h with
  | nil => exact .ok .nil
  | cons here _ ih =>
      rw [List.mapM_cons, List.mapM_cons]
      exact here.bind fun _ _ related => ih.bind fun _ _ later => .ok (.cons related later)

theorem imp {T : α → β → Prop} (h : Agree R x y) (weaker : ∀ a b, R a b → T a b) :
    Agree T x y := by
  cases h with
  | error e => exact .error e
  | ok related => exact .ok (weaker _ _ related)

theorem eq {x y : Except ε α} (h : Agree Eq x y) : x = y := by
  cases h with
  | error e => rfl
  | ok related => rw [related]

/-- Where each result of the second computation is the image of one of the first, it is the image of
the first computation. -/
theorem eq_map {image : α → β} (h : Agree (fun a b => image a = b) x y) : y = x.map image := by
  cases h with
  | error e => rfl
  | ok related => rw [← related, Except.map]

end Agree

end FirmwareGlue
