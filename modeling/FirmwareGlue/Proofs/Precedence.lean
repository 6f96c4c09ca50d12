import Mathlib.Data.List.Nodup
import Mathlib.Tactic.Common

/-!
# Which of two entries stands first

Orders of construction, emission and search are lists, and what is said about them is which of two
entries stands before the other. In a list without repetition this is a strict order; turning the
list around turns it around.
-/

namespace FirmwareGlue

variable {α β : Type} {l : List α} {x y z : α}

/-- An entry stands somewhere before another one. -/
def Precedes (l : List α) (x y : α) : Prop :=
  ∃ i j : Nat, i < j ∧ l[i]? = some x ∧ l[j]? = some y

theorem precedes_iff_sublist : Precedes l x y ↔ [x, y].Sublist l := by
  constructor
  · rintro ⟨i, j, hij, hx, hy⟩
    obtain ⟨bound, rfl⟩ := List.getElem?_eq_some_iff.1 hx
    have later : y ∈ l.drop (i + 1) := by
      refine List.mem_iff_getElem?.2 ⟨j - (i + 1), ?_⟩
      rw [List.getElem?_drop, show i + 1 + (j - (i + 1)) = j by omega]
      exact hy
    calc [l[i], y].Sublist (l[i] :: l.drop (i + 1)) :=
          (List.singleton_sublist.2 later).cons_cons _
      _ = l.drop i := (List.drop_eq_getElem_cons bound).symm
      List.Sublist _ l := List.drop_sublist i l
  · intro h
    induction l with
    | nil => cases h
    | cons first rest ih =>
        cases h with
        | cons _ h =>
            obtain ⟨i, j, hij, hx, hy⟩ := ih h
            exact ⟨i + 1, j + 1, by omega, hx, hy⟩
        | cons_cons _ h =>
            obtain ⟨j, hj⟩ := List.mem_iff_getElem?.1 (List.singleton_sublist.1 h)
            exact ⟨0, j + 1, by omega, rfl, hj⟩

namespace Precedes

theorem mem_left (h : Precedes l x y) : x ∈ l := by
  obtain ⟨_, _, _, hx, _⟩ := h
  exact List.mem_of_getElem? hx

theorem trans (nodup : l.Nodup) (first : Precedes l x y) (second : Precedes l y z) :
    Precedes l x z := by
  obtain ⟨i, j, hij, hx, hy⟩ := first
  obtain ⟨j', k, hjk, hy', hz⟩ := second
  have bound : j < l.length := (List.getElem?_eq_some_iff.1 hy).1
  have same : j = j' := (List.getElem?_inj bound nodup).1 (hy.trans hy'.symm)
  exact ⟨i, k, by omega, hx, hz⟩

theorem irrefl (nodup : l.Nodup) : ¬ Precedes l x x := by
  intro h
  have twice := nodup.sublist (precedes_iff_sublist.1 h)
  simp at twice

theorem reverse (h : Precedes l x y) : Precedes l.reverse y x := by
  rw [precedes_iff_sublist] at h ⊢
  exact List.reverse_sublist.2 h

theorem of_split {before after : List α} (split : l = before ++ y :: after) (h : x ∈ before) :
    Precedes l x y := by
  rw [precedes_iff_sublist, split]
  exact (List.singleton_sublist.2 h).append (List.singleton_sublist.2 List.mem_cons_self)

/-- The places of two entries, one before the other. -/
theorem exists_split (h : Precedes l x y) : ∃ xs ys zs, l = xs ++ x :: (ys ++ y :: zs) := by
  obtain ⟨front, back, rfl, hx, hy⟩ := List.cons_sublist_iff.1 (precedes_iff_sublist.1 h)
  obtain ⟨xs, rest, rfl⟩ := List.append_of_mem hx
  obtain ⟨more, zs, rfl⟩ := List.append_of_mem (List.singleton_sublist.1 hy)
  exact ⟨xs, rest ++ more, zs, by simp⟩

theorem filterMap {f : α → Option β} {a b : β} (h : Precedes l x y) (hx : f x = some a)
    (hy : f y = some b) : Precedes (l.filterMap f) a b := by
  rw [precedes_iff_sublist] at h ⊢
  simpa [hx, hy] using h.filterMap f

end Precedes

end FirmwareGlue
