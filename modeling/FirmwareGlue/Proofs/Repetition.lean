import FirmwareGlue.FirstSeen
import FirmwareGlue.Proofs.FirstError
import Mathlib.Data.List.Induction

/-!
# Lists that differ in repetitions only

An entry that stood in a list before adds nothing where each entry counts at its first place. So a
copy of an entry, inserted anywhere behind it, does not show in what is collected from the list; nor
does it in what is collected from the images of the entries, or in the error of the first entry that
has one. One induction serves all of these: it is enough that a repeated last entry does not show,
and that what shows of a list and one more entry is known from what shows of the list.
-/

namespace FirmwareGlue

/-- A list with copies of its entries inserted, each behind the entry that it copies. -/
inductive Repeats {α : Type} (l : List α) : List α → Prop where
  | refl : Repeats l l
  | copy {before between after : List α} {a : α}
      (earlier : Repeats l (before ++ a :: between ++ after)) :
      Repeats l (before ++ a :: between ++ a :: after)

/-- The first entry may be copied to the end. -/
theorem Repeats.again {α : Type} (a : α) (rest : List α) :
    Repeats (a :: rest) (a :: rest ++ [a]) := by
  have whole : Repeats (a :: rest) ([] ++ a :: rest ++ []) := by
    rw [List.append_nil]
    exact .refl
  exact whole.copy

namespace FirstSeen

variable {α β : Type} [DecidableEq α] [DecidableEq β]

theorem add_of_mem {seen : List α} {entry : α} (h : entry ∈ seen) : add seen entry = seen :=
  if_pos h

theorem addAll_append (seen first second : List α) :
    addAll seen (first ++ second) = addAll (addAll seen first) second :=
  List.foldl_append

theorem addAll_of_subset {seen entries : List α} (h : ∀ x ∈ entries, x ∈ seen) :
    addAll seen entries = seen := by
  induction entries with
  | nil => rfl
  | cons entry rest ih =>
      rw [List.forall_mem_cons] at h
      rw [addAll, List.foldl_cons, add_of_mem h.1]
      exact ih h.2

theorem ofList_append (first second : List α) :
    ofList (first ++ second) = addAll (ofList first) second :=
  addAll_append _ _ _

theorem ofList_concat_of_notMem {l : List α} {x : α} (new : x ∉ l) :
    ofList (l ++ [x]) = ofList l ++ [x] := by
  rw [ofList_append]
  exact if_neg (by simpa [mem_ofList] using new)

/-- A list without repetition has every entry at its first place. -/
theorem ofList_of_nodup {l : List α} (nodup : l.Nodup) : ofList l = l := by
  induction l using List.reverseRecOn with
  | nil => rfl
  | append_singleton l x ih =>
      rw [List.nodup_append] at nodup
      have new : x ∉ l := fun member => nodup.2.2 x member x List.mem_cons_self rfl
      rw [ofList_concat_of_notMem new, ih nodup.1]

theorem ofList_ofList (l : List α) : ofList (ofList l) = ofList l :=
  ofList_of_nodup (nodup_addAll List.nodup_nil l)

/-- Where a repeated last entry does not show, and what shows of a list and one more entry is known
from what shows of the list, only the entries at their first places show. -/
theorem of_ofList {σ : Type} (shown : List α → σ)
    (repeated : ∀ l x, x ∈ l → shown (l ++ [x]) = shown l)
    (one_more : ∀ first second x, shown first = shown second →
      shown (first ++ [x]) = shown (second ++ [x])) (l : List α) :
    shown (ofList l) = shown l := by
  induction l using List.reverseRecOn with
  | nil => rfl
  | append_singleton l x ih =>
      by_cases known : x ∈ l
      · rw [ofList_append, addAll_of_subset (by simpa [mem_ofList] using known), repeated l x known]
        exact ih
      · rw [ofList_concat_of_notMem known]
        exact one_more _ _ x ih

/-- Two lists have the same entries at their first places, in the same order. -/
def Same (first second : List α) : Prop := ofList first = ofList second

/-- A copy behind the entry that it copies is not at the first place. -/
theorem same_of_repeats {first second : List α} (h : Repeats first second) :
    Same first second := by
  induction h with
  | refl => rfl
  | @copy before between after a _ ih =>
      have known : add (ofList (before ++ a :: between)) a = ofList (before ++ a :: between) :=
        add_of_mem (by simp [mem_ofList])
      calc ofList first = ofList (before ++ a :: between ++ after) := ih
        _ = addAll (ofList (before ++ a :: between)) after := ofList_append _ _
        _ = addAll (ofList (before ++ a :: between)) (a :: after) := by
            rw [addAll, addAll, List.foldl_cons, known]
        _ = ofList (before ++ a :: between ++ a :: after) := (ofList_append _ _).symm

namespace Same

variable {first second third : List α}

theorem refl (l : List α) : Same l l := rfl

theorem symm (h : Same first second) : Same second first := Eq.symm h

theorem trans (h : Same first second) (next : Same second third) : Same first third :=
  Eq.trans h next

/-- What shows the entries at their first places only is equal for the two lists. -/
theorem shown {σ : Type} {shown : List α → σ} (h : Same first second)
    (repeated : ∀ l x, x ∈ l → shown (l ++ [x]) = shown l)
    (one_more : ∀ first second x, shown first = shown second →
      shown (first ++ [x]) = shown (second ++ [x])) : shown first = shown second :=
  calc shown first = shown (ofList first) := (of_ofList shown repeated one_more first).symm
    _ = shown (ofList second) := by rw [h]
    _ = shown second := of_ofList shown repeated one_more second

theorem addAll (h : Same first second) (seen : List α) :
    FirstSeen.addAll seen first = FirstSeen.addAll seen second := by
  apply h.shown
  · intro l x member
    rw [addAll_append]
    exact addAll_of_subset (by simpa [mem_addAll] using .inr member)
  · intro l l' x same
    rw [addAll_append, addAll_append, same]

theorem flatMap (h : Same first second) (f : α → List β) :
    Same (first.flatMap f) (second.flatMap f) := by
  apply h.shown
  · intro l x member
    rw [List.flatMap_append, ofList_append]
    apply addAll_of_subset
    intro y image
    rw [mem_ofList, List.mem_flatMap]
    exact ⟨x, member, by simpa using image⟩
  · intro l l' x same
    rw [List.flatMap_append, List.flatMap_append, ofList_append, ofList_append, same]

theorem filterMap (h : Same first second) (f : α → Option β) :
    Same (first.filterMap f) (second.filterMap f) := by
  rw [List.filterMap_eq_flatMap_toList, List.filterMap_eq_flatMap_toList]
  exact h.flatMap _

theorem map (h : Same first second) (f : α → β) : Same (first.map f) (second.map f) := by
  simpa only [List.filterMap_eq_map] using h.filterMap (some ∘ f)

theorem filter (h : Same first second) (p : α → Bool) :
    Same (first.filter p) (second.filter p) := by
  simpa only [List.filterMap_eq_filter] using h.filterMap (Option.guard p)

theorem append {first' second' : List α} (h : Same first second) (next : Same first' second') :
    Same (first ++ first') (second ++ second') := by
  rw [Same, ofList_append, ofList_append, h]
  exact next.addAll _

/-- Entries that are related give the same, one after another. -/
theorem flatMap_forall₂ {γ δ : Type} {R : γ → δ → Prop} {xs : List γ} {ys : List δ}
    {f : γ → List α} {g : δ → List α} (all : List.Forall₂ R xs ys)
    (each : ∀ x y, R x y → Same (f x) (g y)) : Same (xs.flatMap f) (ys.flatMap g) := by
  induction all with
  | nil => exact .refl []
  | cons related _ ih =>
      rw [List.flatMap_cons, List.flatMap_cons]
      exact (each _ _ related).append ih

/-- Work that stops at the first error gives the same error on both lists, or the same results at
their first places. -/
theorem mapM {ε : Type} (h : Same first second) (f : α → Except ε β) :
    (first.mapM f).map ofList = (second.mapM f).map ofList := by
  -- What one more entry gives is added to what the entries before have given.
  have concat (l : List α) (x : α) : ((l ++ [x]).mapM f).map ofList =
      (l.mapM f).map ofList >>= fun seen => (f x).map fun y => add seen y := by
    rw [List.mapM_append]
    cases l.mapM f with
    | error e => rfl
    | ok results =>
        cases hx : f x with
        | error e => simp [hx, Except.map, bind, Except.bind]
        | ok y =>
            simp only [List.mapM_cons, List.mapM_nil, hx, Except.map, bind, Except.bind, pure,
              Except.pure]
            rw [ofList_append]
            rfl
  apply h.shown
  · intro l x member
    rw [concat]
    cases done : l.mapM f with
    | error e => rfl
    | ok results =>
        obtain ⟨y, hy⟩ := exists_mapM_ok_iff.1 ⟨results, done⟩ x member
        have known : y ∈ ofList results := mem_ofList.2 ((mem_results_iff done).2 ⟨x, member, hy⟩)
        rw [hy]
        exact congrArg Except.ok (add_of_mem known)
  · intro l l' x same
    rw [concat, concat, same]

/-- Nothing that goes on with the results at their first places can tell the lists apart. -/
theorem mapM_bind {ε γ : Type} (h : Same first second) (f : α → Except ε β)
    {next : List β → Except ε γ} (only : ∀ results, next (ofList results) = next results) :
    (first.mapM f >>= next) = (second.mapM f >>= next) := by
  have through (x : Except ε (List β)) : x >>= next = x.map ofList >>= next := by
    cases x with
    | error e => rfl
    | ok results => exact (only results).symm
  rw [through, through (second.mapM f), h.mapM]

end Same

end FirstSeen

end FirmwareGlue
