/-!
# Lists without repetition, in the order of first occurrence

Much of what is generated is collected from several places, each entry once, at the place where it
was met first. A collection grows by `add`, which leaves it alone when the entry is there already.
-/

namespace FirmwareGlue.FirstSeen

variable {α : Type} [DecidableEq α]

/-- The collection with an entry added at its end, unless it is there already. -/
def add (seen : List α) (entry : α) : List α :=
  if entry ∈ seen then seen else seen ++ [entry]

/-- The collection with several entries added in turn. -/
def addAll (seen entries : List α) : List α :=
  entries.foldl add seen

/-- The entries of a list, each at its first place. -/
def ofList (entries : List α) : List α :=
  addAll [] entries

theorem mem_add {seen : List α} {entry x : α} : x ∈ add seen entry ↔ x ∈ seen ∨ x = entry := by
  by_cases h : entry ∈ seen
  · simp only [add, h, if_true]
    exact ⟨.inl, fun hx => hx.elim id (fun e => e ▸ h)⟩
  · simp [add, h]

theorem mem_addAll {seen entries : List α} {x : α} :
    x ∈ addAll seen entries ↔ x ∈ seen ∨ x ∈ entries := by
  induction entries generalizing seen with
  | nil => simp [addAll]
  | cons entry rest ih =>
    have : x ∈ addAll (add seen entry) rest ↔ x ∈ add seen entry ∨ x ∈ rest := ih
    simp only [addAll, List.foldl_cons] at this ⊢
    simp only [this, mem_add, List.mem_cons, or_assoc]

theorem mem_ofList {entries : List α} {x : α} : x ∈ ofList entries ↔ x ∈ entries := by
  simp [ofList, mem_addAll]

theorem nodup_add {seen : List α} (h : seen.Nodup) (entry : α) : (add seen entry).Nodup := by
  by_cases he : entry ∈ seen
  · simpa [add, he] using h
  · simp only [add, he, if_false]
    refine List.nodup_append.2 ⟨h, by simp, ?_⟩
    intro a ha b hb hab
    obtain rfl := List.mem_singleton.1 hb
    exact he (hab ▸ ha)

theorem nodup_addAll {seen : List α} (h : seen.Nodup) (entries : List α) :
    (addAll seen entries).Nodup := by
  induction entries generalizing seen with
  | nil => exact h
  | cons entry rest ih => exact ih (nodup_add h entry)

end FirmwareGlue.FirstSeen
