import FirmwareGlue.Proofs.Precedence
import FirmwareGlue.Proofs.Repetition

/-!
# Entries at their first places

What is collected without repetition can be said without the collection: an entry is kept at a place
of the list if its key does not stand at an earlier place. The key is what counts as repeated, the
entry itself or a part of it. Every key is kept once, and the order of the list is kept.
-/

namespace FirmwareGlue.FirstSeen

variable {α κ : Type} [DecidableEq κ] {key : α → κ} {entries : List α}

/-- The entries whose key has not occurred before. -/
def firstsBy (key : α → κ) (entries : List α) : List α :=
  (entries.zipIdx.filter fun placed =>
    key placed.1 ∉ (entries.take placed.2).map key).map Prod.fst

/-- What comes behind has no part in which of the earlier entries are kept. -/
theorem firstsBy_concat (key : α → κ) (entries : List α) (entry : α) :
    firstsBy key (entries ++ [entry]) =
      firstsBy key entries ++ if key entry ∈ entries.map key then [] else [entry] := by
  have earlier : entries.zipIdx.filter (fun placed =>
        key placed.1 ∉ ((entries ++ [entry]).take placed.2).map key) =
      entries.zipIdx.filter fun placed => key placed.1 ∉ (entries.take placed.2).map key := by
    apply List.filter_congr
    intro placed member
    have inside : placed.2 < entries.length := (List.mem_zipIdx' member).1
    rw [List.take_append_of_le_length (Nat.le_of_lt inside)]
  rw [firstsBy, List.zipIdx_append, List.filter_append, earlier, List.map_append]
  congr 1
  simp only [List.zipIdx_singleton, Nat.zero_add, List.filter_singleton, List.take_left]
  by_cases known : key entry ∈ entries.map key
  · simp [known]
  · simp [known]

theorem firstsBy_sublist (key : α → κ) (entries : List α) :
    (firstsBy key entries).Sublist entries := by
  have cut := (List.filter_sublist (l := entries.zipIdx) (p := fun placed =>
    key placed.1 ∉ (entries.take placed.2).map key)).map Prod.fst
  rwa [List.zipIdx_map_fst] at cut

/-- An entry is kept at the place where its key occurs first. -/
theorem mem_firstsBy_iff {entry : α} : entry ∈ firstsBy key entries ↔
    ∃ before after, entries = before ++ entry :: after ∧ key entry ∉ before.map key := by
  simp only [firstsBy, List.mem_map, List.mem_filter, decide_eq_true_eq]
  constructor
  · rintro ⟨⟨_, place⟩, ⟨member, new⟩, rfl⟩
    have found : entries[place]? = some _ := List.mem_zipIdx_iff_getElem?.1 member
    obtain ⟨inside, rfl⟩ := List.getElem?_eq_some_iff.1 found
    refine ⟨entries.take place, entries.drop (place + 1), ?_, by simpa using new⟩
    rw [List.getElem_cons_drop, List.take_append_drop]
  · rintro ⟨before, after, rfl, new⟩
    refine ⟨(entry, before.length), ⟨?_, ?_⟩, rfl⟩
    · exact List.mem_zipIdx_iff_getElem?.2 (by simp)
    · simpa using new

/-- No key is lost. -/
theorem mem_map_firstsBy {k : κ} : k ∈ (firstsBy key entries).map key ↔ k ∈ entries.map key := by
  induction entries using List.reverseRecOn with
  | nil => rfl
  | append_singleton entries entry ih =>
      rw [firstsBy_concat, List.map_append, List.map_append, List.mem_append, ih, List.mem_append,
        List.map_singleton, List.mem_singleton]
      by_cases known : key entry ∈ entries.map key
      · rw [if_pos known]
        constructor
        · rintro (earlier | none)
          · exact .inl earlier
          · cases none
        · rintro (earlier | rfl)
          · exact .inl earlier
          · exact .inl known
      · rw [if_neg known, List.map_singleton, List.mem_singleton]

theorem mem_firstsBy_id {entries : List κ} {k : κ} : k ∈ firstsBy id entries ↔ k ∈ entries := by
  have kept : k ∈ (firstsBy id entries).map id ↔ k ∈ entries.map id := mem_map_firstsBy
  rwa [List.map_id, List.map_id] at kept

/-- No key is kept twice. -/
theorem nodup_map_firstsBy (key : α → κ) (entries : List α) :
    ((firstsBy key entries).map key).Nodup := by
  induction entries using List.reverseRecOn with
  | nil => exact List.nodup_nil
  | append_singleton entries entry ih =>
      rw [firstsBy_concat]
      by_cases known : key entry ∈ entries.map key
      · rw [if_pos known, List.append_nil]
        exact ih
      · rw [if_neg known, List.map_append, List.map_singleton, List.nodup_append]
        refine ⟨ih, by simp, ?_⟩
        rintro k earlier _ last rfl
        rw [List.mem_singleton.1 last] at earlier
        exact known (mem_map_firstsBy.1 earlier)

/-- What is kept of some entries stays in front of what is kept of later ones. -/
theorem firstsBy_isPrefix (key : α → κ) (before after : List α) :
    firstsBy key before <+: firstsBy key (before ++ after) := by
  induction after using List.reverseRecOn with
  | nil => simp
  | append_singleton after entry ih =>
      rw [← List.append_assoc, firstsBy_concat]
      exact ih.trans (List.prefix_append _ _)

/-- An entry is kept before those that first occur behind all of its occurrences. -/
theorem precedes_firstsBy {before after : List κ} {x y : κ} (early : x ∈ before) (late : y ∈ after)
    (new : y ∉ before) : Precedes (firstsBy id (before ++ after)) x y := by
  obtain ⟨rest, split⟩ := firstsBy_isPrefix id before after
  have behind : y ∈ rest := by
    have member : y ∈ firstsBy id before ++ rest :=
      split ▸ mem_firstsBy_id.2 (List.mem_append_right _ late)
    exact (List.mem_append.1 member).resolve_left fun earlier => new (mem_firstsBy_id.1 earlier)
  obtain ⟨front, back, rfl⟩ := List.append_of_mem behind
  rw [← split, ← List.append_assoc]
  exact .of_split rfl (List.mem_append_left _ (mem_firstsBy_id.2 early))

/-- A collection grown entry by entry has the entries at their first places. -/
theorem ofList_eq_firstsBy (list : List κ) : ofList list = firstsBy id list := by
  induction list using List.reverseRecOn with
  | nil => rfl
  | append_singleton list entry ih =>
      have grown : ofList (list ++ [entry]) = add (ofList list) entry := by
        rw [ofList_append]
        rfl
      rw [grown, firstsBy_concat, ← ih, List.map_id, id_eq, add]
      by_cases known : entry ∈ list
      · rw [if_pos (mem_ofList.2 known), if_pos known, List.append_nil]
      · rw [if_neg (mem_ofList.not.2 known), if_neg known]

end FirmwareGlue.FirstSeen
