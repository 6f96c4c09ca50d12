import FirmwareGlue.Proofs.Generation.Success

/-!
# The copy of the flash map

The copy is made again when it is older than the flash map. What writing the generated files does
afterwards to the times that are compared is nothing, unless the path of the flash map leads to the
output directory: a copy that was new enough stays so, and a flash map that could be copied can be
copied again. Only in that odd case is the flash map found to be newer later on, and then to be no
file.
-/

namespace FirmwareGlue

open Storage Surroundings FileTree

namespace Generation

variable {directory name source lead : String} {desk later : Desk} {s t : FileTree}

theorem copyName_isFileName : IsFileName Glue.flashMapCopyName :=
  isFileName_of_mem copyName_mem

theorem confined_copyFlashMap (directory : String) (flashMap : Option String) (desk : Desk) :
    Confined directory Glue.flashMapCopyName desk.tree
      ((copyFlashMap directory flashMap : OnTree _) desk).2.tree := by
  cases flashMap with
  | none => exact .refl directory Glue.flashMapCopyName desk.tree
  | some source =>
      rw [run_copyFlashMap]
      exact confined_copyIfNewer copyName_isFileName source directory desk

/-- What is known of the flash map once it has been copied or found to be up to date: its copy is
new enough, or it can be copied again, or its path leads to the output directory itself. -/
inductive Mapped (directory source : String) (t : FileTree) : Prop where
  | fresh {time : Nat} (looked : t.modified source = .ok time)
      (fresh : isStale time (t.modified (join directory Glue.flashMapCopyName)) = false)
  | copyable {content : ByteArray} (readable : t.read source = .ok content)
      (accepts : t.Accepts directory (placeOf directory) Glue.flashMapCopyName)
  | itself (found : t.locate source = .ok (placeOf directory))

theorem exists_copyIfNewer
    (run : (copyFlashMap directory (some source) : OnTree _) desk = (.ok (), later)) :
    ∃ outcome, (copyIfNewer source (join directory Glue.flashMapCopyName) : OnTree _) desk =
      (.ok outcome, later) := by
  rw [run_copyFlashMap] at run
  cases copied : (copyIfNewer source (join directory Glue.flashMapCopyName) : OnTree _) desk with
  | mk answer after =>
      rw [copied] at run
      cases answer with
      | error e => cases run
      | ok outcome =>
          cases run
          exact ⟨outcome, rfl⟩

/-- A copy that succeeds is no change, or a new copy of a source that can be read. -/
theorem copyFlashMap_ok
    (run : (copyFlashMap directory (some source) : OnTree _) desk = (.ok (), later)) :
    (later.tree = desk.tree ∧ Mapped directory source desk.tree) ∨
      ∃ content, desk.tree.read source = .ok content ∧
        Stores directory Glue.flashMapCopyName content desk.tree later.tree := by
  obtain ⟨outcome, copied⟩ := exists_copyIfNewer run
  obtain ⟨time, looked, ⟨fresh, _, same⟩ | ⟨_, _, content, readable, replaced⟩⟩ :=
    copyIfNewer_ok copied
  · exact .inl ⟨congrArg Desk.tree same, .fresh looked fresh⟩
  · exact .inr ⟨content, readable, stores_replace copyName_isFileName replaced⟩

theorem Mapped.of_stores {content : ByteArray}
    (readable : s.read (join lead Glue.flashMapName) = .ok content)
    (stored : Stores directory Glue.flashMapCopyName content s t) :
    Mapped directory (join lead Glue.flashMapName) t := by
  have still : t.read (join lead Glue.flashMapName) = .ok content :=
    stored.evolves.read readable fun place found _ => flashMap_apart copyName_mem found
  refine .copyable still ⟨stored.interim, stored.usable, ?_⟩
  rw [Ne, shape_eq_directory_iff]
  exact stored.not_hasDirectory

/-- Writing another file in the directory makes the flash map no less usable, unless its path leads
to the directory. -/
theorem Mapped.confined (h : Mapped directory (join lead Glue.flashMapName) s)
    (step : Confined directory name s t) (listed : name ∈ outputNames)
    (different : Glue.flashMapCopyName ≠ name) :
    Mapped directory (join lead Glue.flashMapName) t := by
  cases h with
  | fresh looked fresh =>
      obtain ⟨place, found, _⟩ := bind_ok_iff.1 (modified_eq s _ ▸ looked)
      by_cases home : place = placeOf directory
      · exact .itself (step.evolves.locate (home ▸ found))
      · rw [← step.modified found home (flashMap_apart listed found)] at looked
        cases timed : s.modified (join directory Glue.flashMapCopyName) with
        | error fault =>
            rw [timed] at fresh
            cases fresh
        | ok copyTime =>
            rw [timed, ← step.modified_other copyName_isFileName different timed] at fresh
            exact .fresh looked fresh
  | copyable readable accepts =>
      have still := step.evolves.read readable fun place found _ => flashMap_apart listed found
      refine .copyable still ⟨accepts.interim, accepts.usable, ?_⟩
      rw [shape, step.at?_other different]
      exact accepts.free
  | itself found => exact .itself (step.evolves.locate found)

/-- The flash map is copied again or found to be up to date, unless its path leads to the output
directory. -/
theorem Mapped.copy_again (h : Mapped directory (join lead Glue.flashMapName) desk.tree)
    (entered : desk.tree.Entered directory (placeOf directory)) :
    (∃ later, (copyFlashMap directory (some (join lead Glue.flashMapName)) : OnTree _) desk =
        (.ok (), later)) ∨
      placeOf (join lead Glue.flashMapName) = placeOf directory ∧
        (copyFlashMap directory (some (join lead Glue.flashMapName)) : OnTree _) desk =
          (.error (.readFailed (join lead Glue.flashMapName) .isADirectory), desk) := by
  rw [run_copyFlashMap]
  cases h with
  | fresh looked fresh =>
      rw [run_copyIfNewer looked, fresh]
      exact .inl ⟨desk, rfl⟩
  | @copyable content readable accepts =>
      obtain ⟨place, time, found, here⟩ := read_ok_iff.1 readable
      rw [run_copyIfNewer (modified_of_locate found here), readable]
      split
      next =>
        obtain ⟨later, run, _⟩ := replaceWith_succeeds copyName_isFileName entered accepts content
          ("copied " ++ join lead Glue.flashMapName ++ " to " ++
            join directory Glue.flashMapCopyName)
        simp only [run]
        exact .inl ⟨later, rfl⟩
      next => exact .inl ⟨desk, rfl⟩
  | itself found =>
      obtain ⟨time, here⟩ := entered.hasDirectory
      rw [run_copyIfNewer (modified_of_locate found here),
        read_of_hasDirectory found entered.hasDirectory]
      split
      next =>
        refine .inr ⟨?_, rfl⟩
        rw [placeOf_join flashMapName_isFileName,
          eq_placeOf_of_locate flashMapName_isFileName found]
      next => exact .inl ⟨desk, rfl⟩

end Generation

end FirmwareGlue
