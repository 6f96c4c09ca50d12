import FirmwareGlue.Proofs.Generation.Rerun

/-!
# When the copy of the flash map settles

A copy is judged by times only: it is made again when its source is later. Writing gives it the time
of the clock, which nothing turns back. So a source that is not later than the clock is copied at
most once and then left alone. A source that is later than its new copy is copied by every further
generation, the same bytes under another time, although nothing has changed and the report may say
that everything is up to date.

A source whose path leads to the output directory is a directory, which is never copied.
-/

namespace FirmwareGlue

open Storage Surroundings FileTree

/-! ### The clock -/

theorem Operation.clock_le (operation : Operation) (t : FileTree) :
    t.clock ≤ (operation.run t).2.clock := by
  cases operation with
  | contentOf path => exact Nat.le_refl _
  | modifiedAt path => exact Nat.le_refl _
  | makeDirectory parts =>
      rcases makeDirectory_cases t parts with same | ⟨parent, name, _, same⟩
      · exact Nat.le_of_eq (congrArg clock same.symm)
      · have advanced : (t.addDirectory (parent ++ [name])).clock = t.clock + 1 :=
          congrArg (· + 1) (clock_touchNow _ _)
        rw [run, same, advanced]
        exact Nat.le_succ _
  | leadsToDirectory parts => exact Nat.le_refl _
  | writeBeside path => simp [run, clock_writeBeside]
  | moveIntoPlace path content =>
      cases found : t.destination path with
      | error fault =>
          rw [run, moveIntoPlace_of_error found]
          exact Nat.le_succ _
      | ok place =>
          rw [run, moveIntoPlace_of_ok found]
          exact Nat.le_succ _

namespace Pass

variable {α : Type}

/-- No operation turns the clock back, so no pass does. -/
theorem clock_le_perform (p : Pass α) (t : FileTree) : t.clock ≤ (p.perform t).2.clock := by
  induction p generalizing t with
  | done result => exact Nat.le_refl _
  | step operation next ih => exact Nat.le_trans (operation.clock_le t) (ih _ _)

theorem CarriesOut.clock_le {x : OnTree α} {p : Pass α} (h : CarriesOut x p) (desk : Desk) :
    desk.tree.clock ≤ (x desk).2.tree.clock := by
  rw [h.tree]
  exact p.clock_le_perform desk.tree

end Pass

namespace Storage

variable {source copy : String} {outcome : Outcome} {time copyTime : Nat} {desk later : Desk}

/-! ### Copying once and again -/

/-- A copy that is left alone is not older than its source; one that is made has the time of the
clock. -/
theorem copyIfNewer_times
    (run : (copyIfNewer source copy : OnTree _) desk = (.ok outcome, later)) :
    ∃ time, desk.tree.modified source = .ok time ∧
      ((outcome = .unchanged ∧ later = desk ∧
          ∃ copyTime, desk.tree.modified copy = .ok copyTime ∧ time ≤ copyTime) ∨
        outcome = .written ∧ later.tree.modified copy = .ok desk.tree.clock ∧
          ∃ content, desk.tree.read source = .ok content ∧
            desk.tree.replace copy content = (.ok (), later.tree)) := by
  obtain ⟨time, looked, ⟨fresh, kept, same⟩ | ⟨_, wrote, content, readable, replaced⟩⟩ :=
    copyIfNewer_ok run
  · refine ⟨time, looked, .inl ⟨kept, same, ?_⟩⟩
    cases timed : desk.tree.modified copy with
    | error fault =>
        rw [timed] at fresh
        cases fresh
    | ok copyTime =>
        rw [timed, isStale, decide_eq_false_iff_not, Nat.not_lt] at fresh
        exact ⟨copyTime, rfl, fresh⟩
  · obtain ⟨place, found, here, _⟩ := replace_done replaced
    exact ⟨time, looked, .inr ⟨wrote, modified_of_locate found here, content, readable, replaced⟩⟩

/-- A copy is left alone exactly if it is not older than its source. -/
theorem copyIfNewer_unchanged_iff (looked : desk.tree.modified source = .ok time)
    (timed : desk.tree.modified copy = .ok copyTime) :
    (copyIfNewer source copy : OnTree _) desk = (.ok .unchanged, desk) ↔ time ≤ copyTime := by
  constructor
  · intro run
    obtain ⟨_, again, ⟨_, _, other, timedAgain, fresh⟩ | ⟨wrote, _⟩⟩ := copyIfNewer_times run
    · cases looked.symm.trans again
      cases timed.symm.trans timedAgain
      exact fresh
    · cases wrote
  · intro fresh
    rw [run_copyIfNewer looked, timed, if_neg]
    simpa [isStale] using fresh

end Storage

namespace Generation

variable {ws : Workspace} {config : Config} {v : View} {directory lead source : String}
  {fragments : PcdFragments} {rendering : Rendering} {flashMap : Option String} {report : Report}
  {content : ByteArray} {desk later ready copied between : Desk}

/-! ### Generating once and again -/

/-- A copy is not older than the flash map, or the flash map is a directory, which cannot be copied:
its path leads to the output directory. -/
def CopyStays (directory source : String) (time copyTime : Nat) : Prop :=
  time ≤ copyTime ∨ placeOf source = placeOf directory

/-- A copy has the bytes of the flash map, which can be read and copied again. -/
structure Copied (directory source : String) (content : ByteArray) (copyTime : Nat)
    (t : FileTree) : Prop where
  readable : t.read source = .ok content
  accepts : t.Accepts directory (placeOf directory) Glue.flashMapCopyName
  here : t.at? (placeOf directory ++ [Glue.flashMapCopyName]) = some (.file content copyTime)

namespace Stages

variable (h : Stages ws config v directory fragments rendering flashMap report desk ready copied
  between later)

include h

theorem clock_made : desk.tree.clock ≤ ready.tree.clock := by
  have advanced := (Pass.makeDirectories directory).clock_le_perform desk.tree
  rwa [Pass.perform_makeDirectories, h.made] at advanced

theorem clock_emitted : copied.tree.clock ≤ later.tree.clock := by
  have header := (Pass.CarriesOut.emit (join directory Glue.headerName)
    rendering.header.text).clock_le copied
  have source := (Pass.CarriesOut.emit (join directory Glue.sourceName)
    rendering.source.text).clock_le between
  rw [h.header] at header
  rw [h.source] at source
  exact Nat.le_trans header source

/-- Behind the flash map only the header and the source are written. -/
theorem evolves_emitted : Evolves (fun place _ => ∃ name ∈ [Glue.headerName, Glue.sourceName],
    place = placeOf directory ++ [name]) copied.tree later.tree := by
  refine (h.updates_header.confined.evolves.mono ?_).trans
    (h.updates_source.confined.evolves.mono ?_)
  · exact fun place _ goal => ⟨_, by simp, goal⟩
  · exact fun place _ goal => ⟨_, by simp, goal⟩

theorem at?_copy_emitted : later.tree.at? (placeOf directory ++ [Glue.flashMapCopyName]) =
    copied.tree.at? (placeOf directory ++ [Glue.flashMapCopyName]) := by
  rw [h.updates_source.confined.at?_other (by decide),
    h.updates_header.confined.at?_other (by decide)]

theorem modified_copy_emitted {time : Nat}
    (timed : copied.tree.modified (join directory Glue.flashMapCopyName) = .ok time) :
    later.tree.modified (join directory Glue.flashMapCopyName) = .ok time :=
  h.updates_source.confined.modified_other copyName_isFileName (by decide)
    (h.updates_header.confined.modified_other copyName_isFileName (by decide) timed)

/-- A flash map that is a file is as it was, unless it is the output directory. -/
theorem modified_flashMap_emitted {place : Place}
    (found : copied.tree.locate (join lead Glue.flashMapName) = .ok place)
    (notHome : place ≠ placeOf directory) :
    later.tree.modified (join lead Glue.flashMapName) =
      copied.tree.modified (join lead Glue.flashMapName) := by
  have still := h.updates_header.confined.evolves.locate found
  rw [h.updates_source.confined.modified still notHome (flashMap_apart sourceName_mem found),
    h.updates_header.confined.modified found notHome (flashMap_apart headerName_mem found)]

/-- A copy that has been made is there with the time of the clock, and can be made again. -/
theorem copied_of_replace {time : Nat}
    (looked : ready.tree.modified (join lead Glue.flashMapName) = .ok time)
    (readable : ready.tree.read (join lead Glue.flashMapName) = .ok content)
    (done : ready.tree.replace (join directory Glue.flashMapCopyName) content =
      (.ok (), copied.tree)) :
    (∃ after, later.tree.modified (join lead Glue.flashMapName) = .ok after) ∧
      ready.tree.clock < later.tree.clock ∧
      Copied directory (join lead Glue.flashMapName) content ready.tree.clock later.tree := by
  obtain ⟨place, found, made, advanced⟩ := replace_done done
  obtain rfl := eq_placeOf_of_locate copyName_isFileName found
  have stored := stores_replace copyName_isFileName done
  obtain ⟨_, lookedCopied⟩ := stored.evolves.modified_ok looked
  have still := stored.evolves.read readable fun _ found _ => flashMap_apart copyName_mem found
  have here := h.at?_copy_emitted.trans made
  have emitted := h.clock_emitted
  refine ⟨h.evolves_emitted.modified_ok lookedCopied, by omega,
    h.evolves_emitted.read still ?_, ⟨stored.interim, stored.usable, ?_⟩, here⟩
  · rintro place found _ ⟨name, listed, goal⟩
    exact flashMap_apart (List.mem_cons_of_mem _ listed) found goal
  · rw [shape, here]
    simp [Entry.content?]

/-- After a generation the copy stays, or it has been made just now. -/
theorem times (asked : flashMap = some (join lead Glue.flashMapName)) :
    ∃ time copyTime, later.tree.modified (join lead Glue.flashMapName) = .ok time ∧
      later.tree.modified (join directory Glue.flashMapCopyName) = .ok copyTime ∧
      (CopyStays directory (join lead Glue.flashMapName) time copyTime ∨
        desk.tree.clock ≤ copyTime ∧ copyTime < later.tree.clock ∧
          ∃ content, Copied directory (join lead Glue.flashMapName) content copyTime
            later.tree) := by
  obtain ⟨outcome, run⟩ := exists_copyIfNewer (asked ▸ h.copy)
  obtain ⟨time, looked, ⟨_, rfl, copyTime, timed, fresh⟩ | ⟨_, timed, content, readable, done⟩⟩ :=
    copyIfNewer_times run
  · obtain ⟨place, found, _⟩ := bind_ok_iff.1 (modified_eq _ _ ▸ looked)
    -- The files that are written afterwards renew the directory, so its time is another one then.
    by_cases home : place = placeOf directory
    · obtain ⟨after, lookedAfter⟩ := h.evolves_emitted.modified_ok looked
      refine ⟨after, copyTime, lookedAfter, h.modified_copy_emitted timed, .inl (.inr ?_)⟩
      rw [placeOf_join flashMapName_isFileName,
        ← eq_placeOf_of_locate flashMapName_isFileName found, home]
    · exact ⟨time, copyTime, (h.modified_flashMap_emitted found home).trans looked,
        h.modified_copy_emitted timed, .inl (.inl fresh)⟩
  · obtain ⟨⟨after, lookedAfter⟩, advanced, made⟩ := h.copied_of_replace looked readable done
    exact ⟨after, _, lookedAfter, h.modified_copy_emitted timed,
      .inr ⟨h.clock_made, advanced, content, made⟩⟩

end Stages

section Again

variable {time copyTime : Nat}
  (looked : desk.tree.modified (join lead Glue.flashMapName) = .ok time)
  (timed : desk.tree.modified (join directory Glue.flashMapCopyName) = .ok copyTime)

include looked timed

/-- A copy that stays is not made again. -/
theorem CopyStays.copyIfNewer_eq
    (stays : CopyStays directory (join lead Glue.flashMapName) time copyTime)
    (entered : desk.tree.Entered directory (placeOf directory)) :
    ((copyIfNewer (join lead Glue.flashMapName) (join directory Glue.flashMapCopyName) :
      OnTree _) desk).2 = desk := by
  rcases stays with fresh | home
  · rw [(copyIfNewer_unchanged_iff looked timed).2 fresh]
  · obtain ⟨place, found, _⟩ := bind_ok_iff.1 (modified_eq _ _ ▸ looked)
    obtain rfl : place = placeOf directory := by
      rw [eq_placeOf_of_locate flashMapName_isFileName found, ← home,
        placeOf_join flashMapName_isFileName]
    rw [run_copyIfNewer looked, read_of_hasDirectory found entered.hasDirectory]
    split <;> rfl

/-- A copy that is older than the flash map is made again, with the same bytes. -/
theorem Copied.copyIfNewer_at?
    (copied : Copied directory (join lead Glue.flashMapName) content copyTime desk.tree)
    (entered : desk.tree.Entered directory (placeOf directory)) (stale : copyTime < time) :
    ((copyIfNewer (join lead Glue.flashMapName) (join directory Glue.flashMapCopyName) :
      OnTree _) desk).2.tree.at? (placeOf directory ++ [Glue.flashMapCopyName]) =
        some (.file content desk.tree.clock) := by
  obtain ⟨tree, replaced, _⟩ := copied.accepts.replace copyName_isFileName entered content
  obtain ⟨place, found, made, _⟩ := replace_done replaced
  obtain rfl := eq_placeOf_of_locate copyName_isFileName found
  rw [run_copyIfNewer looked, timed, copied.readable, if_pos (by simpa [isStale] using stale)]
  simp only [replaceWith, OnTree.run_bind, OnTree.run_replaceFile, replaced]
  exact made

end Again

/-- Writing the generated files keeps the copy of the flash map. -/
theorem keeps_copy_emitRendering (v : View) (directory : String) (rendering : Rendering)
    (desk : Desk) : Keeps directory Glue.flashMapCopyName desk.tree
      ((emitRendering v directory rendering : OnTree _) desk).2.tree := by
  have emitted {name : String} (listed : name ∈ outputNames)
      (different : Glue.flashMapCopyName ≠ name) (text : String) (desk : Desk) :
      Keeps directory Glue.flashMapCopyName desk.tree
        ((emit (join directory name) text : OnTree _) desk).2.tree :=
    (confined_emit (isFileName_of_mem listed) directory text desk).keeps copyName_isFileName
      different
  rw [emitRendering_eq]
  refine keeps_andThen (emitted headerName_mem (by decide) _ _) fun _ => ?_
  refine keeps_andThen (emitted sourceName_mem (by decide) _ _) fun _ => ?_
  exact .refl directory Glue.flashMapCopyName _

namespace Stages

variable (h : Stages ws config v directory fragments rendering flashMap report desk ready copied
  between later)

include h

/-- All that a further generation does to the copy is to copy the flash map again, perhaps. -/
theorem at?_copy_again (asked : flashMap = some source) {result : Except Error Report}
    {last : Desk}
    (again : (generate ws config v directory fragments : OnTree _) later = (result, last)) :
    ∃ start : Desk, start.tree = later.tree ∧
      last.tree.at? (placeOf directory ++ [Glue.flashMapCopyName]) =
        ((copyIfNewer source (join directory Glue.flashMapCopyName) : OnTree _)
          start).2.tree.at? (placeOf directory ++ [Glue.flashMapCopyName]) := by
  obtain ⟨start, same, run⟩ := h.run_again (prepare_ok_iff.2 ⟨h.rendered, h.asked⟩)
  refine ⟨start, same, ?_⟩
  rw [again, andThen, OnTree.run_bind, asked, run_copyFlashMap] at run
  cases copy : (copyIfNewer source (join directory Glue.flashMapCopyName) : OnTree _) start with
  | mk answer middle =>
      rw [copy] at run
      cases answer with
      | error e => rw [(Prod.mk.inj run).2]
      | ok _ =>
          have kept := keeps_copy_emitRendering v directory rendering middle
          rw [← kept.same]
          exact congrArg (fun ended : Except Error Report × Desk => ended.2.tree.at? _) run

theorem copy_kept {time copyTime : Nat} (asked : flashMap = some (join lead Glue.flashMapName))
    (looked : later.tree.modified (join lead Glue.flashMapName) = .ok time)
    (timed : later.tree.modified (join directory Glue.flashMapCopyName) = .ok copyTime)
    (stays : CopyStays directory (join lead Glue.flashMapName) time copyTime)
    {result : Except Error Report} {last : Desk}
    (again : (generate ws config v directory fragments : OnTree _) later = (result, last)) :
    last.tree.at? (placeOf directory ++ [Glue.flashMapCopyName]) =
      later.tree.at? (placeOf directory ++ [Glue.flashMapCopyName]) := by
  obtain ⟨start, same, copy⟩ := h.at?_copy_again asked again
  have entered := h.entered
  rw [← same] at looked timed entered
  rw [copy, stays.copyIfNewer_eq looked timed entered, same]

theorem copy_renewed {time copyTime : Nat} (asked : flashMap = some (join lead Glue.flashMapName))
    (looked : later.tree.modified (join lead Glue.flashMapName) = .ok time)
    (timed : later.tree.modified (join directory Glue.flashMapCopyName) = .ok copyTime)
    (made : Copied directory (join lead Glue.flashMapName) content copyTime later.tree)
    (stale : copyTime < time) {result : Except Error Report} {last : Desk}
    (again : (generate ws config v directory fragments : OnTree _) later = (result, last)) :
    last.tree.at? (placeOf directory ++ [Glue.flashMapCopyName]) =
      some (.file content later.tree.clock) := by
  obtain ⟨start, same, copy⟩ := h.at?_copy_again asked again
  have entered := h.entered
  rw [← same] at looked timed entered made
  rw [copy, made.copyIfNewer_at? looked timed entered stale, same]

end Stages

/-- When a generation for which the flash map was asked is repeated, its copy stays as it is unless
it is older than the flash map; so it stays if the flash map is not later than the clock was before
the first generation. Otherwise it was made by the first generation and is made again, with the same
bytes at a later time. Only a path to the output directory, which cannot be copied, is no reason. -/
theorem generate_settles
    (asked : flashMapSource config v.subject = .ok (some source))
    (run : (generate ws config v directory fragments : OnTree _) desk = (.ok report, later)) :
    ∃ time copyTime, later.tree.modified source = .ok time ∧
      later.tree.modified (join directory Glue.flashMapCopyName) = .ok copyTime ∧
      ∀ result last,
        (generate ws config v directory fragments : OnTree _) later = (result, last) →
        (time ≤ copyTime ∨ placeOf source = placeOf directory →
          last.tree.at? (placeOf directory ++ [Glue.flashMapCopyName]) =
            later.tree.at? (placeOf directory ++ [Glue.flashMapCopyName])) ∧
        (time ≤ desk.tree.clock →
          last.tree.at? (placeOf directory ++ [Glue.flashMapCopyName]) =
            later.tree.at? (placeOf directory ++ [Glue.flashMapCopyName])) ∧
        (copyTime < time → placeOf source ≠ placeOf directory →
          desk.tree.clock ≤ copyTime ∧ copyTime < later.tree.clock ∧ ∃ content,
            later.tree.at? (placeOf directory ++ [Glue.flashMapCopyName]) =
                some (.file content copyTime) ∧
              last.tree.at? (placeOf directory ++ [Glue.flashMapCopyName]) =
                some (.file content later.tree.clock)) := by
  obtain ⟨rendering, flashMap, ready, copied, between, h⟩ := exists_stages run
  obtain rfl : some source = flashMap := Except.ok.inj (asked.symm.trans h.asked)
  obtain ⟨lead, rfl⟩ := flashMapSource_eq asked
  obtain ⟨time, copyTime, looked, timed, times⟩ := h.times rfl
  refine ⟨time, copyTime, looked, timed, fun result last again => ⟨?_, ?_, ?_⟩⟩
  · exact fun stays => h.copy_kept rfl looked timed stays again
  · intro early
    rcases times with stays | ⟨late, _⟩
    · exact h.copy_kept rfl looked timed stays again
    · exact h.copy_kept rfl looked timed (.inl (Nat.le_trans early late)) again
  · intro stale elsewhere
    rcases times with stays | ⟨late, before, content, made⟩
    · exact absurd stays (not_or.2 ⟨Nat.not_le.2 stale, elsewhere⟩)
    · exact ⟨late, before, content, made.here, h.copy_renewed rfl looked timed made stale again⟩

/-- A tree with a flash map that has some time, when the clock stands at ten. -/
def mapped (time : Nat) : Desk where
  tree :=
    { entries :=
        ⟨[([], .directory 0), (["fv"], .directory 1),
          (["fv", "FlashMap.h"], .file "#define FLASH_BASE".toUTF8 time)]⟩
      clock := 10 }

def mappedRun (desk : Desk) : Except Error Report × Desk :=
  (generate .empty { flashMapDir := some "fv" } mappedLibrary "out" {} : OnTree _) desk

theorem mapped_asked : flashMapSource { flashMapDir := some "fv" } mappedLibrary.subject =
    .ok (some (join "fv" Glue.flashMapName)) := rfl

/-- Unless the flash map is from the future, its copy settles. -/
theorem early_settles : ∃ report later result last,
    mappedRun (mapped 5) = (.ok report, later) ∧ mappedRun later = (result, last) ∧
      last.tree.at? (placeOf "out" ++ [Glue.flashMapCopyName]) =
        later.tree.at? (placeOf "out" ++ [Glue.flashMapCopyName]) := by
  obtain ⟨report, later, run⟩ : ∃ report later, mappedRun (mapped 5) = (.ok report, later) :=
    exists_run_ok (by decide +kernel)
  have looked : (mappedRun (mapped 5)).2.tree.modified (join "fv" Glue.flashMapName) = .ok 5 := by
    decide +kernel
  rw [run] at looked
  obtain ⟨time, _, lookedAgain, _, again⟩ := generate_settles mapped_asked run
  cases looked.symm.trans lookedAgain
  cases second : mappedRun later with
  | mk result last =>
      exact ⟨report, later, result, last, run, second, (again result last second).2.1 (by decide)⟩

/-- A flash map from the future is copied again by a generation that has nothing to do. -/
theorem late_copied_again : ∃ report later again last,
    mappedRun (mapped 5000) = (.ok report, later) ∧ mappedRun later = (.ok again, last) ∧
      again.isUpToDate = true ∧
      last.tree.at? (placeOf "out" ++ [Glue.flashMapCopyName]) ≠
        later.tree.at? (placeOf "out" ++ [Glue.flashMapCopyName]) := by
  obtain ⟨report, later, run⟩ : ∃ report later, mappedRun (mapped 5000) = (.ok report, later) :=
    exists_run_ok (by decide +kernel)
  have looked : (mappedRun (mapped 5000)).2.tree.modified (join "fv" Glue.flashMapName) =
      .ok 5000 := by
    decide +kernel
  have timed : (mappedRun (mapped 5000)).2.tree.modified (join "out" Glue.flashMapCopyName) =
      .ok 11 := by
    decide +kernel
  rw [run] at looked timed
  -- Only the first generation is evaluated; its stages tell what the second one does.
  have elsewhere : placeOf (join "fv" Glue.flashMapName) ≠ placeOf "out" := by decide
  obtain ⟨_, flashMap, _, _, _, h⟩ := exists_stages run
  cases mapped_asked.symm.trans h.asked
  obtain ⟨time, copyTime, lookedAgain, timedAgain, times⟩ := h.times rfl
  cases looked.symm.trans lookedAgain
  cases timed.symm.trans timedAgain
  cases second : mappedRun later with
  | mk result last =>
      rcases h.succeeds_again second with ⟨again, rfl, upToDate⟩ | ⟨source, asked, home, _⟩
      · rcases times with stays | ⟨_, before, content, made⟩
        · exact absurd stays (not_or.2 ⟨by decide, elsewhere⟩)
        · refine ⟨report, later, again, last, run, second, upToDate, ?_⟩
          rw [h.copy_renewed rfl looked timed made (by decide) second, made.here]
          intro same
          exact Nat.ne_of_gt before (Entry.file.inj (Option.some.inj same)).2
      · cases mapped_asked.symm.trans asked
        exact absurd home elsewhere

end Generation

end FirmwareGlue
