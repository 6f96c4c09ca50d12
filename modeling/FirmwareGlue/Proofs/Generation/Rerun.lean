import FirmwareGlue.Proofs.Generation.FlashMap

/-!
# Generating once and again

A generation that succeeds has written what was not there yet, and left alone what was. Besides its
own files and the directories that lead to them, it has changed nothing but times of directories. So
a generation that follows finds its files as they have to be, and leaves them alone; and if only the
fragment of one file is another, it still leaves the other file alone.

What may come between is the flash map. It is copied when its copy is older, and looked at before
anything is read. If its path leads to the output directory itself, of all places, then a copy that
was up to date is not any more, once files have been written into that directory, and the directory
cannot be read as a file.
-/

namespace FirmwareGlue

open Storage Surroundings FileTree

namespace Rendering

variable {ws : Workspace} {config : Config} {v : View} {fragments changed : PcdFragments}
  {rendering other : Rendering}

/-- The header is not rendered to anything else because of the fragment of the source. -/
theorem header_congr (h : ofView ws config v fragments = .ok rendering)
    (again : ofView ws config v changed = .ok other) (same : changed.header = fragments.header) :
    other.header = rendering.header := by
  simp only [ofView, bind_ok_iff] at h again
  obtain ⟨header, made, _, _, ⟨⟩⟩ := h
  obtain ⟨_, made_again, _, _, ⟨⟩⟩ := again
  rw [same, made] at made_again
  exact (Except.ok.inj made_again).symm

theorem source_congr (h : ofView ws config v fragments = .ok rendering)
    (again : ofView ws config v changed = .ok other) (same : changed.source = fragments.source) :
    other.source = rendering.source := by
  simp only [ofView, bind_ok_iff] at h again
  obtain ⟨_, _, source, made, ⟨⟩⟩ := h
  obtain ⟨_, _, _, made_again, ⟨⟩⟩ := again
  rw [same, made] at made_again
  exact (Except.ok.inj made_again).symm

end Rendering

namespace Generation

variable {ws : Workspace} {config : Config} {v : View} {directory name path text source : String}
  {fragments changed : PcdFragments} {rendering : Rendering} {flashMap : Option String}
  {report : Report} {file : OutputFile} {desk later middle : Desk} {s t : FileTree}

/-! ### Once -/

/-- What a step that succeeds says of a file, and what has become of the file. -/
structure Tells (before after : FileTree) (place : Place) (content : ByteArray)
    (outcome : Outcome) : Prop where
  held : after.contentAt place = some content
  unchanged_iff : outcome = .unchanged ↔ before.contentAt place = some content
  written_iff : outcome = .written ↔ before.contentAt place ≠ some content
  kept : outcome = .unchanged → after.at? place = before.at? place

/-- What a step says of a file is true of the whole generation, if the file is not touched before
and after. -/
theorem tells_of_updates {content : ByteArray} {outcome : Outcome} {start ready : FileTree}
    (step : Updates directory name content s t outcome) (grown : Grows start ready)
    (before : s.at? (placeOf directory ++ [name]) = ready.at? (placeOf directory ++ [name]))
    {final : FileTree}
    (after : final.at? (placeOf directory ++ [name]) = t.at? (placeOf directory ++ [name])) :
    Tells start final (placeOf directory ++ [name]) content outcome := by
  have same : s.contentAt (placeOf directory ++ [name]) =
      start.contentAt (placeOf directory ++ [name]) :=
    (contentAt_congr before).trans (grown.contentAt fun _ => id)
  have unchanged_iff := step.unchanged_iff
  rw [same] at unchanged_iff
  refine ⟨(contentAt_congr after).trans step.held, unchanged_iff, ?_, ?_⟩
  · rw [Ne, ← unchanged_iff]
    cases outcome <;> simp
  · rintro rfl
    obtain rfl := step.eq_of_unchanged
    obtain ⟨time, here⟩ := contentAt_eq_some_iff.1 step.held
    have change := grown (placeOf directory ++ [name])
    rw [← before, here] at change
    rw [after, here, change.same_file]

/-- A file that generation may write: the header, the source, or a copy of the flash map. -/
def IsTarget (v : View) (directory : String) (place : Place) : Prop :=
  place = placeOf directory ++ [Glue.headerName] ∨ place = placeOf directory ++ [Glue.sourceName] ∨
    v.subject.flashMap = true ∧ place = placeOf directory ++ [Glue.flashMapCopyName]

/-- The output directory, if a file in it has been written or the flash map may have been. -/
def IsWritten (v : View) (directory : String) (report : Report) (place : Place) : Prop :=
  place = placeOf directory ∧ (report.header.outcome = .written ∨
    report.source.outcome = .written ∨ v.subject.flashMap = true)

namespace Stages

variable {ready copied between : Desk}
  (h : Stages ws config v directory fragments rendering flashMap report desk ready copied between
    later)

include h

theorem grown : Grows desk.tree ready.tree := by
  have made := grows_makeDirectories desk.tree directory
  rwa [h.made] at made

theorem confined_copy : Confined directory Glue.flashMapCopyName ready.tree copied.tree := by
  have confined := confined_copyFlashMap directory flashMap ready
  rwa [h.copy] at confined

theorem updates_header : Updates directory Glue.headerName rendering.header.text.toUTF8
    copied.tree between.tree report.header.outcome :=
  updates_emit (isFileName_of_mem headerName_mem) h.header

theorem updates_source : Updates directory Glue.sourceName rendering.source.text.toUTF8
    between.tree later.tree report.source.outcome :=
  updates_emit (isFileName_of_mem sourceName_mem) h.source

theorem tells_header : Tells desk.tree later.tree (placeOf directory ++ [Glue.headerName])
    rendering.header.text.toUTF8 report.header.outcome :=
  tells_of_updates h.updates_header h.grown (h.confined_copy.at?_other (by decide))
    (h.updates_source.confined.at?_other (by decide))

theorem tells_source : Tells desk.tree later.tree (placeOf directory ++ [Glue.sourceName])
    rendering.source.text.toUTF8 report.source.outcome := by
  refine tells_of_updates h.updates_source h.grown ?_ rfl
  rw [h.updates_header.confined.at?_other (by decide), h.confined_copy.at?_other (by decide)]

theorem spares_copy : Spares (IsTarget v directory) (IsWritten v directory report)
    (partsOf directory) ready.tree copied.tree := by
  have copy := h.copy
  have asked := h.asked
  cases flashMap with
  | none =>
      cases copy
      exact .refl _ _ _ ready.tree
  | some source =>
      have flashMap := flashMap_of_source asked
      rcases copyFlashMap_ok copy with ⟨same, _⟩ | ⟨content, _, stored⟩
      · rw [same]
        exact .refl _ _ _ ready.tree
      · exact stored.spares.mono (fun _ goal => .inr (.inr ⟨flashMap, goal⟩))
          fun _ home => ⟨home, .inr (.inr flashMap)⟩

theorem spares : Spares (IsTarget v directory) (IsWritten v directory report)
    (partsOf directory) desk.tree later.tree := by
  have made : Spares (IsTarget v directory) (IsWritten v directory report) (partsOf directory)
      desk.tree ready.tree := by
    have spares := spares_makeDirectories (IsTarget v directory)
      (IsWritten v directory report) desk.tree directory
    rwa [h.made] at spares
  have header : Spares (IsTarget v directory) (IsWritten v directory report) (partsOf directory)
      copied.tree between.tree :=
    h.updates_header.spares.mono (fun _ => .inl) fun _ ⟨home, wrote⟩ => ⟨home, .inl wrote⟩
  have source : Spares (IsTarget v directory) (IsWritten v directory report) (partsOf directory)
      between.tree later.tree :=
    h.updates_source.spares.mono (fun _ goal => .inr (.inl goal))
      fun _ ⟨home, wrote⟩ => ⟨home, .inr (.inl wrote)⟩
  exact ((made.trans h.spares_copy).trans header).trans source

theorem mapped {lead : String} (asked : flashMap = some (join lead Glue.flashMapName)) :
    Mapped directory (join lead Glue.flashMapName) later.tree := by
  have copied : Mapped directory (join lead Glue.flashMapName) copied.tree := by
    have copy := h.copy
    rw [asked] at copy
    rcases copyFlashMap_ok copy with ⟨same, mapped⟩ | ⟨content, readable, stored⟩
    · rwa [same]
    · exact .of_stores readable stored
  exact (copied.confined h.updates_header.confined headerName_mem (by decide)).confined
    h.updates_source.confined sourceName_mem (by decide)

end Stages

/-! ### And again -/

theorem keeps_andThen {α β : Type} {x : OnTree (Except Error α)}
    {f : α → OnTree (Except Error β)} (step : Keeps directory name desk.tree (x desk).2.tree)
    (rest : ∀ a, Keeps directory name (x desk).2.tree (f a (x desk).2).2.tree) :
    Keeps directory name desk.tree (andThen x f desk).2.tree := by
  rw [andThen, OnTree.run_bind]
  cases result : x desk with
  | mk answer middle =>
      rw [result] at step rest
      cases answer with
      | error e => exact step
      | ok a => exact step.trans (rest a)

/-- A generated file is kept by writing another one, and by writing what it holds. -/
theorem keeps_emit {last : String} (text : String) (fits : IsFileName name)
    (fits_last : IsFileName last)
    (held : name = last → desk.tree.read (join directory name) = .ok text.toUTF8) :
    Keeps directory name desk.tree ((emit (join directory last) text : OnTree _) desk).2.tree := by
  by_cases same : name = last
  · subst same
    obtain ⟨later, tree, run⟩ := emit_held (held rfl)
    rw [run, tree]
    exact .refl directory name desk.tree
  · exact (confined_emit fits_last directory text desk).keeps fits same

/-- Behind the directories, a generated file is kept that holds what the module is rendered to. -/
theorem keeps_emission (listed : name ∈ outputNames) (different : name ≠ Glue.flashMapCopyName)
    (header : name = Glue.headerName →
      desk.tree.read (join directory name) = .ok rendering.header.text.toUTF8)
    (source : name = Glue.sourceName →
      desk.tree.read (join directory name) = .ok rendering.source.text.toUTF8) :
    Keeps directory name desk.tree
      (andThen (copyFlashMap directory flashMap)
        (fun _ => emitRendering v directory rendering) desk).2.tree := by
  have fits := isFileName_of_mem listed
  have copied := (confined_copyFlashMap directory flashMap desk).keeps fits different
  refine keeps_andThen copied fun _ => ?_
  rw [emitRendering_eq]
  have first := keeps_emit rendering.header.text fits (isFileName_of_mem headerName_mem)
    fun same => copied.read _ (header same)
  refine keeps_andThen first fun _ => ?_
  have second := keeps_emit rendering.source.text fits (isFileName_of_mem sourceName_mem)
    fun same => (copied.trans first).read _ (source same)
  exact keeps_andThen second fun _ => .refl directory name _

/-- Where both files hold what the module is rendered to, neither has to be written. -/
theorem emitRendering_held
    (header : desk.tree.read (join directory Glue.headerName) = .ok rendering.header.text.toUTF8)
    (source : desk.tree.read (join directory Glue.sourceName) = .ok rendering.source.text.toUTF8) :
    ∃ again last, again.isUpToDate = true ∧
      (emitRendering v directory rendering : OnTree _) desk = (.ok again, last) := by
  obtain ⟨middle, tree, first⟩ := emit_held header
  rw [← tree] at source
  obtain ⟨last, _, second⟩ := emit_held source
  refine ⟨⟨v.name, v.arch, ⟨join directory Glue.headerName, .unchanged⟩,
    ⟨join directory Glue.sourceName, .unchanged⟩⟩, last, rfl, ?_⟩
  rw [emitRendering_eq]
  simp only [andThen, OnTree.run_bind, first, second, OnTree.run_pure]

namespace Stages

variable {ready copied between : Desk}
  (h : Stages ws config v directory fragments rendering flashMap report desk ready copied between
    later)

include h

theorem header_read :
    later.tree.read (join directory Glue.headerName) = .ok rendering.header.text.toUTF8 :=
  h.delivers.header_path ▸ h.delivers.header

theorem source_read :
    later.tree.read (join directory Glue.sourceName) = .ok rendering.source.text.toUTF8 :=
  h.delivers.source_path ▸ h.delivers.source

theorem entered : later.tree.Entered directory (placeOf directory) := by
  obtain ⟨home, entered, _, _⟩ := entered_of_read (isFileName_of_mem headerName_mem) h.header_read
  exact entered.eq_placeOf ▸ entered

/-- The directory has been made, so that a further generation goes on to the flash map. -/
theorem run_again {other : Rendering}
    (prepared : prepare ws config v changed = .ok (other, flashMap)) :
    ∃ start : Desk, start.tree = later.tree ∧
      (generate ws config v directory changed : OnTree _) later =
        andThen (copyFlashMap directory flashMap) (fun _ => emitRendering v directory other)
          start :=
  run_generate_ready prepared later (makeDirectories_of_entered h.usable h.entered)

/-- A further generation keeps a file whose fragment is the same, whatever becomes of it. -/
theorem keeps_again (changed : PcdFragments) (listed : name ∈ outputNames)
    (different : name ≠ Glue.flashMapCopyName)
    (header : name = Glue.headerName → changed.header = fragments.header)
    (source : name = Glue.sourceName → changed.source = fragments.source) :
    Keeps directory name later.tree
      ((generate ws config v directory changed : OnTree _) later).2.tree := by
  cases prepared : prepare ws config v changed with
  | error e =>
      obtain ⟨last, same, run⟩ : ∃ last : Desk, last.tree = later.tree ∧
          (generate ws config v directory changed : OnTree _) later = (.error e, last) :=
        run_generate_unprepared prepared later
      rw [run, same]
      exact .refl directory name later.tree
  | ok work =>
      obtain ⟨other, otherMap⟩ := work
      obtain ⟨rendered, asked⟩ := prepare_ok_iff.1 prepared
      cases h.asked.symm.trans asked
      obtain ⟨start, same, run⟩ := h.run_again prepared
      rw [run, ← same]
      refine keeps_emission listed different ?_ ?_
      · rintro rfl
        rw [same, Rendering.header_congr h.rendered rendered (header rfl)]
        exact h.header_read
      · rintro rfl
        rw [same, Rendering.source_congr h.rendered rendered (source rfl)]
        exact h.source_read

/-- The same generation succeeds again, unless the path of the flash map leads to the output
directory. -/
theorem succeeds_again {result : Except Error Report} {last : Desk}
    (again : (generate ws config v directory fragments : OnTree _) later = (result, last)) :
    (∃ second, result = .ok second ∧ second.isUpToDate = true) ∨ ∃ source,
      flashMapSource config v.subject = .ok (some source) ∧ placeOf source = placeOf directory ∧
        result = .error (.readFailed source .isADirectory) := by
  obtain ⟨start, same, run⟩ := h.run_again (prepare_ok_iff.2 ⟨h.rendered, h.asked⟩)
  have copies : (∃ middle, (copyFlashMap directory flashMap : OnTree _) start = (.ok (), middle)) ∨
      ∃ source, flashMapSource config v.subject = .ok (some source) ∧
        placeOf source = placeOf directory ∧
        (copyFlashMap directory flashMap : OnTree _) start =
          (.error (.readFailed source .isADirectory), start) := by
    cases flashMap with
    | none => exact .inl ⟨start, rfl⟩
    | some source =>
        obtain ⟨lead, rfl⟩ := flashMapSource_eq h.asked
        have mapped := h.mapped rfl
        rw [← same] at mapped
        refine (mapped.copy_again (same ▸ h.entered)).imp_right ?_
        rintro ⟨place, failed⟩
        exact ⟨_, h.asked, place, failed⟩
  rw [again] at run
  rcases copies with ⟨middle, copy⟩ | ⟨source, asked, place, failed⟩
  · left
    have confined := confined_copyFlashMap directory flashMap start
    rw [copy, same] at confined
    obtain ⟨second, after, upToDate, done⟩ := emitRendering_held (v := v)
      (confined.read_other (isFileName_of_mem headerName_mem) (by decide) h.header_read)
      (confined.read_other (isFileName_of_mem sourceName_mem) (by decide) h.source_read)
    simp only [andThen, OnTree.run_bind, copy, done] at run
    exact ⟨second, (Prod.mk.inj run).1, upToDate⟩
  · right
    simp only [andThen, OnTree.run_bind, failed, OnTree.run_pure] at run
    exact ⟨source, asked, place, (Prod.mk.inj run).1⟩

end Stages

/-- A generation that succeeds has rendered the module, and its two files hold the texts. A file is
reported as unchanged exactly if it held its text before, and then has its time still; otherwise as
written. Besides these files and, if one is asked for, the copy of the flash map, no file changes;
new are only directories on the way to the output directory; and a directory has another time only
if something new is in it or, in the case of the output directory, if a file in it may have been
written.

A further generation leaves a file alone, with its time, whose fragment is the same, and reports it
as unchanged if it succeeds. With both fragments the same it does succeed and is up to date; only
where the path of the flash map leads to the output directory, it may fail to read it as a file. -/
theorem generate_again
    (run : (generate ws config v directory fragments : OnTree _) desk = (.ok report, later)) :
    ∃ rendering, Rendering.ofView ws config v fragments = .ok rendering ∧
      Delivers directory rendering report later.tree ∧
      Tells desk.tree later.tree (placeOf directory ++ [Glue.headerName])
        rendering.header.text.toUTF8 report.header.outcome ∧
      Tells desk.tree later.tree (placeOf directory ++ [Glue.sourceName])
        rendering.source.text.toUTF8 report.source.outcome ∧
      Spares (IsTarget v directory) (IsWritten v directory report) (partsOf directory) desk.tree
        later.tree ∧
      ∀ changed result last,
        (generate ws config v directory changed : OnTree _) later = (result, last) →
        (changed.header = fragments.header →
          last.tree.at? (placeOf directory ++ [Glue.headerName]) =
              later.tree.at? (placeOf directory ++ [Glue.headerName]) ∧
            ∀ again, result = .ok again → again.header.outcome = .unchanged) ∧
        (changed.source = fragments.source →
          last.tree.at? (placeOf directory ++ [Glue.sourceName]) =
              later.tree.at? (placeOf directory ++ [Glue.sourceName]) ∧
            ∀ again, result = .ok again → again.source.outcome = .unchanged) ∧
        (changed = fragments →
          (∃ again, result = .ok again ∧ again.isUpToDate = true) ∨
            ∃ source, flashMapSource config v.subject = .ok (some source) ∧
              placeOf source = placeOf directory ∧
              result = .error (.readFailed source .isADirectory)) := by
  obtain ⟨rendering, flashMap, ready, copied, between, h⟩ := exists_stages run
  refine ⟨rendering, h.rendered, h.delivers, h.tells_header, h.tells_source, h.spares, ?_⟩
  intro changed result last again
  refine ⟨fun same => ⟨?_, ?_⟩, fun same => ⟨?_, ?_⟩, ?_⟩
  · have keeps := h.keeps_again changed headerName_mem (by decide) (fun _ => same)
      fun other => absurd other (by decide)
    rw [again] at keeps
    exact keeps.same
  · rintro second rfl
    obtain ⟨other, _, _, _, _, h_again⟩ := exists_stages again
    rw [h_again.tells_header.unchanged_iff, Rendering.header_congr h.rendered h_again.rendered same]
    exact h.tells_header.held
  · have keeps := h.keeps_again changed sourceName_mem (by decide)
      (fun other => absurd other (by decide)) fun _ => same
    rw [again] at keeps
    exact keeps.same
  · rintro second rfl
    obtain ⟨other, _, _, _, _, h_again⟩ := exists_stages again
    rw [h_again.tells_source.unchanged_iff, Rendering.source_congr h.rendered h_again.rendered same]
    exact h.tells_source.held
  · rintro rfl
    exact h.succeeds_again again

/-- A library instance that asks for nothing is generated where nothing is yet, and is then up to
date. -/
theorem plain_again : ∃ report later again last,
    (generate .empty {} ⟨plainLibrary, .x64⟩ "out" {} : OnTree _) ⟨.empty 0, []⟩ =
      (.ok report, later) ∧
    (generate .empty {} ⟨plainLibrary, .x64⟩ "out" {} : OnTree _) later = (.ok again, last) ∧
    again.isUpToDate = true := by
  obtain ⟨report, later, run⟩ : ∃ report later,
      (generate .empty {} ⟨plainLibrary, .x64⟩ "out" {} : OnTree _) ⟨.empty 0, []⟩ =
        (.ok report, later) := exists_run_ok (by decide +kernel)
  obtain ⟨_, _, _, _, _, _, further⟩ := generate_again run
  cases again : (generate .empty {} ⟨plainLibrary, .x64⟩ "out" {} : OnTree _) later with
  | mk result last =>
      rcases (further {} result last again).2.2 rfl with ⟨second, rfl, upToDate⟩ | ⟨_, asked, _⟩
      · exact ⟨report, later, second, last, run, again, upToDate⟩
      · cases asked

/-- A library instance that asks for the flash map. -/
def mappedLibrary : View :=
  ⟨{ plainLibrary with flashMap := true }, .x64⟩

/-- A tree in which the path of the flash map leads to a directory, with a newer copy inside. -/
def selfMapped : Desk where
  tree :=
    { entries :=
        ⟨[([], .directory 0), (["out"], .directory 1), (["out", "FlashMap.h"], .directory 500),
          (["out", "FlashMap.h", "TianoR8FlashMap.h"], .file .empty 1000)]⟩
      clock := 2000 }

/-- Generating into the directory that the path of the flash map leads to. -/
def selfMappedRun (desk : Desk) : Except Error Report × Desk :=
  (generate .empty { flashMapDir := some "out" } mappedLibrary "out/FlashMap.h" {} : OnTree _) desk

/-- The first time all is well but the time of the directory changes, and so the second time the
directory is taken for a flash map that has changed. -/
theorem selfMapped_fails_again :
    (∃ report, (selfMappedRun selfMapped).1 = .ok report) ∧
      selfMapped.tree.modified "out/FlashMap.h" = .ok 500 ∧
      (selfMappedRun selfMapped).2.tree.modified "out/FlashMap.h" ≠ .ok 500 ∧
      (selfMappedRun (selfMappedRun selfMapped).2).1 =
        .error (.readFailed "out/FlashMap.h" .isADirectory) := by
  refine ⟨exists_ok_iff_isSome.2 ?_, ?_, ?_, ?_⟩ <;> decide +kernel

end Generation

end FirmwareGlue
