import FirmwareGlue.Proofs.Generation.Failure
import FirmwareGlue.Proofs.Generation.Layout
import FirmwareGlue.Proofs.Generation.Step

/-!
# What a success leaves behind

A generation that succeeds names two files, and these hold what the module is rendered to, whatever
they held before. A file that is left alone has been found to hold just that; the header stays what
it is while the source is written, since it has another name.
-/

namespace FirmwareGlue

open Storage Surroundings FileTree

namespace Generation

variable {path text : String} {content : ByteArray} {said : String} {desk later : Desk}

theorem read_replaceWith {outcome : Outcome}
    (run : (replaceWith path content said : OnTree _) desk = (.ok outcome, later)) :
    later.tree.read path = .ok content := by
  obtain ⟨_, replaced⟩ := replaceWith_ok run
  have holds := read_replace (congrArg Prod.fst replaced)
  rwa [replaced] at holds

/-- A file that has been written, or found to be up to date, holds the content. -/
theorem read_writeIfChanged {outcome : Outcome}
    (run : (writeIfChanged path content : OnTree _) desk = (.ok outcome, later)) :
    later.tree.read path = .ok content := by
  rcases writeIfChanged_cases path content desk with
    ⟨held, _, same, run'⟩ | ⟨_, run'⟩ | ⟨_, fault, run'⟩
  · rw [run'] at run
    cases run
    rwa [same]
  · rw [run'] at run
    exact read_replaceWith run
  · rw [run'] at run
    cases run

theorem read_emit {file : OutputFile}
    (run : (emit path text : OnTree _) desk = (.ok file, later)) :
    file.path = path ∧ later.tree.read path = .ok text.toUTF8 := by
  obtain ⟨named, middle, same, written⟩ := emit_ok run
  rw [same]
  exact ⟨named, read_writeIfChanged written⟩

/-- The files of a report are those of a directory, and hold a rendering. -/
structure Delivers (directory : String) (rendering : Rendering) (report : Report) (t : FileTree) :
    Prop where
  header_path : report.header.path = join directory Glue.headerName
  source_path : report.source.path = join directory Glue.sourceName
  header : t.read report.header.path = .ok rendering.header.text.toUTF8
  source : t.read report.source.path = .ok rendering.source.text.toUTF8

/-- Work whose steps go on only after a success has succeeded in each of them. -/
theorem andThen_ok {ε α β : Type} {x : OnTree (Except ε α)} {f : α → OnTree (Except ε β)} {b : β}
    (run : andThen x f desk = (.ok b, later)) :
    ∃ a middle, x desk = (.ok a, middle) ∧ f a middle = (.ok b, later) := by
  rw [andThen, OnTree.run_bind] at run
  cases first : x desk with
  | mk answer middle =>
      rw [first] at run
      cases answer with
      | error e => cases run
      | ok a => exact ⟨a, middle, rfl, run⟩

/-- That a run succeeds can be evaluated. -/
theorem exists_run_ok {ε α : Type} {x : OnTree (Except ε α)}
    (fine : (x desk).1.toOption.isSome = true) : ∃ a later, x desk = (.ok a, later) := by
  obtain ⟨a, done⟩ := exists_ok_iff_isSome.2 fine
  exact ⟨a, (x desk).2, Prod.ext done rfl⟩

section Stages

variable {ws : Workspace} {config : Config} {v : View} {directory : String}
  {fragments : PcdFragments} {rendering : Rendering} {flashMap : Option String} {report : Report}

/-- A generation that succeeds makes its directory, copies the flash map if it has to, and then
writes its files. -/
structure Stages (ws : Workspace) (config : Config) (v : View) (directory : String)
    (fragments : PcdFragments) (rendering : Rendering) (flashMap : Option String)
    (report : Report) (desk ready copied between later : Desk) : Prop where
  rendered : Rendering.ofView ws config v fragments = .ok rendering
  asked : flashMapSource config v.subject = .ok flashMap
  made : desk.tree.makeDirectories directory = (.ok (), ready.tree)
  copy : (copyFlashMap directory flashMap : OnTree _) ready = (.ok (), copied)
  header : (emit (join directory Glue.headerName) rendering.header.text : OnTree _) copied =
    (.ok report.header, between)
  source : (emit (join directory Glue.sourceName) rendering.source.text : OnTree _) between =
    (.ok report.source, later)

theorem exists_stages
    (run : (generate ws config v directory fragments : OnTree _) desk = (.ok report, later)) :
    ∃ rendering flashMap ready copied between,
      Stages ws config v directory fragments rendering flashMap report desk ready copied between
        later := by
  cases prepared : prepare ws config v fragments with
  | error e =>
      obtain ⟨last, _, failed⟩ := run_generate_unprepared prepared desk
      rw [failed] at run
      cases run
  | ok work =>
      obtain ⟨rendering, flashMap⟩ := work
      obtain ⟨rendered, asked⟩ := prepare_ok_iff.1 prepared
      cases made : desk.tree.makeDirectories directory with
      | mk answer tree =>
          cases answer with
          | error fault =>
              obtain ⟨last, _, failed⟩ := run_generate_blocked prepared desk made
              rw [failed] at run
              cases run
          | ok _ =>
              obtain ⟨ready, rfl, goesOn⟩ := run_generate_ready prepared desk made
              rw [goesOn] at run
              obtain ⟨_, copied, copy, run⟩ := andThen_ok run
              rw [emitRendering_eq] at run
              obtain ⟨header, between, first, run⟩ := andThen_ok run
              obtain ⟨source, last, second, run⟩ := andThen_ok run
              cases run
              exact ⟨_, _, ready, copied, between, rendered, asked, made, copy, first, second⟩

theorem Stages.delivers {ready copied between : Desk}
    (h : Stages ws config v directory fragments rendering flashMap report desk ready copied between
      later) : Delivers directory rendering report later.tree := by
  obtain ⟨header_path, header_holds⟩ := read_emit h.header
  obtain ⟨source_path, source_holds⟩ := read_emit h.source
  have confined := confined_emit (isFileName_of_mem sourceName_mem) directory
    rendering.source.text between
  rw [h.source] at confined
  refine ⟨header_path, source_path, ?_, source_path ▸ source_holds⟩
  rw [header_path]
  exact confined.read_other (isFileName_of_mem headerName_mem) (by decide) header_holds

theorem Stages.usable {ready copied between : Desk}
    (h : Stages ws config v directory fragments rendering flashMap report desk ready copied between
      later) : unusable? directory = none := by
  have made := h.made
  unfold FileTree.makeDirectories at made
  split at made
  next => cases made
  next usable => exact usable

/-- A generation that succeeds has rendered the module, and the files that it names hold what the
module is rendered to. -/
theorem generate_delivers
    (run : (generate ws config v directory fragments : OnTree _) desk = (.ok report, later)) :
    ∃ rendering flashMap, prepare ws config v fragments = .ok (rendering, flashMap) ∧
      Delivers directory rendering report later.tree := by
  obtain ⟨rendering, flashMap, _, _, _, stages⟩ := exists_stages run
  exact ⟨rendering, flashMap, prepare_ok_iff.2 ⟨stages.rendered, stages.asked⟩, stages.delivers⟩

end Stages

/-! ### When a generation succeeds -/

section Succeeds

variable {directory name : String} {home : Place}

variable (fits : IsFileName name) (entered : desk.tree.Entered directory home)
  (accepts : desk.tree.Accepts directory home name)

include fits entered accepts

theorem replaceWith_succeeds (content : ByteArray) (said : String) :
    ∃ later, (replaceWith (join directory name) content said : OnTree _) desk =
      (.ok .written, later) ∧ Rewrites directory home name desk.tree later.tree := by
  obtain ⟨tree, replaced, rewrites⟩ := accepts.replace fits entered content
  simp only [replaceWith, OnTree.run_bind, OnTree.run_replaceFile, replaced]
  exact ⟨_, rfl, rewrites⟩

theorem writeIfChanged_succeeds (content : ByteArray) :
    ∃ outcome later, (writeIfChanged (join directory name) content : OnTree _) desk =
      (.ok outcome, later) ∧ Rewrites directory home name desk.tree later.tree := by
  have replaced := replaceWith_succeeds fits entered accepts content
    ("wrote " ++ join directory name)
  have found : desk.tree.read (join directory name) =
      readShape (desk.tree.shape (home ++ [name])) := by
    rw [read_eq, locate_join fits entered accepts.usable]
    rfl
  simp only [writeIfChanged, OnTree.run_bind, OnTree.run_contentOf, found]
  cases here : desk.tree.shape (home ++ [name]) with
  | none =>
      obtain ⟨later, run, rewrites⟩ := replaced
      exact ⟨_, later, run, rewrites⟩
  | some entry =>
      cases entry with
      | none => exact absurd here accepts.free
      | some existing =>
          simp only [readShape]
          by_cases same : existing.data = content.data
          · simp only [if_pos same, OnTree.run_bind, OnTree.run_record, OnTree.run_pure]
            exact ⟨_, _, rfl, entered, fun _ _ => rfl⟩
          · simp only [if_neg same]
            obtain ⟨later, run, rewrites⟩ := replaced
            exact ⟨_, later, run, rewrites⟩

theorem emit_succeeds (text : String) :
    ∃ file later, (emit (join directory name) text : OnTree _) desk = (.ok file, later) ∧
      Rewrites directory home name desk.tree later.tree := by
  obtain ⟨outcome, middle, run, rewrites⟩ :=
    writeIfChanged_succeeds fits entered accepts text.toUTF8
  simp only [emit, OnTree.run_bind, run]
  cases outcome with
  | written => exact ⟨_, _, rfl, rewrites⟩
  | unchanged => exact ⟨_, _, rfl, rewrites⟩

end Succeeds

/-- A module that can be rendered and asks for no flash map is generated, if the directory can be
made and nothing refuses the two files. -/
theorem generate_succeeds {ws : Workspace} {config : Config} {v : View} {directory : String}
    {fragments : PcdFragments} {rendering : Rendering} {tree : FileTree} {home : Place}
    (prepared : prepare ws config v fragments = .ok (rendering, none))
    (made : desk.tree.makeDirectories directory = (.ok (), tree))
    (entered : tree.Entered directory home)
    (accepts : ∀ name ∈ [Glue.headerName, Glue.sourceName], tree.Accepts directory home name) :
    ∃ report later, (generate ws config v directory fragments : OnTree _) desk =
      (.ok report, later) := by
  obtain ⟨middle, rfl, run⟩ := run_generate_ready prepared desk made
  obtain ⟨header, between, first, rewrites⟩ := emit_succeeds (isFileName_of_mem headerName_mem)
    entered (accepts _ (by simp)) rendering.header.text
  have accepts_source := rewrites.accepts (by decide) (accepts Glue.sourceName (by simp))
  obtain ⟨source, last, second, _⟩ := emit_succeeds (isFileName_of_mem sourceName_mem)
    rewrites.entered accepts_source rendering.source.text
  refine ⟨⟨v.name, v.arch, header, source⟩, last, ?_⟩
  rw [run, emitRendering_eq]
  simp only [andThen, copyFlashMap, OnTree.run_bind, OnTree.run_pure, first, second]

/-- A directory that one module has been generated into takes another one as well, and without an
error: its files hold what the second is rendered to, and the report on the first names them too. -/
theorem generate_over {ws : Workspace} {config : Config} {v other : View} {directory : String}
    {fragments : PcdFragments} {report : Report} {rendering : Rendering}
    (run : (generate ws config v directory fragments : OnTree _) desk = (.ok report, later))
    (prepared : prepare ws config other fragments = .ok (rendering, none))
    (usable : ∀ name ∈ [Glue.headerName, Glue.sourceName],
      unusable? (join rootPath (interimPath (join directory name))) = none) :
    ∃ second last, (generate ws config other directory fragments : OnTree _) later =
        (.ok second, last) ∧
      Delivers directory rendering second last.tree ∧
      report.header.path = second.header.path ∧ report.source.path = second.source.path := by
  obtain ⟨_, _, _, _, _, stages⟩ := exists_stages run
  have delivers := stages.delivers
  have header_read := delivers.header
  have source_read := delivers.source
  rw [delivers.header_path] at header_read
  rw [delivers.source_path] at source_read
  obtain ⟨home, entered, header_usable, header⟩ :=
    entered_of_read (isFileName_of_mem headerName_mem) header_read
  obtain ⟨same, entered_again, source_usable, source⟩ :=
    entered_of_read (isFileName_of_mem sourceName_mem) source_read
  obtain rfl : home = same := entered.eq_placeOf.trans entered_again.eq_placeOf.symm
  have made := makeDirectories_of_entered stages.usable entered
  have accepts : ∀ name ∈ [Glue.headerName, Glue.sourceName],
      later.tree.Accepts directory home name := by
    intro name listed
    have interim := usable name listed
    simp only [List.mem_cons, List.not_mem_nil, or_false] at listed
    rcases listed with rfl | rfl
    · exact ⟨interim, header_usable, by simp [header]⟩
    · exact ⟨interim, source_usable, by simp [source]⟩
  obtain ⟨second, last, again⟩ := generate_succeeds prepared made entered accepts
  obtain ⟨_, _, prepared_again, delivers_again⟩ := generate_delivers again
  cases prepared.symm.trans prepared_again
  exact ⟨second, last, again, delivers_again,
    delivers.header_path.trans delivers_again.header_path.symm,
    delivers.source_path.trans delivers_again.source_path.symm⟩

end Generation

end FirmwareGlue
