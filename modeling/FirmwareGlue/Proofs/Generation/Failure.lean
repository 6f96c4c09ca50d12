import FirmwareGlue.Proofs.Generation.Step

/-!
# What a failure leaves behind

Generation renders a module before it touches the file tree, and then makes the output directory,
copies the flash map, writes the header and writes the source, in this order. Each of these steps
either does all it should, or fails and leaves no new content. So a module that cannot be rendered
leaves the tree as it was. A failure later on leaves what the steps before it did: directories, and
a whole copy and a whole header, but never a part of a file, and never a source.
-/

namespace FirmwareGlue

open Storage Surroundings

namespace Storage

open FileTree

variable {ε α : Type} {s t u : FileTree} {path : String} {content : ByteArray → Prop}

/-- A file that has been written to a path is still what the path leads to later on. -/
theorem FileTree.Evolves.lasting {allowed : Place → ByteArray → Prop}
    (h : Evolves (fun place c => content c ∧ t.destination path = .ok place) s t)
    (later : Evolves allowed t u) :
    Evolves (fun place c => content c ∧ u.destination path = .ok place) s t := by
  intro place
  refine (h place).strengthen ?_
  rintro c time here ⟨fine, reached⟩
  exact ⟨fine, later.destination reached here⟩

/-- Work that is to write one file does so, or fails and writes nothing. -/
structure Emits (content : ByteArray → Prop) (path : String) (before : FileTree)
    (result : Except ε α × Desk) : Prop where
  evolves : Evolves (fun place c => content c ∧ result.2.tree.destination path = .ok place) before
    result.2.tree
  fails : ∀ e, result.1 = .error e → Grows before result.2.tree

theorem Emits.idle (answer : Except ε α) {before : FileTree} {desk : Desk}
    (same : desk.tree = before) : Emits content path before (answer, desk) := by
  subst same
  exact ⟨.refl _ _, fun _ _ => .refl _ _⟩

/-- What is made of the answer, and what is recorded, does not count. -/
theorem Emits.map {β : Type} {before : FileTree} {result : Except ε α × Desk}
    (h : Emits content path before result) (g : α → β) (records : List Record) :
    Emits content path before (result.1.map g, { result.2 with records }) where
  evolves := h.evolves
  fails e failed := by
    cases answer : result.1 with
    | error fault => exact h.fails fault answer
    | ok a =>
        rw [answer] at failed
        cases failed

theorem emits_replaceWith {bytes : ByteArray} (fine : content bytes) (said : String) (desk : Desk) :
    Emits content path desk.tree ((replaceWith path bytes said : OnTree _) desk) := by
  have evolved := evolves_replace bytes desk.tree path
  simp only [replaceWith, OnTree.run_bind, OnTree.run_replaceFile]
  cases replaced : desk.tree.replace path bytes with
  | mk answer tree =>
      rw [replaced] at evolved
      cases answer with
      | error fault =>
          have grown : Grows desk.tree tree := evolved.mono (by simp)
          exact ⟨grown.evolves, fun _ _ => grown⟩
      | ok _ =>
          constructor
          · refine evolved.mono ?_
            rintro place _ ⟨_, reached, rfl⟩
            exact ⟨fine, reached⟩
          · intro e failed
            cases failed

theorem emits_writeIfChanged (path : String) (bytes : ByteArray) (desk : Desk) :
    Emits (· = bytes) path desk.tree ((writeIfChanged path bytes : OnTree _) desk) := by
  rcases writeIfChanged_cases path bytes desk with
    ⟨_, later, same, run⟩ | ⟨_, run⟩ | ⟨_, fault, run⟩
  · rw [run]
    exact .idle _ same
  · rw [run]
    exact emits_replaceWith (by rfl) _ desk
  · rw [run]
    exact .idle _ rfl

theorem emits_copyIfNewer (source copy : String) (desk : Desk) :
    Emits (fun bytes => desk.tree.read source = .ok bytes) copy desk.tree
      ((copyIfNewer source copy : OnTree _) desk) := by
  cases looked : desk.tree.modified source with
  | error fault =>
      obtain ⟨e, run⟩ := copyIfNewer_lost looked
      rw [run]
      exact .idle _ rfl
  | ok time =>
      rw [run_copyIfNewer looked]
      cases isStale time (desk.tree.modified copy) with
      | false => exact .idle _ rfl
      | true =>
          cases readable : desk.tree.read source with
          | error fault => exact .idle _ rfl
          | ok bytes =>
              simp only [if_true]
              exact emits_replaceWith (by rfl) _ desk

end Storage

namespace Generation

open FileTree

theorem emits_emit (path text : String) (desk : Desk) :
    Emits (· = text.toUTF8) path desk.tree ((emit path text : OnTree _) desk) := by
  obtain ⟨records, emitted⟩ := run_emit path text desk
  rw [emitted]
  exact (emits_writeIfChanged path text.toUTF8 desk).map _ records

theorem emits_copyFlashMap (directory source : String) (desk : Desk) :
    Emits (fun bytes => desk.tree.read source = .ok bytes) (join directory Glue.flashMapCopyName)
      desk.tree ((copyFlashMap directory (some source) : OnTree _) desk) := by
  rw [run_copyFlashMap]
  exact (emits_copyIfNewer source (join directory Glue.flashMapCopyName) desk).map _ _

/-- Work that goes on only if a step succeeds. -/
def andThen {ε α β : Type} (x : OnTree (Except ε α)) (f : α → OnTree (Except ε β)) :
    OnTree (Except ε β) := do
  match ← x with
  | .error e => return .error e
  | .ok a => f a

theorem bind_eq_andThen {ε α β : Type} (x : OnTree (Except ε α))
    {f : Except ε α → OnTree (Except ε β)} {g : α → OnTree (Except ε β)}
    (stops : ∀ e, f (.error e) = pure (.error e)) (goesOn : ∀ a, f (.ok a) = g a) :
    x >>= f = andThen x g := by
  unfold andThen
  refine congrArg (bind x) (funext fun answer => ?_)
  cases answer with
  | error e => exact stops e
  | ok a => exact goesOn a

/-- What may be left, in the tree after it, by work that fails. -/
def Leaves {ε α : Type} (allowed : FileTree → Place → ByteArray → Prop) (before : FileTree)
    (result : Except ε α × Desk) : Prop :=
  ∀ e, result.1 = .error e → Evolves (allowed result.2.tree) before result.2.tree

section Steps

variable {ε α β : Type} {content : ByteArray → Prop} {path : String}
  {allowed : FileTree → Place → ByteArray → Prop} {x : OnTree (Except ε α)} {desk : Desk}

/-- Where a step writes one file and work goes on if it does so, a failure leaves nothing if it is
that of the step, and else the file and what the later work leaves. -/
theorem leaves_step {f : α → OnTree (Except ε β)} (step : Emits content path desk.tree (x desk))
    (later : ∀ a middle, Leaves allowed middle.tree (f a middle)) :
    Leaves (fun after place c =>
        (content c ∧ after.destination path = .ok place) ∨ allowed after place c)
      desk.tree (andThen x f desk) := by
  rw [andThen, OnTree.run_bind]
  cases result : x desk with
  | mk answer middle =>
      rw [result] at step
      intro e failed
      cases answer with
      | error e => exact (step.fails e rfl).evolves
      | ok a =>
          have rest := later a middle e failed
          refine ((step.evolves.lasting rest).mono ?_).trans (rest.mono ?_)
          · exact fun place c => .inl
          · exact fun place c => .inr

/-- A last step that fails leaves nothing. -/
theorem leaves_last {g : α → β} (step : Emits content path desk.tree (x desk)) :
    Leaves (fun _ _ _ => False) desk.tree
      (andThen x (fun a => (pure (.ok (g a)) : OnTree (Except ε β))) desk) := by
  rw [andThen, OnTree.run_bind]
  cases result : x desk with
  | mk answer middle =>
      rw [result] at step
      intro e failed
      cases answer with
      | error e => exact step.fails e rfl
      | ok a => cases failed

end Steps

theorem emitRendering_eq (v : View) (directory : String) (rendering : Rendering) :
    emitRendering v directory rendering =
      andThen (emit (join directory Glue.headerName) rendering.header.text) fun header =>
        andThen (emit (join directory Glue.sourceName) rendering.source.text) fun source =>
          pure (.ok ⟨v.name, v.arch, header, source⟩) := by
  refine bind_eq_andThen _ (fun _ => rfl) fun header => ?_
  exact bind_eq_andThen _ (fun _ => rfl) fun _ => rfl

/-- A place holds what was to be written to a path. -/
def Holds (directory name : String) (content : ByteArray) (after : FileTree) (place : Place)
    (c : ByteArray) : Prop :=
  c = content ∧ after.destination (join directory name) = .ok place

/-- A failure to write the generated files leaves a whole header at most. -/
theorem leaves_emitRendering (v : View) (directory : String) (rendering : Rendering) (desk : Desk) :
    Leaves (Holds directory Glue.headerName rendering.header.text.toUTF8) desk.tree
      ((emitRendering v directory rendering : OnTree _) desk) := by
  have left := leaves_step (emits_emit (join directory Glue.headerName) rendering.header.text desk)
    fun header middle =>
      leaves_last (g := fun source => (⟨v.name, v.arch, header, source⟩ : Report))
        (emits_emit (join directory Glue.sourceName) rendering.source.text middle)
  rw [← emitRendering_eq] at left
  intro e failed
  refine (left e failed).mono ?_
  rintro place c (whole | never)
  · exact whole
  · exact never.elim

/-- What a failing generation may leave in a file: the flash map in its copy, or the header. -/
def Leftover (directory : String) (rendering : Rendering) (flashMap : Option String)
    (ready after : FileTree) (place : Place) (c : ByteArray) : Prop :=
  Holds directory Glue.headerName rendering.header.text.toUTF8 after place c ∨
    ∃ source content, flashMap = some source ∧ ready.read source = .ok content ∧
      Holds directory Glue.flashMapCopyName content after place c

/-- Behind the directories, a failure leaves a whole copy and a whole header at most. -/
theorem leaves_emission (v : View) (directory : String) (rendering : Rendering)
    (flashMap : Option String) (desk : Desk) :
    Leaves (Leftover directory rendering flashMap desk.tree) desk.tree
      (andThen (copyFlashMap directory flashMap)
        (fun _ => emitRendering v directory rendering) desk) := by
  cases flashMap with
  | none =>
      intro e failed
      refine (leaves_emitRendering v directory rendering desk e failed).mono ?_
      exact fun place c => .inl
  | some source =>
      have left := leaves_step (emits_copyFlashMap directory source desk)
        fun _ middle => leaves_emitRendering v directory rendering middle
      intro e failed
      refine (left e failed).mono ?_
      rintro place c (⟨read, reached⟩ | header)
      · exact .inr ⟨source, c, rfl, read, rfl, reached⟩
      · exact .inl header

variable {ws : Workspace} {config : Config} {v : View} {directory : String}
  {fragments : PcdFragments} {rendering : Rendering} {flashMap : Option String} {e : Error}

theorem run_generate_unprepared (refused : prepare ws config v fragments = .error e) (desk : Desk) :
    ∃ later : Desk, later.tree = desk.tree ∧
      (generate ws config v directory fragments : OnTree _) desk = (.error e, later) := by
  refine ⟨_, OnTree.tree_recordAll (Rendering.records ws config v) desk, ?_⟩
  simp only [generate, OnTree.run_bind, refused]
  rfl

theorem run_generate_blocked {fault : Fault} {tree : FileTree}
    (prepared : prepare ws config v fragments = .ok (rendering, flashMap)) (desk : Desk)
    (blocked : desk.tree.makeDirectories directory = (.error fault, tree)) :
    ∃ later : Desk, later.tree = tree ∧ (generate ws config v directory fragments : OnTree _) desk =
      (.error (.writeFailed directory fault), later) := by
  refine ⟨{ ((recordAll (Rendering.records ws config v) : OnTree Unit) desk).2 with tree }, rfl, ?_⟩
  simp only [generate, OnTree.run_bind, prepared, OnTree.run_makeDirectories,
    OnTree.tree_recordAll, blocked]
  rfl

theorem run_generate_ready {tree : FileTree}
    (prepared : prepare ws config v fragments = .ok (rendering, flashMap)) (desk : Desk)
    (ready : desk.tree.makeDirectories directory = (.ok (), tree)) :
    ∃ later : Desk, later.tree = tree ∧ (generate ws config v directory fragments : OnTree _) desk =
      andThen (copyFlashMap directory flashMap) (fun _ => emitRendering v directory rendering)
        later := by
  refine ⟨{ ((recordAll (Rendering.records ws config v) : OnTree Unit) desk).2 with tree }, rfl, ?_⟩
  simp only [generate, prepared]
  rw [OnTree.run_bind, OnTree.run_bind, OnTree.run_makeDirectories, OnTree.tree_recordAll, ready]
  refine congrFun (bind_eq_andThen (copyFlashMap directory flashMap) (fun _ => ?_) fun _ => ?_) _
  · rfl
  · rfl

/-- A failing generation leaves the tree as it was if the module cannot be rendered or no flash map
is configured for it. Otherwise it leaves directories, and in files at most a whole copy of the
flash map and a whole header: no part of a file, no source, and every other file as it was. -/
theorem generate_failure (ws : Workspace) (config : Config) (v : View) (directory : String)
    (fragments : PcdFragments) (desk : Desk) (result : Except Error Report × Desk) (e : Error)
    (run : (generate ws config v directory fragments : OnTree _) desk = result)
    (failed : result.1 = .error e) :
    (∀ refusal, prepare ws config v fragments = .error refusal →
      e = refusal ∧ result.2.tree = desk.tree) ∧
    ∀ rendering flashMap, prepare ws config v fragments = .ok (rendering, flashMap) →
      Evolves (Leftover directory rendering flashMap
        (desk.tree.makeDirectories directory).2 result.2.tree) desk.tree result.2.tree := by
  subst run
  constructor
  · intro refusal refused
    obtain ⟨last, same, run⟩ := run_generate_unprepared refused desk
    rw [run] at failed ⊢
    cases failed
    exact ⟨rfl, same⟩
  · intro rendering flashMap prepared
    have made := grows_makeDirectories desk.tree directory
    cases result : desk.tree.makeDirectories directory with
    | mk answer tree =>
        rw [result] at made
        cases answer with
        | error fault =>
            obtain ⟨last, rfl, run⟩ := run_generate_blocked prepared desk result
            rw [run]
            exact made.evolves
        | ok _ =>
            obtain ⟨middle, rfl, run⟩ := run_generate_ready prepared desk result
            have left := leaves_emission v directory rendering flashMap middle e
            rw [← run] at left
            exact made.evolves.trans (left failed)

/-- A library instance that asks for nothing. -/
def plainLibrary : Module where
  identity := ⟨"Plain", ⟨Vector.replicate 16 0⟩, "1.0"⟩
  type := .base
  isLibrary := true

def plainRendering : Rendering where
  header := ⟨Glue.includeGuard plainLibrary, [], [], false, ""⟩
  source := ⟨[], ""⟩

theorem plain_prepared :
    prepare .empty {} ⟨plainLibrary, .x64⟩ {} = .ok (plainRendering, none) := by
  decide +kernel

/-- A tree with a directory in the place of a source. -/
def crowded : Desk where
  tree :=
    { entries :=
        ⟨[([], .directory 0), (["out"], .directory 1), (["out", "AutoGen.c"], .directory 2)]⟩
      clock := 3 }

def crowdedRun : Except Error Report × Desk :=
  (generate .empty {} ⟨plainLibrary, .x64⟩ "out" {} : OnTree _) crowded

theorem crowded_leftover :
    Evolves (Leftover "out" plainRendering none (crowded.tree.makeDirectories "out").2
      crowdedRun.2.tree) crowded.tree crowdedRun.2.tree := by
  have failed : crowdedRun.1 = .error (.readFailed "out/AutoGen.c" .isADirectory) := by
    decide +kernel
  have spec := generate_failure .empty {} ⟨plainLibrary, .x64⟩ "out" {} crowded crowdedRun _
    rfl failed
  exact spec.2 _ _ plain_prepared

/-- A generation that fails at the source leaves a header that was not there before. -/
theorem crowded_header_left :
    crowdedRun.1 = .error (.readFailed "out/AutoGen.c" .isADirectory) ∧
      crowded.tree.read "out/AutoGen.h" = .error .notFound ∧
      ∃ content, crowdedRun.2.tree.read "out/AutoGen.h" = .ok content := by
  refine ⟨by decide +kernel, by decide +kernel, ?_⟩
  have readable : (crowdedRun.2.tree.read "out/AutoGen.h").toOption.isSome = true := by
    decide +kernel
  cases read : crowdedRun.2.tree.read "out/AutoGen.h" with
  | error fault => simp [read, Except.toOption] at readable
  | ok content => exact ⟨content, rfl⟩

end Generation

end FirmwareGlue
