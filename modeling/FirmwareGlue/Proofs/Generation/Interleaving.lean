import FirmwareGlue.Proofs.Generation.Isolation
import FirmwareGlue.Proofs.Generation.Pool
import FirmwareGlue.Proofs.Generation.Success
import FirmwareGlue.Proofs.Glue.Header

/-!
# All modules at the same time

The modules of a workspace are generated in parallel, one pass for each. If the output directories
are separate, none of this shows: every pass comes to the report that it comes to alone, and the
files are the same in the end whatever the order was.

Nothing keeps two modules of a workspace from having one name, and then they have one output
directory too. Each of them succeeds, and what is left is what the last one wrote.
-/

namespace FirmwareGlue

open Storage FileTree Surroundings

namespace Generation

open Pool Layout

/-! ### The modules of a workspace -/

theorem run_mapM_loop {α β : Type} {f : α → OnTree β} {g : α → Pass β}
    (each : ∀ a, Pass.CarriesOut (f a) (g a)) (todo : List α) (done : List β) (desk : Desk) :
    (List.mapM.loop f todo done desk).1 =
        done.reverse ++ (performAll (todo.map g) desk.tree).1 ∧
      (List.mapM.loop f todo done desk).2.tree = (performAll (todo.map g) desk.tree).2 := by
  induction todo generalizing done desk with
  | nil => simp [List.mapM.loop, performAll]
  | cons a rest ih =>
      have others := ih ((f a desk).1 :: done) (f a desk).2
      rw [(each a).tree, (each a).answer] at others
      rw [List.mapM.loop, OnTree.run_bind, (each a).answer, List.map_cons, performAll]
      simpa using others

/-- Work on a file tree for each entry of a list carries out the passes one after the other. -/
theorem run_mapM {α β : Type} {f : α → OnTree β} {g : α → Pass β}
    (each : ∀ a, Pass.CarriesOut (f a) (g a)) (entries : List α) (desk : Desk) :
    (entries.mapM f desk).1 = (performAll (entries.map g) desk.tree).1 ∧
      (entries.mapM f desk).2.tree = (performAll (entries.map g) desk.tree).2 :=
  run_mapM_loop each entries [] desk

section Modules

variable {l : Layout} {ws : Workspace} {config : Config} {arch : Arch} {root : String}
  {fragments : PcdFragments} {final : Pool (Module × Except Error Report)}
  {outcomes : List (Module × Except Error Report)} {desk : Desk}

/-- The output directories of the modules that are generated when all are. -/
def outputDirectories (ws : Workspace) (arch : Arch) (root : String) : List String :=
  (subjects ws).map fun subject => directoryOf root ⟨subject, arch⟩

def modulePass (ws : Workspace) (config : Config) (arch : Arch) (root : String)
    (fragments : PcdFragments) (subject : Module) : Pass (Module × Except Error Report) := do
  let v : View := ⟨subject, arch⟩
  return (subject, ← generate ws config v (directoryOf root v) fragments)

/-- The passes of all modules that are generated, before the first turn. -/
def poolOf (ws : Workspace) (config : Config) (arch : Arch) (root : String)
    (fragments : PcdFragments) (t : FileTree) : Pool (Module × Except Error Report) :=
  ⟨(subjects ws).map (modulePass ws config arch root fragments), t⟩

theorem run_generateAll (ws : Workspace) (config : Config) (arch : Arch) (root : String)
    (fragments : PcdFragments) (desk : Desk) :
    ((generateAll ws config arch root fragments : OnTree _) desk).1 =
        (performAll (poolOf ws config arch root fragments desk.tree).passes desk.tree).1 ∧
      ((generateAll ws config arch root fragments : OnTree _) desk).2.tree =
        (performAll (poolOf ws config arch root fragments desk.tree).passes desk.tree).2 :=
  run_mapM (fun _ => (Pass.CarriesOut.generate ..).bind fun _ => .pure _) (subjects ws) desk

/-- Generating one module after the other is one of the orders. -/
theorem schedule_generateAll (ws : Workspace) (config : Config) (arch : Arch) (root : String)
    (fragments : PcdFragments) (desk : Desk) :
    Schedule (poolOf ws config arch root fragments desk.tree)
      ⟨((generateAll ws config arch root fragments : OnTree _) desk).1.map .done,
        ((generateAll ws config arch root fragments : OnTree _) desk).2.tree⟩ := by
  obtain ⟨outcomes, tree⟩ := run_generateAll ws config arch root fragments desk
  rw [outcomes, tree]
  exact schedule_performAll [] _ desk.tree

theorem tended_poolOf (directories : l.directories = outputDirectories ws arch root)
    (steady : ∀ subject ∈ subjects ws, l.SteadyFlashMap config subject) :
    Tended l (poolOf ws config arch root fragments l.initial) where
  within i d p hd hp := by
    simp only [directories, outputDirectories, poolOf, List.getElem?_map, Option.map_eq_some_iff]
      at hd hp
    obtain ⟨subject, member, rfl⟩ := hd
    obtain ⟨same, again, rfl⟩ := hp
    rw [member] at again
    cases again
    have fine := steady subject (List.mem_of_getElem? member)
    exact (within_generate (v := ⟨subject, arch⟩) ws fragments fine).bind fun _ => .done _
  aligned := by simp [directories, outputDirectories, poolOf]
  fits := l.fits_initial

/-- Every module comes to a report among the others, and its output directory is what it comes to
alone. -/
theorem isolated_of_schedule (directories : l.directories = outputDirectories ws arch root)
    (steady : ∀ subject ∈ subjects ws, l.SteadyFlashMap config subject)
    (schedule : Schedule (poolOf ws config arch root fragments l.initial) final)
    (complete : final.passes = outcomes.map .done) {i : Nat} {subject : Module}
    (member : (subjects ws)[i]? = some subject) :
    ∃ result, outcomes[i]? = some (subject, result) ∧
      Isolated (directoryOf root ⟨subject, arch⟩)
        ((generate ws config ⟨subject, arch⟩ (directoryOf root ⟨subject, arch⟩) fragments :
          Pass _).perform l.initial) result final.tree := by
  have start : Tended l (poolOf ws config arch root fragments _) :=
    tended_poolOf directories steady
  have finish := start.schedule schedule
  have directory : l.directories[i]? = some (directoryOf root ⟨subject, arch⟩) := by
    simp [directories, outputDirectories, member]
  have own : (poolOf ws config arch root fragments l.initial).passes[i]? =
      some (modulePass ws config arch root fragments subject) := by
    simp [poolOf, member]
  have within : i < outcomes.length := by
    obtain ⟨bound, _⟩ := List.getElem?_eq_some_iff.1 directory
    have count := finish.aligned
    rw [complete, List.length_map] at count
    omega
  have given := List.getElem?_eq_getElem within
  have ended : final.passes[i]? = some (.done outcomes[i]) := by
    simp [complete, given]
  have run := start.runs schedule directory own ended
  obtain ⟨result, between, generated, run⟩ := run.of_bind
  have isolated := generate_isolated (List.mem_of_getElem? directory)
    (steady subject (List.mem_of_getElem? member)) generated
  obtain ⟨same, isolated⟩ := run.of_done Isolated.stable isolated
  exact ⟨result, by rw [given, same], isolated⟩

/-- The files are the same at the end of any two schedules. -/
theorem contentAt_of_schedules (directories : l.directories = outputDirectories ws arch root)
    (steady : ∀ subject ∈ subjects ws, l.SteadyFlashMap config subject)
    (schedule : Schedule (poolOf ws config arch root fragments l.initial) final)
    (complete : final.passes = outcomes.map .done)
    {other : Pool (Module × Except Error Report)} {others : List (Module × Except Error Report)}
    (again : Schedule (poolOf ws config arch root fragments l.initial) other)
    (complete_again : other.passes = others.map .done) (place : Place) :
    final.tree.contentAt place = other.tree.contentAt place := by
  by_cases output : l.IsOutput place
  · obtain ⟨d, hd, name, _, rfl⟩ := output
    rw [directories] at hd
    obtain ⟨subject, member, rfl⟩ := List.mem_map.1 hd
    obtain ⟨i, bound, here⟩ := List.getElem_of_mem member
    have entry : (subjects ws)[i]? = some subject := List.getElem?_eq_some_iff.2 ⟨bound, here⟩
    obtain ⟨_, _, first⟩ := isolated_of_schedule directories steady schedule complete entry
    obtain ⟨_, _, second⟩ := isolated_of_schedule directories steady again complete_again entry
    rw [FileTree.contentAt, FileTree.contentAt, first.shape, second.shape]
  · have start : Tended l (poolOf ws config arch root fragments _) :=
      tended_poolOf directories steady
    rw [(start.schedule schedule).fits.evolved.contentAt fun _ => output,
      (start.schedule again).fits.evolved.contentAt fun _ => output]

/-- What a success delivers alone it delivers among others. -/
theorem Isolated.delivers {v : View} {d : String} {report : Report} {u : FileTree}
    (isolated : Isolated d ((generate ws config v d fragments : Pass _).perform desk.tree)
      (.ok report) u) :
    ∃ rendering flashMap, prepare ws config v fragments = .ok (rendering, flashMap) ∧
      Delivers d rendering report u := by
  have alone := Pass.CarriesOut.generate ws config v d fragments
  have answer := (alone.answer desk).trans isolated.answer.symm
  have tree := alone.tree desk
  cases run : (generate ws config v d fragments : OnTree _) desk with
  | mk given later =>
      rw [run] at answer tree
      obtain rfl : given = .ok report := answer
      obtain ⟨rendering, flashMap, prepared, delivers⟩ := generate_delivers run
      rw [tree] at delivers
      refine ⟨rendering, flashMap, prepared, ?_⟩
      obtain ⟨before, after⟩ := isolated.entered report rfl
      have header := read_join_congr (isFileName_of_mem headerName_mem) after before
        (isolated.shape Glue.headerName)
      have source := read_join_congr (isFileName_of_mem sourceName_mem) after before
        (isolated.shape Glue.sourceName)
      rw [← delivers.header_path] at header
      rw [← delivers.source_path] at source
      exact ⟨delivers.header_path, delivers.source_path, header.trans delivers.header,
        source.trans delivers.source⟩

/-- The outcomes are those that the modules come to alone, in the order of the modules. -/
theorem outcomes_of_schedule (directories : l.directories = outputDirectories ws arch root)
    (steady : ∀ subject ∈ subjects ws, l.SteadyFlashMap config subject)
    (schedule : Schedule (poolOf ws config arch root fragments l.initial) final)
    (complete : final.passes = outcomes.map .done) :
    outcomes = (subjects ws).map fun subject => (subject,
      ((generate ws config ⟨subject, arch⟩ (directoryOf root ⟨subject, arch⟩) fragments :
        Pass _).perform l.initial).1) := by
  have start : Tended l (poolOf ws config arch root fragments _) :=
    tended_poolOf directories steady
  have finish := start.schedule schedule
  have count : outcomes.length = (subjects ws).length := by
    have aligned := finish.aligned
    rwa [complete, directories, outputDirectories, List.length_map, List.length_map] at aligned
  refine List.ext_getElem? fun i => ?_
  rw [List.getElem?_map]
  cases entry : (subjects ws)[i]? with
  | none =>
      rw [List.getElem?_eq_none_iff, ← count, ← List.getElem?_eq_none_iff] at entry
      rw [entry]
      rfl
  | some subject =>
      obtain ⟨result, given, isolated⟩ :=
        isolated_of_schedule directories steady schedule complete entry
      rw [given, isolated.answer]
      rfl

/-- Modules whose output directories are separate can be generated at the same time, with their
operations in any order. Every order comes to an end. The outcomes are then those of generating one
after the other, and those that each module comes to alone, in the order in which the modules are
registered. The files are those that generating one after the other leaves. The files of each report
that is a success hold what its own module is rendered to. -/
theorem generateAll_interleaved (ws : Workspace) (config : Config) (arch : Arch) (root : String)
    (fragments : PcdFragments) (desk : Desk) (l : Layout) (initial : l.initial = desk.tree)
    (directories : l.directories = outputDirectories ws arch root)
    (steady : ∀ subject ∈ subjects ws, l.SteadyFlashMap config subject) :
    (poolOf ws config arch root fragments desk.tree).Ends ∧
    ∀ final, Schedule (poolOf ws config arch root fragments desk.tree) final → final.AtRest →
      ∃ outcomes, final.passes = outcomes.map .done ∧
        outcomes = ((generateAll ws config arch root fragments : OnTree _) desk).1 ∧
        outcomes = (subjects ws).map (fun subject => (subject,
          ((generate ws config ⟨subject, arch⟩ (directoryOf root ⟨subject, arch⟩) fragments :
            OnTree _) desk).1)) ∧
        (∀ place, final.tree.contentAt place =
          ((generateAll ws config arch root fragments : OnTree _) desk).2.tree.contentAt place) ∧
        ∀ subject report, (subject, .ok report) ∈ outcomes → ∃ rendering flashMap,
          prepare ws config ⟨subject, arch⟩ fragments = .ok (rendering, flashMap) ∧
          Delivers (directoryOf root ⟨subject, arch⟩) rendering report final.tree := by
  refine ⟨ends _, fun final schedule rest => ?_⟩
  obtain ⟨outcomes, complete⟩ := atRest_iff.1 rest
  have alone (subject : Module) := Pass.CarriesOut.generate ws config ⟨subject, arch⟩
    (directoryOf root ⟨subject, arch⟩) fragments
  have inTurn := schedule_generateAll ws config arch root fragments desk
  rw [← initial] at schedule inTurn
  have given := outcomes_of_schedule directories steady schedule complete
  refine ⟨outcomes, complete, ?_, ?_, ?_, ?_⟩
  · rw [given, outcomes_of_schedule directories steady inTurn rfl]
  · simp only [(alone _).answer, ← initial]
    exact given
  · exact contentAt_of_schedules directories steady schedule complete inTurn rfl
  · intro subject report member
    obtain ⟨i, bound, here⟩ := List.getElem_of_mem member
    have entry : outcomes[i]? = some (subject, .ok report) :=
      List.getElem?_eq_some_iff.2 ⟨bound, here⟩
    have registered : (subjects ws)[i]? = some subject := by
      rw [given, List.getElem?_map, Option.map_eq_some_iff] at entry
      obtain ⟨other, registered, same⟩ := entry
      rw [registered, (Prod.mk.inj same).1]
    obtain ⟨result, found, isolated⟩ :=
      isolated_of_schedule directories steady schedule complete registered
    cases Option.some.inj (entry.symm.trans found)
    rw [initial] at isolated
    exact Isolated.delivers isolated

end Modules

/-! ### Modules with names of their own -/

theorem spelling_isFileName (arch : Arch) : IsFileName arch.spelling := by
  cases arch <;> exact ⟨by decide, by decide, by decide, by decide⟩

theorem placeOf_directoryOf {v : View} (named : IsFileName v.name) (root : String) :
    placeOf (directoryOf root v) = placeOf root ++ [v.name, v.arch.spelling] := by
  rw [directoryOf, placeOf_join (spelling_isFileName v.arch), placeOf_join named]
  simp

theorem separate_append {place : Place} {name other last : String} (different : name ≠ other) :
    Separate (place ++ [name, last]) (place ++ [other, last]) := by
  constructor <;> rw [List.prefix_append_right_inj] <;> simp [different, Ne.symm different]

/-- The output directories of modules are separate if the modules have different names. -/
def layoutOfNames (ws : Workspace) (arch : Arch) (root : String) (t : FileTree)
    (wellFormed : t.WellFormed) (level : t.Level root)
    (named : ∀ subject ∈ subjects ws, IsFileName subject.name)
    (distinct : (subjects ws).Pairwise fun first second => first.name ≠ second.name) : Layout where
  initial := t
  directories := outputDirectories ws arch root
  wellFormed := wellFormed
  named d member := by
    obtain ⟨subject, _, rfl⟩ := List.mem_map.1 member
    have last := spelling_isFileName arch
    exact ⟨_, _, partsOf_join last (join root subject.name), last.named⟩
  level d member := by
    obtain ⟨subject, listed, rfl⟩ := List.mem_map.1 member
    exact (level.join (named subject listed)).join (spelling_isFileName arch)
  separate := by
    rw [outputDirectories, List.map_map, List.pairwise_map]
    refine distinct.imp_of_mem fun {first second} here there different => ?_
    simp only [Function.comp_apply]
    rw [placeOf_directoryOf (v := ⟨first, arch⟩) (named first here),
      placeOf_directoryOf (v := ⟨second, arch⟩) (named second there)]
    exact separate_append different

/-- A module that asks for nothing, with a GUID of equal bytes. -/
def plainModule (name : String) (byte : UInt8) : Module where
  identity := ⟨name, ⟨Vector.replicate 16 byte⟩, "1.0"⟩
  type := .base

/-- A module that asks for the flash map. -/
def mappedModule : Module :=
  { plainModule "Second" 2 with flashMap := true }

/-- Two modules with names of their own. -/
def pair : Workspace :=
  (Workspace.empty.addModule (plainModule "First" 1)).addModule mappedModule

theorem subjects_pair : subjects pair = [plainModule "First" 1, mappedModule] := by
  decide +kernel

/-- The flash map is taken from a directory of its own. -/
def mapConfig : Config where
  flashMapDir := some "maps"

/-- A tree with that directory, and the flash map in it. -/
def mapTree : FileTree :=
  (((FileTree.empty 0).makeDirectory ["maps"]).2.replace (join "maps" Glue.flashMapName) .empty).2

theorem flashMap_readable : mapTree.read (join "maps" Glue.flashMapName) = .ok .empty := by
  have done : (((FileTree.empty 0).makeDirectory ["maps"]).2.replace
      (join "maps" Glue.flashMapName) .empty).1 = .ok () := by
    decide +kernel
  unfold mapTree
  exact read_replace done

def pairLayout : Layout :=
  layoutOfNames pair .x64 "out" mapTree
    (((wellFormed_empty 0).makeDirectory ["maps"]).replace _ _)
    ⟨[], ["out"], [], by decide, by decide +kernel, by decide⟩
    (by
      rw [subjects_pair]
      intro subject listed
      simp only [List.mem_cons, List.not_mem_nil, or_false] at listed
      rcases listed with rfl | rfl <;> exact ⟨by decide, by decide, by decide, by decide⟩)
    (by
      rw [subjects_pair]
      decide)

theorem initial_pairLayout : pairLayout.initial = mapTree :=
  rfl

theorem directories_pairLayout : pairLayout.directories = outputDirectories pair .x64 "out" :=
  rfl

/-- The pair in the other order: first the second module, and then the first. -/
def backwards : List (Module × Except Error Report) × FileTree :=
  inReverse (modulePass pair mapConfig .x64 "out" {} (plainModule "First" 1))
    (modulePass pair mapConfig .x64 "out" {} mappedModule) mapTree

theorem schedule_backwards :
    Schedule (poolOf pair mapConfig .x64 "out" {} mapTree)
      ⟨backwards.1.map .done, backwards.2⟩ := by
  rw [poolOf, subjects_pair]
  exact schedule_inReverse _ _ _

theorem pair_steady : ∀ subject ∈ subjects pair, pairLayout.SteadyFlashMap mapConfig subject := by
  rw [subjects_pair]
  intro subject listed
  refine .of_readable fun source asked => ⟨.empty, ?_⟩
  simp only [List.mem_cons, List.not_mem_nil, or_false] at listed
  rcases listed with rfl | rfl
  · simp [flashMapSource, plainModule] at asked
  · simp only [flashMapSource, mappedModule, mapConfig, if_true, Except.ok.injEq,
      Option.some.injEq] at asked
    rw [← asked]
    exact flashMap_readable

theorem backwards_same :
    backwards.1 = ((generateAll pair mapConfig .x64 "out" {} : OnTree _) ⟨mapTree, []⟩).1 ∧
    ∀ place, backwards.2.contentAt place =
      ((generateAll pair mapConfig .x64 "out" {} : OnTree _) ⟨mapTree, []⟩).2.tree.contentAt
        place := by
  have schedule := schedule_backwards
  generalize backwards = finish at schedule ⊢
  obtain ⟨outcomes, tree⟩ := finish
  have rest : AtRest ⟨outcomes.map .done, tree⟩ := atRest_iff.2 ⟨outcomes, rfl⟩
  obtain ⟨_, always⟩ := generateAll_interleaved pair mapConfig .x64 "out" {} ⟨mapTree, []⟩
    pairLayout initial_pairLayout directories_pairLayout pair_steady
  obtain ⟨given, complete, same, _, files, _⟩ := always _ schedule rest
  obtain rfl : outcomes = given := List.map_injective_iff.2 (fun _ _ => Pass.done.inj) complete
  exact ⟨same, files⟩

/-! ### Modules with one name -/

theorem includeGuard_of_prepare {ws : Workspace} {config : Config} {v : View}
    {fragments : PcdFragments} {rendering : Rendering} {flashMap : Option String}
    (prepared : prepare ws config v fragments = .ok (rendering, flashMap)) :
    rendering.header.includeGuard = Glue.includeGuard v.subject := by
  obtain ⟨made, rendered, rest⟩ := bind_ok_iff.1 prepared
  obtain ⟨_, _, same⟩ := bind_ok_iff.1 rest
  cases same
  obtain ⟨header, header_made, rest⟩ := bind_ok_iff.1 rendered
  obtain ⟨_, _, same⟩ := bind_ok_iff.1 rest
  cases same
  exact Header.includeGuard_of_ofView header_made

theorem run_two {ws : Workspace} {config : Config} {arch : Arch} {root : String}
    {fragments : PcdFragments} {first second : Module} {desk middle last : Desk}
    {result again : Except Error Report} (both : subjects ws = [first, second])
    (run : (generate ws config ⟨first, arch⟩ (directoryOf root ⟨first, arch⟩) fragments :
      OnTree _) desk = (result, middle))
    (run_again : (generate ws config ⟨second, arch⟩ (directoryOf root ⟨second, arch⟩) fragments :
      OnTree _) middle = (again, last)) :
    (generateAll ws config arch root fragments : OnTree _) desk =
      ([(first, result), (second, again)], last) := by
  simp [generateAll, both, List.mapM, List.mapM.loop, run, run_again, -bind_pure_comp]

/-- Of two modules with one name, the second one overwrites what the first has written, and the
report on the first names the files that hold it. -/
theorem namesakes_overwrite {ws : Workspace} {config : Config} {arch : Arch} {root : String}
    {fragments : PcdFragments} {first second : Module} {desk later : Desk} {report : Report}
    {rendering : Rendering} (both : subjects ws = [first, second])
    (named : second.name = first.name)
    (run : (generate ws config ⟨first, arch⟩ (directoryOf root ⟨first, arch⟩) fragments :
      OnTree _) desk = (.ok report, later))
    (prepared : prepare ws config ⟨second, arch⟩ fragments = .ok (rendering, none))
    (usable : ∀ name ∈ [Glue.headerName, Glue.sourceName], unusable?
      (join rootPath (interimPath (join (directoryOf root ⟨first, arch⟩) name))) = none) :
    ∃ again,
      ((generateAll ws config arch root fragments : OnTree _) desk).1 =
        [(first, .ok report), (second, .ok again)] ∧
      ((generateAll ws config arch root fragments : OnTree _) desk).2.tree.read
        report.header.path = .ok rendering.header.text.toUTF8 := by
  obtain ⟨again, last, run_again, delivers, same_path, _⟩ := generate_over run prepared usable
  have directory : directoryOf root ⟨second, arch⟩ = directoryOf root ⟨first, arch⟩ := by
    rw [directoryOf, directoryOf, View.name, View.name, named]
  have all : (generateAll ws config arch root fragments : OnTree _) desk =
      ([(first, .ok report), (second, .ok again)], last) :=
    run_two both run (by rw [directory, run_again])
  rw [all, same_path]
  exact ⟨again, rfl, delivers.header⟩

/-- Two modules with one name, and with different GUIDs. -/
def twins : Workspace :=
  (Workspace.empty.addModule (plainModule "Same" 1)).addModule (plainModule "Same" 2)

theorem subjects_twins : subjects twins = [plainModule "Same" 1, plainModule "Same" 2] := by
  decide +kernel

abbrev twin (byte : UInt8) : View := ⟨plainModule "Same" byte, .x64⟩

theorem twin_prepared : ∃ rendering, prepare twins {} (twin 2) {} = .ok (rendering, none) := by
  have unmapped : (prepare twins {} (twin 2) {}).map Prod.snd = .ok none := by decide +kernel
  cases prepared : prepare twins {} (twin 2) {} with
  | error e =>
      rw [prepared] at unmapped
      cases unmapped
  | ok work =>
      rw [prepared] at unmapped
      obtain ⟨rendering, flashMap⟩ := work
      cases unmapped
      exact ⟨rendering, rfl⟩

theorem first_twin_succeeds : ∃ report later,
    (generate twins {} (twin 1) (directoryOf "out" (twin 1)) {} : OnTree _) ⟨.empty 0, []⟩ =
      (.ok report, later) :=
  exists_run_ok (by decide +kernel)

theorem twin_texts {first second : Rendering} {firstMap secondMap : Option String}
    (prepared : prepare twins {} (twin 1) {} = .ok (first, firstMap))
    (other : prepare twins {} (twin 2) {} = .ok (second, secondMap)) :
    first.header.text ≠ second.header.text := by
  have length : (Glue.includeGuard (plainModule "Same" 1)).length =
      (Glue.includeGuard (plainModule "Same" 2)).length := by
    decide +kernel
  have different : Glue.includeGuard (plainModule "Same" 1) ≠
      Glue.includeGuard (plainModule "Same" 2) := by
    decide +kernel
  have guard := includeGuard_of_prepare prepared
  have guard_other := includeGuard_of_prepare other
  intro texts
  have same := Header.includeGuard_eq_of_text_eq texts (by rw [guard, guard_other, length])
  exact different (guard.symm.trans (same.trans guard_other))

/-- Both of two modules with one name succeed, and the header in the report on the first is not what
the first is rendered to. -/
theorem twins_overwritten : ∃ first second rendering flashMap,
    ((generateAll twins {} .x64 "out" {} : OnTree _) ⟨.empty 0, []⟩).1 =
      [(plainModule "Same" 1, .ok first), (plainModule "Same" 2, .ok second)] ∧
    prepare twins {} (twin 1) {} = .ok (rendering, flashMap) ∧
    ((generateAll twins {} .x64 "out" {} : OnTree _) ⟨.empty 0, []⟩).2.tree.read
      first.header.path ≠ .ok rendering.header.text.toUTF8 := by
  obtain ⟨first, later, run⟩ := first_twin_succeeds
  obtain ⟨rendering, flashMap, prepared, _⟩ := generate_delivers run
  obtain ⟨other, prepared_other⟩ := twin_prepared
  obtain ⟨second, outcomes, read⟩ :=
    namesakes_overwrite subjects_twins rfl run prepared_other (by decide +kernel)
  refine ⟨first, second, rendering, flashMap, outcomes, prepared, ?_⟩
  rw [read]
  intro holds
  exact twin_texts prepared prepared_other (String.toByteArray_inj.1 (Except.ok.inj holds).symm)

end Generation

end FirmwareGlue
