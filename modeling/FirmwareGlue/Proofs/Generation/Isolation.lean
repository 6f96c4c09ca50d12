import FirmwareGlue.Proofs.Generation.Approach
import FirmwareGlue.Proofs.Generation.Step

/-!
# Passes do not disturb each other

A pass makes its output directory, and from then on only looks at the flash map and at what that
directory holds, and only writes there. Nobody else writes there. So a pass among others gets the
answers that it gets when it is alone, and leaves in its output directory what it then leaves. Times
are compared before the pass has written anything; afterwards they may be others than in a pass that
is alone, and nothing depends on them any more.
-/

namespace FirmwareGlue

open Storage FileTree Surroundings

namespace Generation

/-- How far a pass has come once its output directory is there: it looks at times, or it has begun
to write. -/
inductive Stage where
  | looking
  | writing

namespace Layout

variable {l : Layout} {d : String} {stage : Stage} {s t u : FileTree} {α β : Type}

/-- Nothing that passes do changes what is found under a path. -/
def Steady (l : Layout) (path : String) : Prop :=
  ∀ t, l.Fits t → t.read path = l.initial.read path ∧ t.modified path = l.initial.modified path

theorem steady_of_locate {path : String} {place : Place}
    (found : l.initial.locate path = .ok place)
    (same : ∀ t, l.Fits t → t.at? place = l.initial.at? place) : l.Steady path := by
  intro t fits
  have still := fits.evolved.locate found
  constructor
  · rw [read_eq, read_eq, found, still]
    simp only [bind, Except.bind, FileTree.shape, same t fits]
  · rw [modified_eq, modified_eq, found, still]
    simp only [bind, Except.bind, timeAt, same t fits]

/-- A file that is no output stays as it is. -/
theorem steady_of_file {path : String} {content : ByteArray}
    (readable : l.initial.read path = .ok content)
    (kept : ∀ place, l.initial.locate path = .ok place → ¬ l.IsOutput place) : l.Steady path := by
  obtain ⟨place, time, found, here⟩ := read_ok_iff.1 readable
  refine steady_of_locate found fun t fits => ?_
  rw [here]
  exact fits.evolved.same_file here fun _ => kept place found

/-- A pass that keeps to its output directory: besides what is steady it reads and writes the files
of the directory, and their times do not matter to it once it has begun to write. -/
inductive Careful (l : Layout) (d : String) : Stage → Pass α → Prop where
  | done (stage : Stage) (result : α) : Careful l d stage (.done result)
  | contentOf {name : String} {stage : Stage} {next : Except Fault ByteArray → Pass α}
      (listed : name ∈ outputNames) (rest : ∀ answer, Careful l d stage (next answer)) :
      Careful l d stage (.step (.contentOf (join d name)) next)
  | contentOfSteady {stage : Stage} {path : String} {next : Except Fault ByteArray → Pass α}
      (steady : l.Steady path) (rest : ∀ answer, Careful l d stage (next answer)) :
      Careful l d stage (.step (.contentOf path) next)
  | modifiedAt {name : String} {next : Except Fault Nat → Pass α} (listed : name ∈ outputNames)
      (rest : ∀ answer, Careful l d .looking (next answer)) :
      Careful l d .looking (.step (.modifiedAt (join d name)) next)
  | modifiedAtSteady {stage : Stage} {path : String} {next : Except Fault Nat → Pass α}
      (steady : l.Steady path) (rest : ∀ answer, Careful l d stage (next answer)) :
      Careful l d stage (.step (.modifiedAt path) next)
  | writeBeside {name : String} {stage : Stage} {next : Except Fault Unit → Pass α}
      (listed : name ∈ outputNames) (rest : ∀ answer, Careful l d stage (next answer)) :
      Careful l d stage (.step (.writeBeside (join d name)) next)
  | moveIntoPlace {name : String} {stage : Stage} {next : Except Fault Unit → Pass α}
      (listed : name ∈ outputNames) (content : ByteArray)
      (rest : ∀ answer, Careful l d .writing (next answer)) :
      Careful l d stage (.step (.moveIntoPlace (join d name) content) next)

namespace Careful

variable {name : String} {p : Pass α}

theorem within (careful : l.Careful d stage p) : p.Within (Operates d) := by
  induction careful with
  | done stage result => exact .done result
  | contentOf listed rest ih => exact .step (.contentOf _) ih
  | contentOfSteady steady rest ih => exact .step (.contentOf _) ih
  | modifiedAt listed rest ih => exact .step (.modifiedAt _) ih
  | modifiedAtSteady steady rest ih => exact .step (.modifiedAt _) ih
  | writeBeside listed rest ih => exact .step (.writeBeside listed) ih
  | moveIntoPlace listed content rest ih => exact .step (.moveIntoPlace listed content) ih

theorem bind {f : α → Pass β} (first : l.Careful d stage p)
    (second : ∀ stage result, l.Careful d stage (f result)) : l.Careful d stage (p.bind f) := by
  induction first with
  | done stage result => exact second stage result
  | contentOf listed rest ih => exact .contentOf listed ih
  | contentOfSteady steady rest ih => exact .contentOfSteady steady ih
  | modifiedAt listed rest ih => exact .modifiedAt listed ih
  | modifiedAtSteady steady rest ih => exact .modifiedAtSteady steady ih
  | writeBeside listed rest ih => exact .writeBeside listed ih
  | moveIntoPlace listed content rest ih => exact .moveIntoPlace listed content ih

theorem replaceFile (listed : name ∈ outputNames) (content : ByteArray) :
    l.Careful d stage (Pass.replaceFile (join d name) content) := by
  refine .writeBeside listed fun answer => ?_
  cases answer with
  | error fault => exact .done _ _
  | ok _ => exact .moveIntoPlace listed content fun _ => .done _ _

theorem replaceWith (listed : name ∈ outputNames) (content : ByteArray) (said : String) :
    l.Careful d stage (Storage.replaceWith (join d name) content said) := by
  refine (replaceFile listed content).bind fun stage answer => ?_
  cases answer <;> exact .done _ _

theorem writeIfChanged (listed : name ∈ outputNames) (content : ByteArray) :
    l.Careful d stage (Storage.writeIfChanged (join d name) content) := by
  refine .contentOf listed fun answer => ?_
  cases answer with
  | ok existing =>
      by_cases same : existing.data = content.data
      · simp only [Pass.done_bind, if_pos same]
        exact .done _ _
      · simp only [Pass.done_bind, if_neg same]
        exact replaceWith listed content _
  | error fault =>
      cases fault with
      | notFound => exact replaceWith listed content _
      | _ => exact .done _ _

theorem copyIfNewer {source : String} (steady : l.Steady source) (listed : name ∈ outputNames) :
    l.Careful d .looking (Storage.copyIfNewer source (join d name)) := by
  refine .modifiedAtSteady steady fun answer => ?_
  cases answer with
  | error fault =>
      cases fault with
      | notFound => exact .done _ _
      | _ => exact .done _ _
  | ok sourceTime =>
      refine .modifiedAt listed fun copyTime => ?_
      rw [Pass.done_bind]
      cases isStale sourceTime copyTime with
      | false => exact .done _ _
      | true =>
          refine .contentOfSteady steady fun answer => ?_
          cases answer with
          | error fault => exact .done _ _
          | ok content => exact replaceWith listed content _

theorem emit (listed : name ∈ outputNames) (text : String) :
    l.Careful d stage (Generation.emit (join d name) text) := by
  refine (writeIfChanged listed text.toUTF8).bind fun stage answer => ?_
  cases answer with
  | error e => exact .done _ _
  | ok outcome => cases outcome <;> exact .done _ _

theorem copyFlashMap {flashMap : Option String} (steady : ∀ source ∈ flashMap, l.Steady source) :
    l.Careful d .looking (Generation.copyFlashMap d flashMap) := by
  cases flashMap with
  | none => exact .done _ _
  | some source =>
      refine (copyIfNewer (steady source rfl) copyName_mem).bind fun stage answer => ?_
      cases answer <;> exact .done _ _

theorem emitRendering (v : View) (rendering : Rendering) :
    l.Careful d stage (Generation.emitRendering v d rendering) := by
  refine (emit headerName_mem _).bind fun stage first => ?_
  cases first with
  | error e => exact .done _ _
  | ok header =>
      refine (emit sourceName_mem _).bind fun stage second => ?_
      cases second <;> exact .done _ _

end Careful

/-- Two trees hold the same in an output directory. Times count until a pass begins to write. -/
def Agree (d : String) : Stage → FileTree → FileTree → Prop
  | .looking, s, t => ∀ name, s.at? (placeOf d ++ [name]) = t.at? (placeOf d ++ [name])
  | .writing, s, t => ∀ name, s.shape (placeOf d ++ [name]) = t.shape (placeOf d ++ [name])

theorem Agree.shape (h : Agree d stage s t) (name : String) :
    s.shape (placeOf d ++ [name]) = t.shape (placeOf d ++ [name]) := by
  cases stage with
  | looking => rw [FileTree.shape, h name, FileTree.shape]
  | writing => exact h name

/-- A pass that is alone in one tree and among others in another, once its output directory is
there. -/
structure Alongside (l : Layout) (d : String) (stage : Stage) (s t : FileTree) : Prop where
  alone : l.Fits s
  among : l.Fits t
  entered_alone : s.Entered d (placeOf d)
  entered_among : t.Entered d (placeOf d)
  agree : Agree d stage s t

theorem Alongside.writing (h : l.Alongside d stage s t) : l.Alongside d .writing s t :=
  { h with agree := h.agree.shape }

/-- Others change nothing that counts. -/
theorem Alongside.stable (stage : Stage) (s : FileTree) :
    ∀ t u, l.Alongside d stage s t → l.Beside d t u → l.Alongside d stage s u := by
  intro t u h meanwhile
  refine ⟨h.alone, meanwhile.fits, h.entered_alone, h.entered_among.evolve meanwhile.evolved, ?_⟩
  have agree := h.agree
  cases stage with
  | looking => exact fun name => (agree name).trans (meanwhile.same name).symm
  | writing =>
      intro name
      rw [agree name, FileTree.shape, FileTree.shape, meanwhile.same name]

/-- A pass that writes beside a file does so alone and among others. -/
theorem Alongside.writeBeside (h : l.Alongside d stage s t) {name : String}
    (listed : name ∈ outputNames) :
    (s.writeBeside (join d name)).1 = (t.writeBeside (join d name)).1 ∧
      l.Alongside d stage (s.writeBeside (join d name)).2 (t.writeBeside (join d name)).2 := by
  have named := isFileName_of_mem listed
  have alone := effect_writeBeside (d := d) h.alone listed
  have among := effect_writeBeside (d := d) h.among listed
  have kept (r : FileTree) (last : String) :
      (r.writeBeside (join d name)).2.at? (placeOf d ++ [last]) = r.at? (placeOf d ++ [last]) :=
    at?_writeBeside_join_other named r (append_ne (placeOf d) last).symm
  refine ⟨writeBeside_join_congr named h.entered_alone h.entered_among, alone.fits, among.fits,
    h.entered_alone.evolve alone.evolved, h.entered_among.evolve among.evolved, ?_⟩
  have agree := h.agree
  cases stage with
  | looking =>
      intro last
      rw [kept, kept, agree last]
  | writing =>
      intro last
      rw [FileTree.shape, FileTree.shape, kept, kept]
      exact agree last

/-- A pass that gives a file new content does so alone and among others. -/
theorem Alongside.moveIntoPlace (hd : d ∈ l.directories) (h : l.Alongside d stage s t)
    {name : String} (listed : name ∈ outputNames) (content : ByteArray) :
    (s.moveIntoPlace (join d name) content).1 = (t.moveIntoPlace (join d name) content).1 ∧
      l.Alongside d .writing (s.moveIntoPlace (join d name) content).2
        (t.moveIntoPlace (join d name) content).2 := by
  have alone := effect_moveIntoPlace hd h.alone listed content
  have among := effect_moveIntoPlace hd h.among listed content
  obtain ⟨answer, left⟩ := moveIntoPlace_join_congr (isFileName_of_mem listed) h.entered_alone
    h.entered_among h.agree.shape content
  exact ⟨answer, alone.fits, among.fits, h.entered_alone.evolve alone.evolved,
    h.entered_among.evolve among.evolved, left⟩

/-- A careful pass gets among others the answers that it gets alone, and leaves the same in its
output directory. -/
theorem Careful.mirrors {p : Pass α} {result : α} (hd : d ∈ l.directories)
    (careful : l.Careful d stage p) (along : l.Alongside d stage s t)
    (run : p.Runs (l.Beside d) t result u) :
    result = (p.perform s).1 ∧ l.Alongside d .writing (p.perform s).2 u := by
  induction careful generalizing s t with
  | done stage result =>
      obtain ⟨same, along⟩ := run.of_done (Alongside.stable stage s) along
      exact ⟨same, along.writing⟩
  | contentOf listed rest ih =>
      obtain ⟨now, along, run⟩ := run.of_step (Alongside.stable _ s) along
      have same := read_join_congr (isFileName_of_mem listed) along.entered_alone
        along.entered_among (along.agree.shape _)
      simp only [Operation.run, ← same] at run
      exact ih _ along run
  | contentOfSteady steady rest ih =>
      obtain ⟨now, along, run⟩ := run.of_step (Alongside.stable _ s) along
      have same := (steady s along.alone).1.trans (steady now along.among).1.symm
      simp only [Operation.run, ← same] at run
      exact ih _ along run
  | modifiedAt listed rest ih =>
      obtain ⟨now, along, run⟩ := run.of_step (Alongside.stable _ s) along
      have same := modified_join_congr (isFileName_of_mem listed) along.entered_alone
        along.entered_among (along.agree _)
      simp only [Operation.run, ← same] at run
      exact ih _ along run
  | modifiedAtSteady steady rest ih =>
      obtain ⟨now, along, run⟩ := run.of_step (Alongside.stable _ s) along
      have same := (steady s along.alone).2.trans (steady now along.among).2.symm
      simp only [Operation.run, ← same] at run
      exact ih _ along run
  | writeBeside listed rest ih =>
      obtain ⟨now, along, run⟩ := run.of_step (Alongside.stable _ s) along
      obtain ⟨same, beside⟩ := along.writeBeside listed
      simp only [Operation.run, ← same] at run
      exact ih _ beside run
  | moveIntoPlace listed content rest ih =>
      obtain ⟨now, along, run⟩ := run.of_step (Alongside.stable _ s) along
      obtain ⟨same, written⟩ := along.moveIntoPlace hd listed content
      simp only [Operation.run, ← same] at run
      exact ih _ written run

/-! ### The pass of a module -/

section Module

variable {ws : Workspace} {config : Config} {v : View} {fragments : PcdFragments}
  {rendering : Rendering} {flashMap : Option String} {e : Error}

theorem within_makeDirectories (d : String) : (Pass.makeDirectories d).Within (Operates d) := by
  have leads (lead : List String) (member : lead ∈ leadingParts (partsOf d)) : lead <+: partsOf d :=
    isPrefix_of_mem_leadingParts member
  unfold Pass.makeDirectories
  split
  next => exact .done _
  next =>
    refine (within_makeFirst leads).mono fun operation prepares => ?_
    cases prepares with
    | makeDirectory onTheWay => exact .makeDirectory onTheWay
    | leadsToDirectory parts => exact .leadsToDirectory parts

theorem recordAll_eq (records : List Record) : (recordAll records : Pass Unit) = .done () := by
  induction records with
  | nil => rfl
  | cons r rest ih => exact ih

theorem generate_unprepared (refused : prepare ws config v fragments = .error e) :
    (generate ws config v d fragments : Pass _) = .done (.error e) := by
  unfold generate
  rw [recordAll_eq, refused]
  rfl

/-- A module that can be rendered has its output directory made, and then the pass is careful. -/
theorem generate_prepared (prepared : prepare ws config v fragments = .ok (rendering, flashMap))
    (steady : ∀ source ∈ flashMap, l.Steady source) :
    ∃ goesOn, (generate ws config v d fragments : Pass _) = (Pass.makeDirectories d).bind goesOn ∧
      (∀ fault, goesOn (.error fault) = .done (.error (.writeFailed d fault))) ∧
      l.Careful d .looking (goesOn (.ok ())) := by
  unfold generate
  rw [recordAll_eq, prepared]
  refine ⟨_, rfl, fun fault => rfl, ?_⟩
  refine (Careful.copyFlashMap steady).bind fun stage copied => ?_
  cases copied with
  | error e => exact .done _ _
  | ok _ => exact .emitRendering v rendering

/-- Where nothing disturbs the flash map, if one is asked for. -/
def SteadyFlashMap (l : Layout) (config : Config) (subject : Module) : Prop :=
  ∀ source, flashMapSource config subject = .ok (some source) → l.Steady source

theorem SteadyFlashMap.steady (h : l.SteadyFlashMap config v.subject)
    (prepared : prepare ws config v fragments = .ok (rendering, flashMap)) :
    ∀ source ∈ flashMap, l.Steady source := by
  rintro source rfl
  exact h source ((prepare_ok_iff.1 prepared).2)

theorem flashMap_not_isOutput {directory : String} {place : Place}
    (found : t.locate (join directory Glue.flashMapName) = .ok place) : ¬ l.IsOutput place := by
  rintro ⟨d, _, name, listed, same⟩
  exact flashMap_apart listed found same

/-- A flash map that can be read is not disturbed. -/
theorem SteadyFlashMap.of_readable {subject : Module}
    (readable : ∀ source, flashMapSource config subject = .ok (some source) →
      ∃ content, l.initial.read source = .ok content) : l.SteadyFlashMap config subject := by
  intro source asked
  obtain ⟨content, found⟩ := readable source asked
  obtain ⟨directory, rfl⟩ := flashMapSource_eq asked
  exact steady_of_file found fun _ => flashMap_not_isOutput

/-- The pass of a module only asks for operations on its way to the output directory and in it. -/
theorem within_generate (ws : Workspace) (fragments : PcdFragments)
    (steady : l.SteadyFlashMap config v.subject) :
    (generate ws config v d fragments : Pass _).Within (Operates d) := by
  cases prepared : prepare ws config v fragments with
  | error e =>
      rw [generate_unprepared prepared]
      exact .done _
  | ok work =>
      obtain ⟨goesOn, whole, fails, careful⟩ := generate_prepared (d := d) prepared
        (steady.steady prepared)
      rw [whole]
      refine (within_makeDirectories d).bind fun made => ?_
      cases made with
      | error fault =>
          rw [fails]
          exact .done _
      | ok _ => exact careful.within

/-- What a pass comes to among others is what it comes to alone. -/
structure Isolated (d : String) (alone : Except Error Report × FileTree)
    (result : Except Error Report) (u : FileTree) : Prop where
  answer : result = alone.1
  shape : ∀ name, u.shape (placeOf d ++ [name]) = alone.2.shape (placeOf d ++ [name])
  entered : ∀ report, result = .ok report →
    alone.2.Entered d (placeOf d) ∧ u.Entered d (placeOf d)

theorem Isolated.of_beside {e : Error} (alone : l.Beside d s t) (among : l.Beside d s u) :
    Isolated d (.error e, t) (.error e) u where
  answer := rfl
  shape name := by rw [FileTree.shape, FileTree.shape, among.same name, alone.same name]
  entered _ failed := by cases failed

/-- Others change nothing of it. -/
theorem Isolated.stable {alone : Except Error Report × FileTree} {result : Except Error Report} :
    ∀ t u, Isolated d alone result t → l.Beside d t u → Isolated d alone result u := by
  intro t u h meanwhile
  refine ⟨h.answer, fun name => ?_, fun report fine => ?_⟩
  · rw [← h.shape name, FileTree.shape, FileTree.shape, meanwhile.same name]
  · exact ⟨(h.entered report fine).1, (h.entered report fine).2.evolve meanwhile.evolved⟩

/-- The pass of a module among others comes to what it comes to alone. -/
theorem generate_isolated (hd : d ∈ l.directories) (steady : l.SteadyFlashMap config v.subject)
    {result : Except Error Report}
    (run : (generate ws config v d fragments : Pass _).Runs (l.Beside d) l.initial result u) :
    Isolated d ((generate ws config v d fragments : Pass _).perform l.initial) result u := by
  have start : l.Beside d l.initial l.initial := .refl l.fits_initial d
  cases prepared : prepare ws config v fragments with
  | error e =>
      rw [generate_unprepared prepared] at run ⊢
      obtain ⟨rfl, among⟩ := run.of_done (Beside.stable l.initial) start
      exact .of_beside start among
  | ok work =>
      obtain ⟨goesOn, whole, fails, careful⟩ := generate_prepared (d := d) prepared
        (steady.steady prepared)
      obtain ⟨given, settled⟩ := makeDirectories_settled hd
      rw [whole] at run ⊢
      obtain ⟨made, between, making, run⟩ := run.of_bind
      obtain ⟨rfl, among, arrives⟩ := settled _ _ _ l.fits_initial making
      obtain ⟨same, alone, arrives_alone⟩ :=
        settled _ _ _ l.fits_initial (.perform (l.Beside d) (Pass.makeDirectories d) l.initial)
      rw [Pass.perform_bind, same]
      cases made with
      | error fault =>
          rw [fails] at run ⊢
          obtain ⟨rfl, later⟩ := run.of_done (Beside.stable between) (.refl among.fits d)
          exact .of_beside alone (among.trans later)
      | ok _ =>
          have along : l.Alongside d .looking
              ((Pass.makeDirectories d).perform l.initial).2 between :=
            { alone := alone.fits
              among := among.fits
              entered_alone := arrives_alone same
              entered_among := arrives rfl
              agree := fun name => (alone.same name).trans (among.same name).symm }
          obtain ⟨result_eq, along⟩ := careful.mirrors hd along run
          exact ⟨result_eq, fun name => (along.agree name).symm,
            fun _ _ => ⟨along.entered_alone, along.entered_among⟩⟩

end Module

end Layout

end Generation

end FirmwareGlue
