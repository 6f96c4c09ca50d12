import FirmwareGlue.Proofs.Generation.Pass
import FirmwareGlue.Proofs.Storage.Frame

/-!
# What the steps of generation come to

A step either ends without touching the tree, because nothing has to be done or something cannot be
looked at, or it replaces one file. Which of these it is depends on what is read and on the times
that are compared before. Whatever comes of it, nothing but that file and the time of its directory
changes.
-/

namespace FirmwareGlue

open Storage Surroundings FileTree

namespace Storage

variable {path said source copy directory name : String} {content : ByteArray}
  {desk later : Desk} {outcome : Outcome}

theorem tree_replaceWith (path : String) (content : ByteArray) (said : String) (desk : Desk) :
    ((replaceWith path content said : OnTree _) desk).2.tree =
      (desk.tree.replace path content).2 := by
  rw [replaceWith, OnTree.run_bind, OnTree.run_replaceFile]
  cases desk.tree.replace path content with
  | mk answer tree =>
      cases answer with
      | error fault => rfl
      | ok _ => rfl

theorem replaceWith_ok (run : (replaceWith path content said : OnTree _) desk =
      (.ok outcome, later)) :
    outcome = .written ∧ desk.tree.replace path content = (.ok (), later.tree) := by
  rw [replaceWith, OnTree.run_bind, OnTree.run_replaceFile] at run
  cases replaced : desk.tree.replace path content with
  | mk answer tree =>
      rw [replaced] at run
      cases answer with
      | error fault => cases run
      | ok _ =>
          cases run
          exact ⟨rfl, rfl⟩

/-- Only a file that holds the content already is left alone; where it cannot be read, and not
because there is none, nothing is written. -/
theorem writeIfChanged_cases (path : String) (content : ByteArray) (desk : Desk) :
    (desk.tree.read path = .ok content ∧ ∃ later, later.tree = desk.tree ∧
        (writeIfChanged path content : OnTree _) desk = (.ok .unchanged, later)) ∨
      (desk.tree.read path ≠ .ok content ∧ (writeIfChanged path content : OnTree _) desk =
        (replaceWith path content ("wrote " ++ path) : OnTree _) desk) ∨
      (desk.tree.read path ≠ .ok content ∧ ∃ fault,
        (writeIfChanged path content : OnTree _) desk =
          (.error (.readFailed path fault), desk)) := by
  rw [writeIfChanged, OnTree.run_bind, OnTree.run_contentOf]
  cases desk.tree.read path with
  | ok existing =>
      by_cases same : existing.data = content.data
      · simp only [if_pos same, OnTree.run_bind, OnTree.run_record, OnTree.run_pure]
        refine .inl ⟨congrArg _ (ByteArray.ext same), _, ?_, rfl⟩
        rfl
      · refine .inr (.inl ⟨?_, ?_⟩)
        · rintro ⟨⟩
          exact same rfl
        · simp only [if_neg same]
  | error fault =>
      cases fault with
      | notFound => exact .inr (.inl ⟨nofun, rfl⟩)
      | _ => exact .inr (.inr ⟨nofun, _, rfl⟩)

/-! ### Copies -/

theorem copyIfNewer_lost {fault : Fault} (lost : desk.tree.modified source = .error fault) :
    ∃ e, (copyIfNewer source copy : OnTree _) desk = (.error e, desk) := by
  rw [copyIfNewer, OnTree.run_bind, OnTree.run_modifiedAt, lost]
  cases fault with
  | notFound => exact ⟨_, rfl⟩
  | _ => exact ⟨_, rfl⟩

/-- A source that can be looked at is only read if the copy is stale. -/
theorem run_copyIfNewer {time : Nat} (looked : desk.tree.modified source = .ok time) :
    (copyIfNewer source copy : OnTree _) desk =
      if isStale time (desk.tree.modified copy) then
        match desk.tree.read source with
        | .error fault => (.error (.readFailed source fault), desk)
        | .ok content => (replaceWith copy content ("copied " ++ source ++ " to " ++ copy) :
            OnTree _) desk
      else (.ok .unchanged, desk) := by
  rw [copyIfNewer, OnTree.run_bind, OnTree.run_modifiedAt, looked]
  change ((if isStale time (desk.tree.modified copy) then _ else _ : OnTree _) desk) = _
  by_cases stale : isStale time (desk.tree.modified copy) = true
  · rw [if_pos stale, if_pos stale, OnTree.run_bind, OnTree.run_contentOf]
    cases desk.tree.read source with
    | error fault => rfl
    | ok content => rfl
  · rw [if_neg stale, if_neg stale, OnTree.run_pure]

theorem copyIfNewer_ok (run : (copyIfNewer source copy : OnTree _) desk = (.ok outcome, later)) :
    ∃ time, desk.tree.modified source = .ok time ∧
      ((isStale time (desk.tree.modified copy) = false ∧ outcome = .unchanged ∧ later = desk) ∨
        isStale time (desk.tree.modified copy) = true ∧ outcome = .written ∧
          ∃ content, desk.tree.read source = .ok content ∧
            desk.tree.replace copy content = (.ok (), later.tree)) := by
  cases looked : desk.tree.modified source with
  | error fault =>
      obtain ⟨e, failed⟩ := copyIfNewer_lost looked
      rw [failed] at run
      cases run
  | ok time =>
      refine ⟨time, rfl, ?_⟩
      rw [run_copyIfNewer looked] at run
      cases stale : isStale time (desk.tree.modified copy) with
      | false =>
          rw [stale] at run
          cases run
          exact .inl ⟨rfl, rfl, rfl⟩
      | true =>
          cases readable : desk.tree.read source with
          | error fault =>
              rw [stale, readable] at run
              cases run
          | ok content =>
              simp only [stale, readable, if_true] at run
              obtain ⟨written, replaced⟩ := replaceWith_ok run
              exact .inr ⟨rfl, written, content, rfl, replaced⟩

/-! ### Files in a directory -/

section Named

variable (fits : IsFileName name)

include fits

/-- A file in a directory that exists is read as what is at its place. -/
theorem read_join_of_contentAt {t : FileTree} (entered : t.Entered directory (placeOf directory))
    (usable : unusable? (join directory name) = none)
    (held : t.contentAt (placeOf directory ++ [name]) = some content) :
    t.read (join directory name) = .ok content := by
  obtain ⟨time, here⟩ := contentAt_eq_some_iff.1 held
  exact read_ok_iff.2 ⟨_, time, locate_join fits entered usable, here⟩

theorem contentAt_of_read_join {t : FileTree}
    (held : t.read (join directory name) = .ok content) :
    t.contentAt (placeOf directory ++ [name]) = some content := by
  obtain ⟨place, time, found, here⟩ := read_ok_iff.1 held
  rw [eq_placeOf_of_locate fits found] at here
  exact contentAt_eq_some_iff.2 ⟨time, here⟩

theorem confined_replaceWith (directory : String) (content : ByteArray) (said : String)
    (desk : Desk) : Confined directory name desk.tree
      ((replaceWith (join directory name) content said : OnTree _) desk).2.tree := by
  rw [tree_replaceWith]
  exact confined_replace fits desk.tree directory content

theorem confined_writeIfChanged (directory : String) (content : ByteArray) (desk : Desk) :
    Confined directory name desk.tree
      ((writeIfChanged (join directory name) content : OnTree _) desk).2.tree := by
  rcases writeIfChanged_cases (join directory name) content desk with
    ⟨_, later, same, run⟩ | ⟨_, run⟩ | ⟨_, fault, run⟩
  · rw [run, same]
    exact .refl directory name desk.tree
  · rw [run]
    exact confined_replaceWith fits directory content _ desk
  · rw [run]
    exact .refl directory name desk.tree

theorem confined_copyIfNewer (source directory : String) (desk : Desk) :
    Confined directory name desk.tree
      ((copyIfNewer source (join directory name) : OnTree _) desk).2.tree := by
  cases looked : desk.tree.modified source with
  | error fault =>
      obtain ⟨e, run⟩ := copyIfNewer_lost looked
      rw [run]
      exact .refl directory name desk.tree
  | ok time =>
      rw [run_copyIfNewer looked]
      cases isStale time (desk.tree.modified (join directory name)) with
      | false => exact .refl directory name desk.tree
      | true =>
          cases desk.tree.read source with
          | error fault => exact .refl directory name desk.tree
          | ok content =>
              simp only [if_true]
              exact confined_replaceWith fits directory content _ desk

end Named

/-- What a step that succeeds has done to a file in a directory: nothing, where the file held the
content already, and else it has given it the content. -/
inductive Updates (directory name : String) (content : ByteArray) (before after : FileTree) :
    Outcome → Prop where
  | unchanged (same : after = before)
      (held : before.contentAt (placeOf directory ++ [name]) = some content) :
      Updates directory name content before after .unchanged
  | written (unlike : before.contentAt (placeOf directory ++ [name]) ≠ some content)
      (stored : Stores directory name content before after) :
      Updates directory name content before after .written

namespace Updates

variable {s t : FileTree} {way : List String}

theorem confined (h : Updates directory name content s t outcome) :
    Confined directory name s t := by
  cases h with
  | unchanged same _ =>
      rw [same]
      exact .refl directory name s
  | written _ stored => exact stored.toConfined

theorem held (h : Updates directory name content s t outcome) :
    t.contentAt (placeOf directory ++ [name]) = some content := by
  cases h with
  | unchanged same held => rwa [same]
  | written _ stored => exact stored.held

theorem unchanged_iff (h : Updates directory name content s t outcome) :
    outcome = .unchanged ↔ s.contentAt (placeOf directory ++ [name]) = some content := by
  cases h with
  | unchanged _ held => simp [held]
  | written unlike _ => simp [unlike]

theorem eq_of_unchanged (h : Updates directory name content s t .unchanged) : t = s := by
  cases h with
  | unchanged same _ => exact same

/-- Only where the file is written, its directory has another time. -/
theorem spares (h : Updates directory name content s t outcome) :
    Spares (· = placeOf directory ++ [name])
      (fun place => place = placeOf directory ∧ outcome = .written) way s t := by
  cases h with
  | unchanged same _ =>
      rw [same]
      exact .refl _ _ _ s
  | written _ stored => exact stored.spares.mono (fun _ => id) fun _ home => ⟨home, rfl⟩

end Updates

theorem updates_writeIfChanged (fits : IsFileName name)
    (run : (writeIfChanged (join directory name) content : OnTree _) desk = (.ok outcome, later)) :
    Updates directory name content desk.tree later.tree outcome := by
  rcases writeIfChanged_cases (join directory name) content desk with
    ⟨held, _, same, run'⟩ | ⟨unlike, run'⟩ | ⟨_, fault, run'⟩
  · rw [run'] at run
    cases run
    exact .unchanged same (contentAt_of_read_join fits held)
  · rw [run'] at run
    obtain ⟨rfl, replaced⟩ := replaceWith_ok run
    have stored := stores_replace fits replaced
    refine .written (fun held => unlike ?_) stored
    exact read_join_of_contentAt fits stored.entered stored.usable held
  · rw [run'] at run
    cases run

end Storage

namespace Generation

variable {directory name path text source : String} {file : OutputFile} {desk later : Desk}
  {config : Config}

theorem prepare_ok_iff {ws : Workspace} {v : View} {fragments : PcdFragments}
    {rendering : Rendering} {flashMap : Option String} :
    prepare ws config v fragments = .ok (rendering, flashMap) ↔
      Rendering.ofView ws config v fragments = .ok rendering ∧
        flashMapSource config v.subject = .ok flashMap := by
  simp only [prepare, bind_ok_iff]
  constructor
  · rintro ⟨_, rendered, _, found, ⟨⟩⟩
    exact ⟨rendered, found⟩
  · rintro ⟨rendered, found⟩
    exact ⟨_, rendered, _, found, rfl⟩

/-- The flash map is taken from a file of its own name in some directory. -/
theorem flashMapSource_eq {subject : Module}
    (found : flashMapSource config subject = .ok (some source)) :
    ∃ directory, source = join directory Glue.flashMapName := by
  unfold flashMapSource at found
  split at found
  next =>
    split at found
    next directory _ =>
      cases found
      exact ⟨directory, rfl⟩
    next => cases found
  next => cases found

theorem flashMap_of_source {subject : Module}
    (found : flashMapSource config subject = .ok (some source)) : subject.flashMap = true := by
  cases asked : subject.flashMap with
  | true => rfl
  | false => simp [flashMapSource, asked] at found

/-- A generated file is written only if it changes; a record tells which it is. -/
theorem run_emit (path text : String) (desk : Desk) : ∃ records,
    (emit path text : OnTree _) desk =
      (((writeIfChanged path text.toUTF8 : OnTree _) desk).1.map (OutputFile.mk path),
        { ((writeIfChanged path text.toUTF8 : OnTree _) desk).2 with records }) := by
  rw [emit, OnTree.run_bind]
  cases (writeIfChanged path text.toUTF8 : OnTree _) desk with
  | mk answer later =>
      cases answer with
      | error e => exact ⟨later.records, rfl⟩
      | ok outcome => cases outcome <;> exact ⟨_, rfl⟩

theorem run_copyFlashMap (directory source : String) (desk : Desk) :
    (copyFlashMap directory (some source) : OnTree _) desk =
      (((copyIfNewer source (join directory Glue.flashMapCopyName) : OnTree _) desk).1.map
          fun _ => (),
        ((copyIfNewer source (join directory Glue.flashMapCopyName) : OnTree _) desk).2) := by
  rw [copyFlashMap, OnTree.run_bind]
  cases (copyIfNewer source (join directory Glue.flashMapCopyName) : OnTree _) desk with
  | mk answer later =>
      cases answer with
      | error e => rfl
      | ok outcome => rfl

theorem emit_ok (run : (emit path text : OnTree _) desk = (.ok file, later)) :
    file.path = path ∧ ∃ middle, later.tree = middle.tree ∧
      (writeIfChanged path text.toUTF8 : OnTree _) desk = (.ok file.outcome, middle) := by
  obtain ⟨records, emitted⟩ := run_emit path text desk
  rw [emitted] at run
  cases written : (writeIfChanged path text.toUTF8 : OnTree _) desk with
  | mk answer middle =>
      rw [written] at run
      cases answer with
      | error e => cases run
      | ok outcome =>
          cases run
          exact ⟨rfl, middle, rfl, rfl⟩

theorem updates_emit (fits : IsFileName name)
    (run : (emit (join directory name) text : OnTree _) desk = (.ok file, later)) :
    Updates directory name text.toUTF8 desk.tree later.tree file.outcome := by
  obtain ⟨_, middle, same, written⟩ := emit_ok run
  rw [same]
  exact updates_writeIfChanged fits written

theorem confined_emit (fits : IsFileName name) (directory text : String) (desk : Desk) :
    Confined directory name desk.tree
      ((emit (join directory name) text : OnTree _) desk).2.tree := by
  obtain ⟨records, emitted⟩ := run_emit (join directory name) text desk
  rw [emitted]
  exact confined_writeIfChanged fits directory text.toUTF8 desk

/-- A file that holds its text is left alone. -/
theorem emit_held (held : desk.tree.read path = .ok text.toUTF8) : ∃ later,
    later.tree = desk.tree ∧
      (emit path text : OnTree _) desk = (.ok ⟨path, .unchanged⟩, later) := by
  obtain ⟨records, emitted⟩ := run_emit path text desk
  rw [emitted]
  rcases writeIfChanged_cases path text.toUTF8 desk with
    ⟨_, after, same, run⟩ | ⟨unlike, _⟩ | ⟨unlike, _⟩
  · rw [run]
    refine ⟨_, ?_, rfl⟩
    exact same
  · exact absurd held unlike
  · exact absurd held unlike

end Generation

end FirmwareGlue
