import FirmwareGlue.Proofs.Storage.Directories
import FirmwareGlue.Proofs.Text.Pieces

/-!
# Files in a directory

In a directory that a path leads to, a file is found by joining its name to the path. What reading
it comes to depends on what the directory holds under that name, and on nothing else in the tree. A
file that nothing is written to is read as before, however the tree has evolved.
-/

namespace FirmwareGlue

namespace Storage

/-- A name that a file in a directory can have. -/
structure IsFileName (name : String) : Prop where
  some_character : name ≠ ""
  whole : '/' ∉ name.toList
  named : name ≠ "." ∧ name ≠ ".."
  short : isTooLong name = false

section Join

variable {name : String} (fits : IsFileName name) (directory : String)

include fits

/-- A joined name is at the end of the path, alone or behind a slash. -/
theorem join_cases : ∃ lead, (join directory name).toList = lead ++ name.toList ∧
    (directory = "" ∧ lead = [] ∨
      ∃ front, lead = front ++ ['/'] ∧
        (directory.toList = front ∨ directory.toList = front ++ ['/'])) := by
  have relative : name.toList.head? ≠ some '/' := fun slash =>
    fits.whole (List.mem_of_head? slash)
  rw [join, if_neg relative]
  split
  next bare => exact ⟨[], rfl, .inl ⟨bare, rfl⟩⟩
  next =>
    split
    next ends =>
      obtain ⟨front, last⟩ := List.getLast?_eq_some_iff.1 ends
      exact ⟨directory.toList, by simp, .inr ⟨front, last, .inr last⟩⟩
    next => exact ⟨directory.toList ++ ['/'], by simp, .inr ⟨directory.toList, rfl, .inl rfl⟩⟩

theorem splitAt_slash_name : (Text.splitBy (· == '/') name.toList).map String.ofList = [name] := by
  rw [Text.splitBy_whole, List.map_singleton, String.ofList_toList]
  intro c member
  have other : c ≠ '/' := fun slash => fits.whole (slash ▸ member)
  simpa using other

theorem partsOf_join : partsOf (join directory name) = partsOf directory ++ [name] := by
  obtain ⟨lead, joined, ⟨rfl, rfl⟩ | ⟨front, rfl, parts⟩⟩ := join_cases fits directory
  · rw [partsOf, Text.splitAt, joined, List.nil_append, splitAt_slash_name fits]
    simp [partsOf, Text.splitAt, Text.splitBy, fits.some_character]
  · have split : partsOf (join directory name) =
        ((Text.splitBy (· == '/') front).map String.ofList).filter (· ≠ "") ++ [name] := by
      rw [partsOf, Text.splitAt, joined, List.append_assoc, List.singleton_append,
        Text.splitBy_append_cons (by simp), List.map_append, splitAt_slash_name fits,
        List.filter_append]
      simp [fits.some_character]
    rw [split]
    congr 1
    rcases parts with same | same
    · rw [partsOf, Text.splitAt, same]
    · rw [partsOf, Text.splitAt, same, Text.splitBy_append_cons (by simp)]
      simp [Text.splitBy]

theorem placeOf_join : placeOf (join directory name) = placeOf directory ++ [name] := by
  rw [placeOf, partsOf_join fits, List.foldl_append, placeOf]
  simp [advance, fits.named.1, fits.named.2]

/-- A path stays level when a name is joined to it. -/
theorem FileTree.Level.join {t : FileTree} {directory : String} (h : t.Level directory) :
    t.Level (join directory name) := by
  obtain ⟨lead, rest, goal, split, reached, level⟩ := h
  refine ⟨lead, rest ++ [name], goal, ?_, reached, ?_⟩
  · rw [partsOf_join fits, split, List.append_assoc]
  · simp only [List.mem_append, List.mem_singleton, not_or]
    exact ⟨level, Ne.symm fits.named.2⟩

theorem join_ne_empty : join directory name ≠ "" := by
  intro same
  obtain ⟨lead, joined, _⟩ := join_cases fits directory
  rw [same] at joined
  have empty := (List.append_eq_nil_iff.1 joined.symm).2
  exact fits.some_character (String.toList_eq_nil_iff.1 empty)

theorem endsWithSlash_join : endsWithSlash (join directory name) = false := by
  obtain ⟨lead, joined, _⟩ := join_cases fits directory
  have letters : name.toList ≠ [] := fun empty =>
    fits.some_character (String.toList_eq_nil_iff.1 empty)
  rw [endsWithSlash, joined, List.getLast?_append_of_ne_nil _ letters, decide_eq_false_iff_not]
  exact fun slash => fits.whole (List.mem_of_getLast? slash)

theorem parentParts_join : parentParts (join directory name) = withoutDots (partsOf directory) := by
  rw [parentParts, partsOf_join fits, FileTree.withoutDots_concat fits.named.1,
    List.dropLast_concat]

end Join

theorem undotted_withoutDots (parts : List String) :
    undotted (withoutDots parts) = undotted parts := by
  induction parts using List.reverseRecOn with
  | nil => rfl
  | append_singleton parts last ih =>
      by_cases dot : last = "."
      · rw [dot, FileTree.withoutDots_dot, ih, undotted_append, undotted_dot, List.append_nil]
      · rw [FileTree.withoutDots_concat dot]

/-- What a file holds; a directory holds nothing. -/
def Entry.content? : Entry → Option ByteArray
  | .directory _ => none
  | .file content _ => some content

namespace FileTree

variable {s t : FileTree} {directory name : String} {home : Place}

/-- What is at a place, apart from times. -/
def shape (t : FileTree) (place : Place) : Option (Option ByteArray) :=
  (t.at? place).map Entry.content?

theorem shape_eq_directory_iff {place : Place} :
    t.shape place = some none ↔ t.HasDirectory place := by
  unfold shape HasDirectory
  cases t.at? place with
  | none => simp
  | some entry => cases entry <;> simp [Entry.content?]

theorem shape_eq_file_iff {place : Place} {content : ByteArray} :
    t.shape place = some (some content) ↔ ∃ time, t.at? place = some (.file content time) := by
  unfold shape
  cases t.at? place with
  | none => simp
  | some entry => cases entry <;> simp [Entry.content?]

def contentAt (t : FileTree) (place : Place) : Option ByteArray :=
  (t.shape place).join

/-- A path leads to a directory. -/
def Entered (t : FileTree) (path : String) (home : Place) : Prop :=
  t.follow [] (partsOf path ++ ["."]) = .ok home

theorem Entered.hasDirectory (h : t.Entered directory home) : t.HasDirectory home :=
  directory_of_follow h

theorem Entered.eq_placeOf (h : t.Entered directory home) : home = placeOf directory := by
  rw [eq_foldl_of_follow h, foldl_dot, placeOf]

theorem Entered.evolve {allowed : Place → ByteArray → Prop} (h : s.Entered directory home)
    (evolved : Evolves allowed s t) : t.Entered directory home :=
  evolved.follow h

theorem Entered.touchNow (entered : t.Entered directory home) :
    (t.touchNow home).Entered directory home := by
  obtain ⟨time, here⟩ := entered.hasDirectory
  exact entered.evolve (grows_touchNow here)

/-- A directory that exists is made without doing anything. -/
theorem makeDirectories_of_entered (usable : unusable? directory = none)
    (entered : t.Entered directory home) : t.makeDirectories directory = (.ok (), t) := by
  have ensured : t.ensureDirectory (partsOf directory) = (.ok (), t) := by
    simp [ensureDirectory, makeDirectory_of_follow entered, leadsToDirectory_of_ok entered]
  simp [makeDirectories, usable, leadingParts, makeFirst, ensured]

/-- What reading comes to where something is or is not. -/
def readShape : Option (Option ByteArray) → Except Fault ByteArray
  | none => .error .notFound
  | some none => .error .isADirectory
  | some (some content) => .ok content

theorem read_eq (t : FileTree) (path : String) :
    t.read path = t.locate path >>= fun place => readShape (t.shape place) := by
  rw [read, FileTree.entry, bind_assoc]
  refine congrArg (bind _) (funext fun place => ?_)
  unfold shape
  cases t.at? place with
  | none => rfl
  | some entry => cases entry <;> rfl

/-- A directory cannot be read as a file. -/
theorem read_of_hasDirectory {path : String} {place : Place} (found : t.locate path = .ok place)
    (here : t.HasDirectory place) : t.read path = .error .isADirectory := by
  rw [read_eq, found, ok_bind, shape_eq_directory_iff.2 here, readShape]

def timeAt (t : FileTree) (place : Place) : Except Fault Nat :=
  ((t.at? place).map Entry.modified).elim (.error .notFound) .ok

theorem modified_eq (t : FileTree) (path : String) :
    t.modified path = t.locate path >>= t.timeAt := by
  unfold modified FileTree.entry
  cases t.locate path with
  | error fault => rfl
  | ok place =>
      simp only [bind, Except.bind, timeAt]
      cases t.at? place <;> rfl

theorem modified_of_locate {path : String} {place : Place} {entry : Entry}
    (found : t.locate path = .ok place) (here : t.at? place = some entry) :
    t.modified path = .ok entry.modified := by
  simp only [modified_eq, found, bind, Except.bind, timeAt, here, Option.map_some, Option.elim_some]

section Named

variable (fits : IsFileName name)

include fits

theorem approach_join (entered : t.Entered directory home)
    (usable : unusable? (join directory name) = none) :
    t.approach (join directory name) = .ok (home, name) := by
  refine approach_ok_iff.2 ⟨usable, ?_, ?_⟩
  · simp [partsOf_join fits]
  · rw [partsOf_join fits, List.dropLast_concat]
    exact entered

theorem locate_join (entered : t.Entered directory home)
    (usable : unusable? (join directory name) = none) :
    t.locate (join directory name) = .ok (home ++ [name]) := by
  rw [locate, if_neg (join_ne_empty fits directory), endsWithSlash_join fits, partsOf_join fits]
  simp only [usable, Bool.false_eq_true, if_false, List.append_nil]
  rw [follow_lead entered, follow_name fits.named entered.hasDirectory, fits.short]
  rfl

theorem locate_join_of_unusable (t : FileTree) {fault : Fault}
    (unusable : unusable? (join directory name) = some fault) :
    t.locate (join directory name) = .error fault := by
  simp [locate, join_ne_empty fits, unusable]

/-- A file in a directory is read to the same effect wherever the directory holds the same under
its name. -/
theorem read_join_congr (before : s.Entered directory home) (after : t.Entered directory home)
    (same : s.shape (home ++ [name]) = t.shape (home ++ [name])) :
    s.read (join directory name) = t.read (join directory name) := by
  rw [read_eq, read_eq]
  cases usable : unusable? (join directory name) with
  | none =>
      rw [locate_join fits before usable, locate_join fits after usable]
      exact congrArg readShape same
  | some fault =>
      rw [locate_join_of_unusable fits s usable, locate_join_of_unusable fits t usable]
      rfl

theorem modified_join_congr (before : s.Entered directory home) (after : t.Entered directory home)
    (same : s.at? (home ++ [name]) = t.at? (home ++ [name])) :
    s.modified (join directory name) = t.modified (join directory name) := by
  rw [modified_eq, modified_eq]
  cases usable : unusable? (join directory name) with
  | none =>
      rw [locate_join fits before usable, locate_join fits after usable]
      simp only [bind, Except.bind, timeAt, same]
  | some fault =>
      rw [locate_join_of_unusable fits s usable, locate_join_of_unusable fits t usable]
      rfl

end Named

/-! ### Files that stay -/

section Path

variable {allowed : Place → ByteArray → Prop} {path : String} {place : Place} {content : ByteArray}

/-- A path that leads to a place leads there after the tree has evolved. -/
theorem Evolves.locate (h : Evolves allowed s t) (found : s.locate path = .ok place) :
    t.locate path = .ok place := by
  unfold FileTree.locate at found ⊢
  split at found
  next => cases found
  next some_path =>
    rw [if_neg some_path]
    cases unusable : unusable? path with
    | some fault => simp [unusable] at found
    | none =>
        simp only [unusable] at found ⊢
        exact h.follow found

/-- What has a time has some time after the tree has evolved. -/
theorem Evolves.modified_ok {time : Nat} (h : Evolves allowed s t)
    (timed : s.modified path = .ok time) : ∃ later, t.modified path = .ok later := by
  obtain ⟨place, found, here⟩ := bind_ok_iff.1 (modified_eq s path ▸ timed)
  have there : s.at? place ≠ none := by
    intro lacking
    rw [timeAt, lacking] at here
    cases here
  obtain ⟨entry, after⟩ := Option.ne_none_iff_exists'.1 ((h place).present there)
  exact ⟨_, modified_of_locate (h.locate found) after⟩

theorem read_ok_iff : t.read path = .ok content ↔
    ∃ place time, t.locate path = .ok place ∧ t.at? place = some (.file content time) := by
  rw [read_eq, bind_ok_iff]
  constructor
  · rintro ⟨place, found, here⟩
    cases there : t.shape place with
    | none => simp [there, readShape] at here
    | some entry =>
        cases entry with
        | none => simp [there, readShape] at here
        | some held =>
            obtain ⟨time, there⟩ := shape_eq_file_iff.1 there
            simp only [shape, there, Option.map_some, Entry.content?, readShape,
              Except.ok.injEq] at here
            exact ⟨place, time, found, here ▸ there⟩
  · rintro ⟨place, time, found, here⟩
    refine ⟨place, found, ?_⟩
    simp [shape, here, Entry.content?, readShape]

theorem Evolves.same_file (h : Evolves allowed s t) {time : Nat}
    (here : s.at? place = some (.file content time)) (kept : ∀ c, ¬ allowed place c) :
    t.at? place = some (.file content time) := by
  have change : Change (fun _ => False) _ _ := (h place).mono kept
  rw [here] at change
  obtain ⟨other, after, there⟩ := change.file
  rw [there] at change ⊢
  have same := change.same_file
  rw [← same]

theorem Evolves.contentAt (h : Evolves allowed s t) (kept : ∀ c, ¬ allowed place c) :
    t.contentAt place = s.contentAt place := by
  have change : Change (fun _ => False) _ _ := (h place).mono kept
  unfold FileTree.contentAt shape
  generalize s.at? place = first at change
  generalize t.at? place = second at change
  cases change with
  | kept => rfl
  | touched => rfl
  | made => rfl
  | written _ _ fine => exact fine.elim

/-- A file that nothing is written to is read as before. -/
theorem Evolves.read (h : Evolves allowed s t) (before : s.read path = .ok content)
    (kept : ∀ place, s.locate path = .ok place → ∀ c, ¬ allowed place c) :
    t.read path = .ok content := by
  obtain ⟨place, time, found, here⟩ := read_ok_iff.1 before
  exact read_ok_iff.2 ⟨place, time, h.locate found, h.same_file here (kept place found)⟩

variable (fits : IsFileName name)

include fits

/-- The place of a file in a directory is known from the path. -/
theorem eq_placeOf_of_locate (found : t.locate (join directory name) = .ok place) :
    place = placeOf directory ++ [name] := by
  unfold FileTree.locate at found
  rw [if_neg (join_ne_empty fits directory), endsWithSlash_join fits] at found
  cases usable : unusable? (join directory name) with
  | some fault => simp [usable] at found
  | none =>
      simp only [usable, Bool.false_eq_true, if_false, List.append_nil] at found
      rw [eq_foldl_of_follow found, ← placeOf, placeOf_join fits]

/-- A file that can be read is in a directory that the path leads to. -/
theorem entered_of_read (readable : t.read (join directory name) = .ok content) :
    ∃ home, t.Entered directory home ∧ unusable? (join directory name) = none ∧
      t.shape (home ++ [name]) = some (some content) := by
  obtain ⟨place, time, found, here⟩ := read_ok_iff.1 readable
  have locate_eq := found
  unfold FileTree.locate at found
  rw [if_neg (join_ne_empty fits directory), endsWithSlash_join fits, partsOf_join fits] at found
  cases usable : unusable? (join directory name) with
  | some fault => simp [usable] at found
  | none =>
      simp only [usable, Bool.false_eq_true, if_false, List.append_nil] at found
      obtain ⟨home, entered⟩ := follow_half (by simp) found
      rw [locate_join fits entered usable] at locate_eq
      cases locate_eq
      exact ⟨home, entered, rfl, shape_eq_file_iff.2 ⟨time, here⟩⟩

end Path

end FileTree

end Storage

end FirmwareGlue
