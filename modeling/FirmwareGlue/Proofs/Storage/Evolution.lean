import FirmwareGlue.Proofs.FirstError
import FirmwareGlue.Storage.FileTree

/-!
# What changes in a file tree

Operations on a file tree that only make directories and replace files change little: nothing is
removed, no directory becomes a file or a file a directory, and a file only gets a content that it
may get. The times of directories count as nothing. A tree that has evolved this way can be followed
wherever the tree before could be, and to the same places.
-/

namespace FirmwareGlue.Storage

/-- What may become of what is at a place: a directory may be made where nothing is, and its time
may change; where no directory is, a file may get a content that is allowed. -/
inductive Change (allowed : ByteArray → Prop) : Option Entry → Option Entry → Prop where
  | kept (entry : Option Entry) : Change allowed entry entry
  | touched (before after : Nat) :
      Change allowed (some (.directory before)) (some (.directory after))
  | made (after : Nat) : Change allowed none (some (.directory after))
  | written {entry : Option Entry} {content : ByteArray} (after : Nat)
      (free : ∀ before, entry ≠ some (.directory before)) (fine : allowed content) :
      Change allowed entry (some (.file content after))

namespace Change

variable {allowed more : ByteArray → Prop} {first second third : Option Entry}

/-- What a file has got may be said of what it holds. -/
theorem strengthen (h : Change allowed first second)
    (stronger : ∀ content time, second = some (.file content time) →
      allowed content → more content) :
    Change more first second := by
  cases h with
  | kept => exact .kept _
  | touched before after => exact .touched before after
  | made after => exact .made after
  | written after free fine => exact .written after free (stronger _ after rfl fine)

theorem mono (h : Change allowed first second)
    (weaker : ∀ content, allowed content → more content) : Change more first second :=
  h.strengthen fun content _ _ => weaker content

theorem trans (h : Change allowed first second) (later : Change allowed second third) :
    Change allowed first third := by
  cases later with
  | kept => exact h
  | touched before after =>
      cases h with
      | kept => exact .touched before after
      | touched start _ => exact .touched start after
      | made _ => exact .made after
  | made after =>
      cases h
      exact .made after
  | written after free fine =>
      refine .written after ?_ fine
      rintro start rfl
      cases h with
      | kept => exact free start rfl
      | touched _ time => exact free time rfl
      | written _ unlike _ => exact unlike start rfl

/-- A directory stays a directory. -/
theorem directory {time : Nat} (h : Change allowed (some (.directory time)) second) :
    ∃ after, second = some (.directory after) := by
  cases h with
  | kept => exact ⟨time, rfl⟩
  | touched _ after => exact ⟨after, rfl⟩
  | written _ free _ => exact absurd rfl (free time)

/-- Nothing is removed. -/
theorem present (h : Change allowed first second) (there : first ≠ none) : second ≠ none := by
  rintro rfl
  cases h
  exact there rfl

/-- A file stays a file. -/
theorem file {content : ByteArray} {time : Nat}
    (h : Change allowed (some (.file content time)) second) :
    ∃ content after, second = some (.file content after) := by
  cases h with
  | kept => exact ⟨content, time, rfl⟩
  | written after _ _ => exact ⟨_, after, rfl⟩

/-- Where no content is allowed, files stay as they are. -/
theorem same_file {content : ByteArray} {time : Nat}
    (h : Change (fun _ => False) first (some (.file content time))) :
    first = some (.file content time) := by
  cases h with
  | kept => rfl
  | written _ _ fine => exact fine.elim

end Change

namespace FileTree

/-- A tree comes from another by making directories and writing what is allowed at each place. -/
def Evolves (allowed : Place → ByteArray → Prop) (before after : FileTree) : Prop :=
  ∀ place, Change (allowed place) (before.at? place) (after.at? place)

/-- A tree comes from another by making directories only. -/
abbrev Grows : FileTree → FileTree → Prop :=
  Evolves fun _ _ => False

variable {allowed more : Place → ByteArray → Prop} {s t u : FileTree} {place goal : Place}

theorem Evolves.refl (allowed : Place → ByteArray → Prop) (t : FileTree) : Evolves allowed t t :=
  fun _ => .kept _

theorem Evolves.trans (h : Evolves allowed s t) (later : Evolves allowed t u) :
    Evolves allowed s u :=
  fun place => (h place).trans (later place)

theorem Evolves.mono (h : Evolves allowed s t)
    (weaker : ∀ place content, allowed place content → more place content) : Evolves more s t :=
  fun place => (h place).mono (weaker place)

theorem Grows.evolves (h : Grows s t) : Evolves allowed s t :=
  h.mono fun _ _ never => never.elim

@[simp] theorem at?_set (t : FileTree) (place other : Place) (entry : Entry) :
    (t.set place entry).at? other = if other = place then some entry else t.at? other :=
  Table.find?_insert ..

@[simp] theorem at?_tick (t : FileTree) (place : Place) : t.tick.at? place = t.at? place := rfl

theorem at?_touchNow_self {time : Nat} (here : t.at? place = some (.directory time)) :
    (t.touchNow place).at? place = some (.directory t.clock) := by
  simp [touchNow, here, Entry.touched]

theorem at?_touchNow_other (other : goal ≠ place) :
    (t.touchNow place).at? goal = t.at? goal := by
  rw [touchNow]
  split
  next => simp [other]
  next => rfl

/-! ### Following paths -/

/-- The place that one part of a path leads to from a directory. -/
def onward (place : Place) (part : String) : Except Fault Place :=
  if part = "." then .ok place
  else if part = ".." then .ok place.dropLast
  else if isTooLong part then .error .nameTooLong
  else .ok (place ++ [part])

theorem follow_directory {time : Nat} (here : t.at? place = some (.directory time)) (part : String)
    (rest : List String) :
    t.follow place (part :: rest) = onward place part >>= fun next => t.follow next rest := by
  simp only [FileTree.follow, here, onward]
  repeat' split
  all_goals rfl

theorem follow_cons_ok_iff {part : String} {rest : List String} :
    t.follow place (part :: rest) = .ok goal ↔ (∃ time, t.at? place = some (.directory time)) ∧
      ∃ next, onward place part = .ok next ∧ t.follow next rest = .ok goal := by
  cases here : t.at? place with
  | none => simp [FileTree.follow, here]
  | some entry =>
      cases entry with
      | directory time => simp [follow_directory here, bind_ok_iff]
      | file content time => simp [FileTree.follow, here]

/-- Where a path can be followed, it can be followed after the tree has evolved. -/
theorem Evolves.follow (h : Evolves allowed s t) {parts : List String}
    (reached : s.follow place parts = .ok goal) : t.follow place parts = .ok goal := by
  induction parts generalizing place with
  | nil => exact reached
  | cons part rest ih =>
      obtain ⟨⟨time, here⟩, next, onto, further⟩ := follow_cons_ok_iff.1 reached
      have still := h place
      rw [here] at still
      exact follow_cons_ok_iff.2 ⟨still.directory, next, onto, ih further⟩

/-- A path that ends with a dot leads to a directory. -/
theorem directory_of_follow {parts : List String}
    (reached : t.follow place (parts ++ ["."]) = .ok goal) :
    ∃ time, t.at? goal = some (.directory time) := by
  induction parts generalizing place with
  | nil =>
      obtain ⟨here, next, onto, further⟩ := follow_cons_ok_iff.1 reached
      cases onto
      cases further
      exact here
  | cons part rest ih =>
      obtain ⟨_, next, _, further⟩ := follow_cons_ok_iff.1 reached
      exact ih further

/-! ### Operations -/

/-- A directory that changes. -/
theorem grows_touchNow {time : Nat} (here : t.at? place = some (.directory time)) :
    Grows t (t.touchNow place) := by
  intro other
  by_cases same : other = place
  · rw [same, at?_touchNow_self here, here]
    exact .touched time t.clock
  · rw [at?_touchNow_other same]
    exact .kept _

theorem append_ne (parent : Place) (name : String) : parent ≠ parent ++ [name] := by
  intro same
  have longer := congrArg List.length same
  simp at longer

/-- A directory is made in one that exists. -/
theorem grows_addDirectory {parent : Place} {name : String} {time : Nat}
    (here : t.at? parent = some (.directory time)) (absent : t.at? (parent ++ [name]) = none) :
    Grows t (t.addDirectory (parent ++ [name])) := by
  have made : Grows t (t.set (parent ++ [name]) (.directory t.clock)) := by
    intro other
    rw [at?_set]
    split
    next same =>
      rw [same, absent]
      exact .made t.clock
    next => exact .kept _
  have still : (t.set (parent ++ [name]) (.directory t.clock)).at? parent =
      some (.directory time) := by
    rw [at?_set, if_neg (append_ne parent name), here]
  have touched := grows_touchNow still
  rw [addDirectory, List.dropLast_concat]
  intro other
  exact (made other).trans (touched other)

theorem grows_makeDirectory (t : FileTree) (parts : List String) :
    Grows t (t.makeDirectory parts).2 := by
  rw [makeDirectory]
  split
  next => exact .refl _ t
  next => exact .refl _ t
  next parent name reached last =>
    obtain ⟨time, here⟩ := directory_of_follow reached
    split
    next => exact .refl _ t
    next =>
      split
      next => exact .refl _ t
      next =>
        split
        next => exact .refl _ t
        next absent => exact grows_addDirectory here absent

theorem snd_ensureDirectory (t : FileTree) (parts : List String) :
    (t.ensureDirectory parts).2 = (t.makeDirectory parts).2 := by
  rw [ensureDirectory]
  split
  next _ result => rw [result]
  next => rfl

/-- What making one directory does, and doing it again keeps up, is done by making several. -/
theorem makeFirst_induct {R : FileTree → FileTree → Prop} {leads : List (List String)}
    (refl : ∀ t, R t t) (trans : ∀ {s t u}, R s t → R t u → R s u)
    (one : ∀ t, ∀ parts ∈ leads, R t (t.makeDirectory parts).2) (t : FileTree) :
    R t (t.makeFirst leads).2 := by
  induction leads generalizing t with
  | nil => exact refl t
  | cons parts leads ih =>
      have first (s : FileTree) : R s (s.ensureDirectory parts).2 := by
        rw [snd_ensureDirectory]
        exact one s parts List.mem_cons_self
      have others := ih fun s other listed => one s other (List.mem_cons_of_mem _ listed)
      have start := first t
      rw [makeFirst]
      split
      next s result =>
        rw [result] at start
        have on_the_way := others s
        split
        next u answer =>
          rw [answer] at on_the_way
          exact trans (trans start on_the_way) (first u)
        next => exact trans start on_the_way
      next => exact start

/-- Making directories makes directories only, even where it fails. -/
theorem grows_makeDirectories (t : FileTree) (path : String) :
    Grows t (t.makeDirectories path).2 := by
  rw [makeDirectories]
  split
  next => exact .refl _ t
  next =>
    exact makeFirst_induct (.refl _) .trans (fun t parts _ => grows_makeDirectory t parts) t

theorem approach_ok_iff {path name : String} {parent : Place} :
    t.approach path = .ok (parent, name) ↔ unusable? path = none ∧
      (partsOf path).getLast? = some name ∧
      t.follow [] ((partsOf path).dropLast ++ ["."]) = .ok parent := by
  rw [approach]
  cases unusable? path with
  | some fault => simp
  | none =>
      cases (partsOf path).getLast? with
      | none => simp
      | some last =>
          cases t.follow [] ((partsOf path).dropLast ++ ["."]) with
          | error fault => simp [Except.map]
          | ok reached => simp [Except.map, and_comm]

/-- What has to hold for a file to be renamed to a path. -/
structure Receives (t : FileTree) (path : String) (parent : Place) (name : String) : Prop where
  approached : t.approach path = .ok (parent, name)
  named : name ≠ "." ∧ name ≠ ".."
  short : isTooLong name = false
  plain : endsWithSlash path = false
  free : ∀ time, t.at? (parent ++ [name]) ≠ some (.directory time)

theorem destination_ok_iff {path : String} : t.destination path = .ok place ↔
    ∃ parent name, t.Receives path parent name ∧ place = parent ++ [name] := by
  rw [destination, bind_ok_iff]
  constructor
  · rintro ⟨⟨parent, name⟩, approached, reached⟩
    simp only at reached
    split at reached
    next => cases reached
    next named =>
      split at reached
      next => cases reached
      next short =>
        split at reached
        next => cases reached
        next plain =>
          split at reached
          next => cases reached
          next free =>
            cases reached
            simp only [Bool.or_eq_true, decide_eq_true_eq, not_or] at named
            exact ⟨parent, name, ⟨approached, named, by simpa using short, by simpa using plain,
              free⟩, rfl⟩
  · rintro ⟨parent, name, h, rfl⟩
    refine ⟨(parent, name), h.approached, ?_⟩
    simp only [h.named.1, h.named.2, h.short, h.plain, decide_false, Bool.or_self,
      Bool.false_eq_true, if_false]
    split
    next time here => exact absurd here (h.free time)
    next => rfl

/-- A destination stays one, once there is a file. -/
theorem Evolves.destination (h : Evolves allowed s t) {path : String} {content : ByteArray}
    {time : Nat} (reached : s.destination path = .ok place)
    (here : s.at? place = some (.file content time)) : t.destination path = .ok place := by
  obtain ⟨parent, name, receives, rfl⟩ := destination_ok_iff.1 reached
  obtain ⟨usable, last, followed⟩ := approach_ok_iff.1 receives.approached
  have still := h (parent ++ [name])
  rw [here] at still
  obtain ⟨_, _, there⟩ := still.file
  refine destination_ok_iff.2 ⟨parent, name, ⟨?_, receives.named, receives.short, receives.plain,
    by simp [there]⟩, rfl⟩
  exact approach_ok_iff.2 ⟨usable, last, h.follow followed⟩

theorem evolves_putFile (content : ByteArray)
    (free : ∀ time, t.at? place ≠ some (.directory time)) :
    Evolves (fun other c => other = place ∧ c = content) t (t.putFile place content) := by
  intro other
  rw [putFile, at?_tick, at?_set]
  split
  next same =>
    rw [same]
    exact .written t.clock free ⟨rfl, rfl⟩
  next => exact .kept _

theorem at?_putFile_self (t : FileTree) (place : Place) (content : ByteArray) :
    (t.putFile place content).at? place = some (.file content t.clock) := by
  simp [putFile]

/-- A destination is one still when the file is there. -/
theorem destination_putFile {path : String} (reached : t.destination path = .ok place)
    (content : ByteArray) : (t.putFile place content).destination path = .ok place := by
  obtain ⟨parent, name, receives, rfl⟩ := destination_ok_iff.1 reached
  obtain ⟨usable, last, followed⟩ := approach_ok_iff.1 receives.approached
  have put := evolves_putFile content receives.free
  refine destination_ok_iff.2 ⟨parent, name, ⟨?_, receives.named, receives.short, receives.plain,
    by simp [at?_putFile_self]⟩, rfl⟩
  exact approach_ok_iff.2 ⟨usable, last, put.follow followed⟩

theorem Evolves.tick (h : Evolves allowed s t) : Evolves allowed s t.tick :=
  fun place => h place

end FileTree

end FirmwareGlue.Storage
