import FirmwareGlue.Proofs.Storage.Access

/-!
# Replacing a file

A file is replaced in two steps: its new content is written beside it, and then takes its place.
Either step finds its own way to the directory of the file. The first changes no more than the time
of that directory, and the second gives the file its new content or fails. What both come to depends
on what the directory holds under the name of the file, and on nothing else in the tree; and the
other names in it are left as they were.
-/

namespace FirmwareGlue.Storage.FileTree

variable {s t u : FileTree} {path directory name : String} {home place other : Place}
  {fault : Fault}

/-- Writes the new content of a file beside it. Nobody else knows the name that it has there, so all
that is seen of it is the time of the directory. -/
def writeBeside (t : FileTree) (path : String) : Except Fault Unit × FileTree :=
  match unusable? (join rootPath (interimPath path)), t.follow [] (parentParts path ++ ["."]) with
  | some fault, _ | none, .error fault => (.error fault, t)
  | none, .ok parent => (.ok (), t.touchNow parent)

/-- Puts what has been written beside a file in its place. -/
def moveIntoPlace (t : FileTree) (path : String) (content : ByteArray) :
    Except Fault Unit × FileTree :=
  match t.destination path with
  | .error fault => (.error fault, t.tick)
  | .ok place => (.ok (), t.putFile place content)

theorem clock_touchNow (t : FileTree) (place : Place) : (t.touchNow place).clock = t.clock := by
  rw [touchNow]
  split <;> rfl

/-! ### Writing beside a file -/

theorem writeBeside_cases (t : FileTree) (path : String) :
    (∃ fault, t.writeBeside path = (.error fault, t)) ∨
      ∃ parent, t.follow [] (parentParts path ++ ["."]) = .ok parent ∧
        t.writeBeside path = (.ok (), t.touchNow parent) := by
  unfold writeBeside
  cases unusable? (join rootPath (interimPath path)) with
  | some fault => exact .inl ⟨fault, rfl⟩
  | none =>
      cases t.follow [] (parentParts path ++ ["."]) with
      | error fault => exact .inl ⟨fault, rfl⟩
      | ok parent => exact .inr ⟨parent, rfl, rfl⟩

theorem clock_writeBeside (t : FileTree) (path : String) :
    (t.writeBeside path).2.clock = t.clock := by
  rcases writeBeside_cases t path with ⟨fault, blocked⟩ | ⟨parent, _, beside⟩
  · rw [blocked]
  · rw [beside, clock_touchNow]

theorem grows_writeBeside (t : FileTree) (path : String) : Grows t (t.writeBeside path).2 := by
  rcases writeBeside_cases t path with ⟨fault, blocked⟩ | ⟨parent, reached, beside⟩
  · rw [blocked]
    exact .refl _ t
  · obtain ⟨time, here⟩ := directory_of_follow reached
    rw [beside]
    exact grows_touchNow here

/-- Nothing new is in the tree yet. -/
theorem at?_writeBeside_eq_none : (t.writeBeside path).2.at? place = none ↔ t.at? place = none := by
  rcases writeBeside_cases t path with ⟨fault, blocked⟩ | ⟨parent, reached, beside⟩
  · rw [blocked]
  · rw [beside]
    obtain ⟨time, here⟩ := directory_of_follow reached
    by_cases same : parent = place
    · rw [← same, at?_touchNow_self here, here]
      simp
    · rw [at?_touchNow_other (Ne.symm same)]

theorem WellFormed.writeBeside (h : t.WellFormed) (path : String) :
    (t.writeBeside path).2.WellFormed :=
  h.evolve (grows_writeBeside t path) fun _ _ fresh there =>
    absurd (at?_writeBeside_eq_none.2 fresh) there

/-! ### Moving into place -/

section Move

variable {content : ByteArray}

theorem moveIntoPlace_of_ok (found : t.destination path = .ok place) (content : ByteArray) :
    t.moveIntoPlace path content = (.ok (), t.putFile place content) := by
  simp only [moveIntoPlace, found]

theorem moveIntoPlace_of_error (refused : t.destination path = .error fault)
    (content : ByteArray) : t.moveIntoPlace path content = (.error fault, t.tick) := by
  simp only [moveIntoPlace, refused]

theorem evolves_moveIntoPlace (t : FileTree) (path : String) (content : ByteArray) :
    Evolves (fun place c => t.destination path = .ok place ∧ c = content) t
      (t.moveIntoPlace path content).2 := by
  cases found : t.destination path with
  | error fault =>
      rw [moveIntoPlace_of_error found]
      exact (Evolves.refl _ t).tick
  | ok place =>
      obtain ⟨_, _, receives, rfl⟩ := destination_ok_iff.1 found
      rw [moveIntoPlace_of_ok found]
      refine (evolves_putFile content receives.free).mono ?_
      rintro _ _ ⟨rfl, rfl⟩
      exact ⟨rfl, rfl⟩

theorem at?_moveIntoPlace_other (content : ByteArray)
    (notThere : t.destination path ≠ .ok other) :
    (t.moveIntoPlace path content).2.at? other = t.at? other := by
  cases found : t.destination path with
  | error fault =>
      rw [moveIntoPlace_of_error found]
      rfl
  | ok place =>
      rw [found] at notThere
      have elsewhere : other ≠ place := by
        rintro rfl
        exact notThere rfl
      rw [moveIntoPlace_of_ok found, putFile, at?_tick, at?_set, if_neg elsewhere]

theorem WellFormed.moveIntoPlace (h : t.WellFormed) (path : String) (content : ByteArray) :
    (t.moveIntoPlace path content).2.WellFormed := by
  refine h.evolve (evolves_moveIntoPlace t path content) fun place last fresh there => ?_
  by_cases found : t.destination path = .ok (place ++ [last])
  · obtain ⟨parent, name, receives, same⟩ := destination_ok_iff.1 found
    obtain ⟨_, _, followed⟩ := approach_ok_iff.1 receives.approached
    rw [(List.append_inj' same rfl).1]
    exact directory_of_follow followed
  · rw [at?_moveIntoPlace_other content found] at there
    exact absurd fresh there

theorem shape_putFile (t : FileTree) (place other : Place) (content : ByteArray) :
    (t.putFile place content).shape other =
      if other = place then some (some content) else t.shape other := by
  rw [shape, putFile, at?_tick, at?_set]
  split <;> rfl

/-- A path that can be written to leads to the place that is written. -/
theorem locate_of_destination (reached : t.destination path = .ok place) :
    t.locate path = .ok place := by
  obtain ⟨parent, name, receives, rfl⟩ := destination_ok_iff.1 reached
  obtain ⟨usable, last, followed⟩ := approach_ok_iff.1 receives.approached
  obtain ⟨lead, parts⟩ := List.getLast?_eq_some_iff.1 last
  have some_path : path ≠ "" := by
    rintro rfl
    have empty : partsOf "" = [] := by decide
    rw [empty] at parts
    simp at parts
  rw [parts, List.dropLast_concat] at followed
  rw [FileTree.locate, if_neg some_path, receives.plain, parts]
  simp only [usable, Bool.false_eq_true, if_false, List.append_nil]
  rw [follow_lead followed, follow_name receives.named (directory_of_follow followed),
    receives.short]
  rfl

theorem moveIntoPlace_done (done : (t.moveIntoPlace path content).1 = .ok ()) :
    ∃ place, t.destination path = .ok place ∧
      t.moveIntoPlace path content = (.ok (), t.putFile place content) := by
  cases found : t.destination path with
  | error fault =>
      rw [moveIntoPlace_of_error found] at done
      cases done
  | ok place => exact ⟨place, rfl, moveIntoPlace_of_ok found content⟩

end Move

/-! ### Both steps -/

section Both

variable {content : ByteArray}

theorem replace_of_blocked (blocked : t.writeBeside path = (.error fault, u))
    (content : ByteArray) : t.replace path content = (.error fault, u) := by
  unfold writeBeside at blocked
  unfold replace
  cases unusable : unusable? (join rootPath (interimPath path)) with
  | some first =>
      rw [unusable] at blocked
      cases blocked
      rfl
  | none =>
      cases reached : t.follow [] (parentParts path ++ ["."]) with
      | error first =>
          rw [unusable, reached] at blocked
          cases blocked
          rfl
      | ok parent =>
          rw [unusable, reached] at blocked
          cases blocked

theorem replace_of_beside (beside : t.writeBeside path = (.ok (), u)) (content : ByteArray) :
    t.replace path content = u.moveIntoPlace path content := by
  unfold writeBeside at beside
  unfold replace moveIntoPlace
  cases unusable : unusable? (join rootPath (interimPath path)) with
  | some first =>
      rw [unusable] at beside
      cases beside
  | none =>
      cases reached : t.follow [] (parentParts path ++ ["."]) with
      | error first =>
          rw [unusable, reached] at beside
          cases beside
      | ok parent =>
          rw [unusable, reached] at beside
          cases beside
          rfl

theorem replace_cases (t : FileTree) (path : String) (content : ByteArray) :
    (∃ fault, t.replace path content = (.error fault, t)) ∨
      t.replace path content = (t.writeBeside path).2.moveIntoPlace path content := by
  rcases writeBeside_cases t path with ⟨fault, blocked⟩ | ⟨parent, _, beside⟩
  · exact .inl ⟨fault, replace_of_blocked blocked content⟩
  · rw [beside]
    exact .inr (replace_of_beside beside content)

/-- Replacing a file gives it the whole content, or changes nothing but a time. -/
theorem evolves_replace (content : ByteArray) (t : FileTree) (path : String) :
    Evolves (fun place c => (t.replace path content).1 = .ok () ∧
        (t.replace path content).2.destination path = .ok place ∧ c = content)
      t (t.replace path content).2 := by
  rcases replace_cases t path content with ⟨fault, same⟩ | same
  · rw [same]
    exact .refl _ t
  · rw [same]
    refine (grows_writeBeside t path).evolves.trans ((evolves_moveIntoPlace _ _ _).mono ?_)
    rintro place _ ⟨found, rfl⟩
    rw [moveIntoPlace_of_ok found]
    exact ⟨rfl, destination_putFile found _, rfl⟩

theorem WellFormed.replace (h : t.WellFormed) (path : String) (content : ByteArray) :
    (t.replace path content).2.WellFormed := by
  rcases replace_cases t path content with ⟨fault, same⟩ | same
  · rwa [same]
  · rw [same]
    exact (h.writeBeside path).moveIntoPlace path content

/-- A file that has been replaced holds the new content and has the time of the clock, which has
advanced. -/
theorem replace_done (done : t.replace path content = (.ok (), u)) :
    ∃ place, u.locate path = .ok place ∧ u.at? place = some (.file content t.clock) ∧
      u.clock = t.clock + 1 := by
  rcases writeBeside_cases t path with ⟨fault, blocked⟩ | ⟨parent, _, beside⟩
  · rw [replace_of_blocked blocked] at done
    cases done
  · rw [replace_of_beside beside] at done
    obtain ⟨place, found, moved⟩ := moveIntoPlace_done (congrArg Prod.fst done)
    obtain rfl := (Prod.mk.inj (done.symm.trans moved)).2
    refine ⟨place, locate_of_destination (destination_putFile found content), ?_, ?_⟩
    · rw [at?_putFile_self, clock_touchNow]
    · exact congrArg (· + 1) (clock_touchNow t parent)

theorem read_replace (done : (t.replace path content).1 = .ok ()) :
    (t.replace path content).2.read path = .ok content := by
  cases replaced : t.replace path content with
  | mk answer u =>
      rw [replaced] at done
      obtain rfl : answer = .ok () := done
      obtain ⟨place, found, here, _⟩ := replace_done replaced
      exact read_ok_iff.2 ⟨place, _, found, here⟩

end Both

/-! ### Files in a directory -/

section Named

variable (fits : IsFileName name)

include fits

theorem follow_parentParts_join (t : FileTree) (directory : String) :
    t.follow [] (parentParts (join directory name) ++ ["."]) =
      t.follow [] (partsOf directory ++ ["."]) := by
  rw [parentParts_join fits, ← follow_undotted, undotted_withoutDots, follow_undotted]

/-- Writing beside a file in a directory leaves all but the directory as it was. -/
theorem at?_writeBeside_join_other (t : FileTree) (notHome : other ≠ placeOf directory) :
    (t.writeBeside (join directory name)).2.at? other = t.at? other := by
  rcases writeBeside_cases t (join directory name) with ⟨fault, blocked⟩ | ⟨home, reached, beside⟩
  · rw [blocked]
  · rw [follow_parentParts_join fits] at reached
    have entered : t.Entered directory home := reached
    rw [beside, at?_touchNow_other]
    rintro rfl
    exact notHome entered.eq_placeOf

theorem writeBeside_join_congr (before : s.Entered directory home)
    (after : t.Entered directory home) :
    (s.writeBeside (join directory name)).1 = (t.writeBeside (join directory name)).1 := by
  unfold writeBeside
  rw [follow_parentParts_join fits, follow_parentParts_join fits, before, after]
  cases unusable? (join rootPath (interimPath (join directory name))) <;> rfl

theorem eq_placeOf_of_destination (reached : t.destination (join directory name) = .ok place) :
    place = placeOf directory ++ [name] := by
  obtain ⟨parent, last, receives, rfl⟩ := destination_ok_iff.1 reached
  obtain ⟨_, ends, followed⟩ := approach_ok_iff.1 receives.approached
  rw [partsOf_join fits] at ends followed
  rw [List.dropLast_concat] at followed
  rw [List.getLast?_concat, Option.some.injEq] at ends
  rw [eq_foldl_of_follow followed, foldl_dot, placeOf, ends]

theorem destination_join_taken (entered : t.Entered directory home)
    (usable : unusable? (join directory name) = none)
    (taken : t.shape (home ++ [name]) = some none) :
    t.destination (join directory name) = .error .isADirectory := by
  obtain ⟨time, here⟩ := shape_eq_directory_iff.1 taken
  rw [destination, approach_join fits entered usable]
  simp [bind, Except.bind, fits.named.1, fits.named.2, fits.short, endsWithSlash_join fits, here]

theorem destination_join_free (entered : t.Entered directory home)
    (usable : unusable? (join directory name) = none)
    (free : t.shape (home ++ [name]) ≠ some none) :
    t.destination (join directory name) = .ok (home ++ [name]) := by
  refine destination_ok_iff.2 ⟨home, name, ⟨approach_join fits entered usable, fits.named,
    fits.short, endsWithSlash_join fits directory, ?_⟩, rfl⟩
  exact fun time here => free (shape_eq_directory_iff.2 ⟨time, here⟩)

theorem destination_join_congr (before : s.Entered directory home)
    (after : t.Entered directory home)
    (same : s.shape (home ++ [name]) = t.shape (home ++ [name])) :
    s.destination (join directory name) = t.destination (join directory name) := by
  cases usable : unusable? (join directory name) with
  | some fault => simp [destination, approach, usable, bind, Except.bind]
  | none =>
      by_cases taken : t.shape (home ++ [name]) = some none
      · rw [destination_join_taken fits before usable (same.trans taken),
          destination_join_taken fits after usable taken]
      · rw [destination_join_free fits after usable taken]
        rw [← same] at taken
        exact destination_join_free fits before usable taken

/-- Moving a file into its place comes to the same wherever the directory holds the same, and leaves
the same in it. -/
theorem moveIntoPlace_join_congr (before : s.Entered directory home)
    (after : t.Entered directory home)
    (same : ∀ last, s.shape (home ++ [last]) = t.shape (home ++ [last])) (content : ByteArray) :
    (s.moveIntoPlace (join directory name) content).1 =
        (t.moveIntoPlace (join directory name) content).1 ∧
      ∀ last, (s.moveIntoPlace (join directory name) content).2.shape (home ++ [last]) =
        (t.moveIntoPlace (join directory name) content).2.shape (home ++ [last]) := by
  have goal := destination_join_congr fits before after (same name)
  cases found : t.destination (join directory name) with
  | error fault =>
      rw [moveIntoPlace_of_error found, moveIntoPlace_of_error (goal.trans found)]
      exact ⟨rfl, same⟩
  | ok place =>
      rw [moveIntoPlace_of_ok found, moveIntoPlace_of_ok (goal.trans found)]
      refine ⟨rfl, fun last => ?_⟩
      rw [shape_putFile, shape_putFile, same]

end Named

/-- Nothing is in the way of a file in a directory. -/
structure Accepts (t : FileTree) (directory : String) (home : Place) (name : String) : Prop where
  interim : unusable? (join rootPath (interimPath (join directory name))) = none
  usable : unusable? (join directory name) = none
  free : t.shape (home ++ [name]) ≠ some none

/-- A file in a directory may have new content; what the directory holds under other names is as
before. -/
structure Rewrites (directory : String) (home : Place) (name : String) (before after : FileTree) :
    Prop where
  entered : after.Entered directory home
  others : ∀ other, other ≠ name → after.shape (home ++ [other]) = before.shape (home ++ [other])

/-- Nothing has come in the way of another file. -/
theorem Rewrites.accepts {last : String} (h : Rewrites directory home name t u)
    (different : last ≠ name) (before : t.Accepts directory home last) :
    u.Accepts directory home last where
  interim := before.interim
  usable := before.usable
  free := by
    rw [h.others last different]
    exact before.free

/-- A file that nothing is in the way of is replaced. -/
theorem Accepts.replace (accepts : t.Accepts directory home name) (fits : IsFileName name)
    (entered : t.Entered directory home) (content : ByteArray) :
    ∃ later, t.replace (join directory name) content = (.ok (), later) ∧
      Rewrites directory home name t later := by
  have beside : t.writeBeside (join directory name) = (.ok (), t.touchNow home) := by
    unfold writeBeside
    rw [accepts.interim, follow_parentParts_join fits, entered]
  have kept (last : String) : (t.touchNow home).shape (home ++ [last]) =
      t.shape (home ++ [last]) := by
    rw [shape, at?_touchNow_other (append_ne home last).symm, shape]
  have free : (t.touchNow home).shape (home ++ [name]) ≠ some none := by
    rw [kept]
    exact accepts.free
  have evolved := evolves_replace content t (join directory name)
  rw [replace_of_beside beside, moveIntoPlace_of_ok
    (destination_join_free fits entered.touchNow accepts.usable free)] at evolved ⊢
  refine ⟨_, rfl, entered.evolve evolved, fun last different => ?_⟩
  rw [shape_putFile, if_neg, kept]
  intro same
  exact different (List.singleton_inj.1 (List.append_inj' same rfl).2)

end FirmwareGlue.Storage.FileTree
