import FirmwareGlue.Proofs.Storage.Replacement

/-!
# What operations leave alone

Making directories and replacing files changes what is asked for, and little else: a directory that
is made stands on the way that was asked for, and besides only the times of directories change, of
each in which something has been made or written. All other files keep their bytes and their times.
Replacing a file in a directory changes that file and the time of that directory.
-/

namespace FirmwareGlue.Storage.FileTree

variable {own written more other : Place → Prop} {way : List String} {s t u : FileTree}
  {directory name : String} {place : Place} {content : ByteArray}

/-- Some files may change and some directories may be written to. Nothing is removed, and all other
files are as they were. New are only directories on a way, and a directory has another time only if
it may be written to, or something new is right inside it. -/
structure Spares (own written : Place → Prop) (way : List String) (before after : FileTree) :
    Prop where
  evolves : Evolves (fun place _ => own place) before after
  made : ∀ place, before.at? place = none → after.HasDirectory place →
    ∃ lead, lead <+: way ∧ lead.foldl advance [] = place
  renewed : ∀ place, before.HasDirectory place → after.at? place ≠ before.at? place →
    written place ∨
      ∃ name, before.at? (place ++ [name]) = none ∧ after.HasDirectory (place ++ [name])

namespace Spares

theorem refl (own written : Place → Prop) (way : List String) (t : FileTree) :
    Spares own written way t t where
  evolves := .refl _ t
  made place lacking here := by
    obtain ⟨time, here⟩ := here
    rw [lacking] at here
    cases here
  renewed place _ changed := absurd rfl changed

theorem mono (h : Spares own written way s t) (files : ∀ place, own place → more place)
    (directories : ∀ place, written place → other place) : Spares more other way s t where
  evolves := h.evolves.mono fun place _ => files place
  made := h.made
  renewed place here changed := (h.renewed place here changed).imp_left (directories place)

theorem lacking (h : Spares own written way s t) (after : t.at? place = none) :
    s.at? place = none := by
  by_contra there
  exact (h.evolves place).present there after

/-- A directory that is there afterwards was one before or was made. -/
theorem lacking_or_hasDirectory (h : Spares own written way s t) (here : t.HasDirectory place) :
    s.at? place = none ∨ s.HasDirectory place := by
  have change := h.evolves place
  cases before : s.at? place with
  | none => exact .inl rfl
  | some entry =>
      cases entry with
      | directory time => exact .inr ⟨time, before⟩
      | file content time =>
          rw [before] at change
          exact absurd change.file here.not_hasFile

theorem trans (first : Spares own written way s t) (second : Spares own written way t u) :
    Spares own written way s u where
  evolves := first.evolves.trans second.evolves
  made place lacking here := by
    rcases second.lacking_or_hasDirectory here with still | directory
    · exact second.made place still here
    · exact first.made place lacking directory
  renewed place here changed := by
    by_cases same : t.at? place = s.at? place
    · rw [← same] at changed
      refine (second.renewed place (first.evolves.hasDirectory here) changed).imp_right ?_
      rintro ⟨name, lacking, made⟩
      exact ⟨name, first.lacking lacking, made⟩
    · refine (first.renewed place here same).imp_right ?_
      rintro ⟨name, lacking, made⟩
      exact ⟨name, lacking, second.evolves.hasDirectory made⟩

end Spares

/-! ### Directories -/

theorem spares_makeDirectory (t : FileTree) {parts : List String} (onWay : parts <+: way) :
    Spares own written way t (t.makeDirectory parts).2 where
  evolves := (grows_makeDirectory t parts).evolves
  made place lacking here := by
    have new : (t.makeDirectory parts).2.at? place ≠ none := by
      obtain ⟨time, here⟩ := here
      simp [here]
    obtain ⟨parent, name, makes, rfl⟩ := new_of_makeDirectory lacking new
    exact ⟨parts, onWay, makes.aim⟩
  renewed place here changed := by
    rcases makeDirectory_cases t parts with same | ⟨parent, name, makes, same⟩
    · rw [same] at changed
      exact absurd rfl changed
    · rw [same] at changed ⊢
      have notMade : place ≠ parent ++ [name] := by
        rintro rfl
        obtain ⟨time, here⟩ := here
        rw [makes.lacking] at here
        cases here
      obtain rfl : place = parent := by
        by_contra notParent
        exact changed (at?_addDirectory_other notMade notParent)
      exact .inr ⟨name, makes.lacking, hasDirectory_addDirectory t place name⟩

theorem spares_makeDirectories (own written : Place → Prop) (t : FileTree) (path : String) :
    Spares own written (partsOf path) t (t.makeDirectories path).2 := by
  rw [makeDirectories]
  split
  next => exact .refl _ _ _ t
  next =>
    refine makeFirst_induct (.refl _ _ _) .trans (fun t parts listed => ?_) t
    exact spares_makeDirectory t (isPrefix_of_mem_leadingParts listed)

/-! ### A file in a directory -/

/-- One file in a directory may have changed, and the time of the directory; all else is as it
was. -/
structure Confined (directory name : String) (before after : FileTree) : Prop where
  evolves : Evolves (fun place _ => place = placeOf directory ++ [name]) before after
  others : ∀ place, place ≠ placeOf directory → place ≠ placeOf directory ++ [name] →
    after.at? place = before.at? place

/-- A file in a directory has been given a content. -/
structure Stores (directory name : String) (content : ByteArray) (before after : FileTree) : Prop
    extends Confined directory name before after where
  interim : unusable? (join rootPath (interimPath (join directory name))) = none
  usable : unusable? (join directory name) = none
  entered : before.Entered directory (placeOf directory)
  held : after.contentAt (placeOf directory ++ [name]) = some content

theorem Confined.refl (directory name : String) (t : FileTree) : Confined directory name t t :=
  ⟨.refl _ t, fun _ _ _ => rfl⟩

theorem Confined.at?_other {last : String} (h : Confined directory name s t)
    (different : last ≠ name) :
    t.at? (placeOf directory ++ [last]) = s.at? (placeOf directory ++ [last]) := by
  refine h.others _ (append_ne _ _).symm fun same => different ?_
  exact List.singleton_inj.1 (List.append_inj' same rfl).2

/-- Another file in the directory is read as before. -/
theorem Confined.read_other {last : String} (h : Confined directory name s t)
    (fits : IsFileName last) (different : last ≠ name)
    (before : s.read (join directory last) = .ok content) :
    t.read (join directory last) = .ok content := by
  obtain ⟨home, entered, _, _⟩ := entered_of_read fits before
  obtain rfl := entered.eq_placeOf
  rw [← before]
  refine read_join_congr fits (entered.evolve h.evolves) entered ?_
  rw [shape, shape, h.at?_other different]

/-- A file in a directory stays as it is, and is found still. -/
structure Keeps (directory name : String) (before after : FileTree) : Prop where
  same : after.at? (placeOf directory ++ [name]) = before.at? (placeOf directory ++ [name])
  read : ∀ content, before.read (join directory name) = .ok content →
    after.read (join directory name) = .ok content

theorem Keeps.refl (directory name : String) (t : FileTree) : Keeps directory name t t :=
  ⟨rfl, fun _ => id⟩

theorem Keeps.trans (first : Keeps directory name s t) (second : Keeps directory name t u) :
    Keeps directory name s u :=
  ⟨second.same.trans first.same, fun content held => second.read content (first.read content held)⟩

theorem Confined.keeps {last : String} (h : Confined directory name s t) (fits : IsFileName last)
    (different : last ≠ name) : Keeps directory last s t :=
  ⟨h.at?_other different, fun _ => h.read_other fits different⟩

/-- What is neither the file nor the directory has its time still. -/
theorem Confined.modified {path : String} (h : Confined directory name s t)
    (found : s.locate path = .ok place) (notHome : place ≠ placeOf directory)
    (notGoal : place ≠ placeOf directory ++ [name]) : t.modified path = s.modified path := by
  rw [modified_eq, modified_eq, found, h.evolves.locate found]
  simp only [bind, Except.bind, timeAt, h.others place notHome notGoal]

/-- Another file in the directory has its time still. -/
theorem Confined.modified_other {last : String} {time : Nat} (h : Confined directory name s t)
    (fits : IsFileName last) (different : last ≠ name)
    (timed : s.modified (join directory last) = .ok time) :
    t.modified (join directory last) = .ok time := by
  rw [modified_eq, bind_ok_iff] at timed ⊢
  obtain ⟨goal, found, timed⟩ := timed
  refine ⟨goal, h.evolves.locate found, ?_⟩
  rwa [timeAt, eq_placeOf_of_locate fits found, h.at?_other different,
    ← eq_placeOf_of_locate fits found, ← timeAt]

theorem contentAt_eq_some_iff :
    t.contentAt place = some content ↔ ∃ time, t.at? place = some (.file content time) := by
  rw [contentAt, Option.join_eq_some_iff, shape_eq_file_iff]

theorem contentAt_congr (same : t.at? place = s.at? place) :
    t.contentAt place = s.contentAt place := by
  rw [contentAt, contentAt, shape, shape, same]

theorem Stores.not_hasDirectory (h : Stores directory name content s t) :
    ¬ t.HasDirectory (placeOf directory ++ [name]) := by
  intro directory
  obtain ⟨time, here⟩ := contentAt_eq_some_iff.1 h.held
  exact directory.not_hasFile ⟨content, time, here⟩

theorem Stores.spares (h : Stores directory name content s t) :
    Spares (· = placeOf directory ++ [name]) (· = placeOf directory) way s t where
  evolves := h.evolves
  made place lacking here := by
    have notGoal : place ≠ placeOf directory ++ [name] := fun same =>
      h.not_hasDirectory (same ▸ here)
    obtain ⟨time, home⟩ := h.entered.hasDirectory
    have notHome : place ≠ placeOf directory := by
      rintro rfl
      simp [lacking] at home
    obtain ⟨time, here⟩ := here
    simp [h.others place notHome notGoal, lacking] at here
  renewed place here changed := by
    have notGoal : place ≠ placeOf directory ++ [name] := fun same =>
      h.not_hasDirectory (same ▸ h.evolves.hasDirectory here)
    by_contra elsewhere
    exact changed (h.others place (not_or.1 elsewhere).1 notGoal)

section Named

variable (fits : IsFileName name)

include fits

theorem confined_replace (t : FileTree) (directory : String) (content : ByteArray) :
    Confined directory name t (t.replace (join directory name) content).2 where
  evolves := by
    refine (evolves_replace content t (join directory name)).mono ?_
    rintro place _ ⟨_, found, _⟩
    exact eq_placeOf_of_destination fits found
  others place notHome notGoal := by
    rcases replace_cases t (join directory name) content with ⟨fault, same⟩ | same
    · rw [same]
    · rw [same, at?_moveIntoPlace_other, at?_writeBeside_join_other fits t notHome]
      exact fun found => notGoal (eq_placeOf_of_destination fits found)

theorem entered_of_writeBeside (done : t.writeBeside (join directory name) = (.ok (), u)) :
    unusable? (join rootPath (interimPath (join directory name))) = none ∧
      t.Entered directory (placeOf directory) := by
  unfold writeBeside at done
  rw [follow_parentParts_join fits] at done
  cases interim : unusable? (join rootPath (interimPath (join directory name))) with
  | some fault => simp [interim] at done
  | none =>
      cases reached : t.follow [] (partsOf directory ++ ["."]) with
      | error fault => simp [interim, reached] at done
      | ok home =>
          have entered : t.Entered directory home := reached
          exact ⟨rfl, entered.eq_placeOf ▸ entered⟩

theorem stores_replace (done : t.replace (join directory name) content = (.ok (), u)) :
    Stores directory name content t u := by
  have confined := confined_replace fits t directory content
  rw [done] at confined
  cases beside : t.writeBeside (join directory name) with
  | mk answer middle =>
      cases answer with
      | error fault =>
          rw [replace_of_blocked beside] at done
          cases done
      | ok _ =>
          obtain ⟨interim, entered⟩ := entered_of_writeBeside fits beside
          rw [replace_of_beside beside] at done
          obtain ⟨place, found, moved⟩ := moveIntoPlace_done (congrArg Prod.fst done)
          obtain ⟨parent, last, receives, _⟩ := destination_ok_iff.1 found
          have usable := (approach_ok_iff.1 receives.approached).1
          have held : u.contentAt (placeOf directory ++ [name]) = some content := by
            rw [done] at moved
            rw [(Prod.mk.inj moved).2, ← eq_placeOf_of_destination fits found]
            exact contentAt_eq_some_iff.2 ⟨_, at?_putFile_self middle place content⟩
          exact { confined with interim, usable, entered, held }

end Named

end FirmwareGlue.Storage.FileTree
