import Mathlib.Data.List.Pairwise
import FirmwareGlue.Proofs.Generation.Interference
import FirmwareGlue.Proofs.Storage.Access

/-!
# Passes into separate directories

Passes that run at the same time share the directories above their own, and nothing else, if none of
their output directories is inside another. Every operation of a pass then leaves what the other
output directories hold as it was; all it can do to them is to make directories that lead there. And
that does not matter: the same directory can be made or not, and for the same reason, whatever
others have made of the way to it.
-/

namespace FirmwareGlue

open Storage FileTree

/-- Neither of two places is inside the other. -/
def Storage.Separate (place other : Place) : Prop :=
  ¬ place <+: other ∧ ¬ other <+: place

instance : DecidableRel Separate :=
  fun _ _ => inferInstanceAs (Decidable (_ ∧ _))

instance : Std.Symm Separate :=
  ⟨fun _ _ h => ⟨h.2, h.1⟩⟩

namespace Generation

def outputNames : List String :=
  [Glue.flashMapCopyName, Glue.headerName, Glue.sourceName]

theorem copyName_mem : Glue.flashMapCopyName ∈ outputNames := by decide

theorem headerName_mem : Glue.headerName ∈ outputNames := by decide

theorem sourceName_mem : Glue.sourceName ∈ outputNames := by decide

theorem isFileName_of_mem {name : String} (listed : name ∈ outputNames) : IsFileName name := by
  simp only [outputNames, List.mem_cons, List.not_mem_nil, or_false] at listed
  rcases listed with rfl | rfl | rfl <;> exact ⟨by decide, by decide, by decide, by decide⟩

theorem flashMapName_isFileName : IsFileName Glue.flashMapName :=
  ⟨by decide, by decide, by decide, by decide⟩

/-- The flash map has a name that no output has. -/
theorem flashMap_apart {t : FileTree} {lead directory name : String} {place : Place}
    (listed : name ∈ outputNames) (found : t.locate (join lead Glue.flashMapName) = .ok place) :
    place ≠ placeOf directory ++ [name] := by
  intro same
  rw [eq_placeOf_of_locate flashMapName_isFileName found] at same
  have named := List.singleton_inj.1 (List.append_inj' same rfl).2
  rw [← named] at listed
  exact absurd listed (by decide)

/-- A file tree, and output directories in it that do not get into each other's way. -/
structure Layout where
  initial : FileTree
  directories : List String
  wellFormed : initial.WellFormed
  named : ∀ d ∈ directories, ∃ lead last, partsOf d = lead ++ [last] ∧ last ≠ "." ∧ last ≠ ".."
  level : ∀ d ∈ directories, initial.Level d
  separate : (directories.map placeOf).Pairwise Separate

namespace Layout

variable {l : Layout} {d e name : String} {t u : FileTree} {place : Place}

/-- A place where a pass may write a file. -/
def IsOutput (l : Layout) (place : Place) : Prop :=
  ∃ d ∈ l.directories, ∃ name ∈ outputNames, place = placeOf d ++ [name]

/-- What passes may have made of the tree so far: new are only output directories, with those that
they are in, and output files. -/
structure Fits (l : Layout) (t : FileTree) : Prop where
  wellFormed : t.WellFormed
  evolved : Evolves (fun place _ => l.IsOutput place) l.initial t
  fresh : ∀ place, l.initial.at? place = none → t.at? place ≠ none →
    l.IsOutput place ∨ ∃ d ∈ l.directories, place <+: placeOf d

theorem fits_initial (l : Layout) : l.Fits l.initial where
  wellFormed := l.wellFormed
  evolved := .refl _ _
  fresh _ lacking there := absurd lacking there

theorem placeOf_eq_of_isPrefix (hd : d ∈ l.directories) (he : e ∈ l.directories)
    (inside : placeOf d <+: placeOf e) : placeOf d = placeOf e := by
  by_contra other
  exact (l.separate.forall (List.mem_map_of_mem hd) (List.mem_map_of_mem he) other).1 inside

theorem not_child_isPrefix (place : Place) (name : String) : ¬ place ++ [name] <+: place := by
  intro inside
  have shorter := inside.length_le
  rw [List.length_append, List.length_singleton] at shorter
  omega

/-- Nothing is written on the way to an output directory. -/
theorem not_isOutput_of_isPrefix (hd : d ∈ l.directories) (onTheWay : place <+: placeOf d) :
    ¬ l.IsOutput place := by
  rintro ⟨e, he, name, _, rfl⟩
  have same := placeOf_eq_of_isPrefix he hd ((List.prefix_append _ _).trans onTheWay)
  rw [← same] at onTheWay
  exact not_child_isPrefix _ _ onTheWay

/-- What is no output is a file if it was one. -/
theorem Fits.hasFile_iff (h : l.Fits t) (notOutput : ¬ l.IsOutput place) :
    t.HasFile place ↔ l.initial.HasFile place := by
  have change := h.evolved place
  constructor
  · rintro ⟨content, time, here⟩
    rw [here] at change
    have kept : Change (fun _ => False) _ _ :=
      change.strengthen fun _ _ _ output => notOutput output
    exact ⟨content, time, kept.same_file⟩
  · rintro ⟨content, time, here⟩
    rw [here] at change
    exact change.file

/-! ### What one operation does -/

/-- The operations that a pass into a directory comes to ask for. -/
inductive Operates (d : String) : Operation → Prop where
  | contentOf (path : String) : Operates d (.contentOf path)
  | modifiedAt (path : String) : Operates d (.modifiedAt path)
  | leadsToDirectory (parts : List String) : Operates d (.leadsToDirectory parts)
  | makeDirectory {parts : List String} (onTheWay : parts <+: partsOf d) :
      Operates d (.makeDirectory parts)
  | writeBeside {name : String} (listed : name ∈ outputNames) :
      Operates d (.writeBeside (join d name))
  | moveIntoPlace {name : String} (listed : name ∈ outputNames) (content : ByteArray) :
      Operates d (.moveIntoPlace (join d name) content)

/-- What an operation of a pass into a directory may do to the tree. -/
structure Effect (l : Layout) (d : String) (t u : FileTree) : Prop where
  fits : l.Fits u
  evolved : Evolves (fun _ _ => True) t u
  elsewhere : ∀ place, Separate place (placeOf d) → ∀ name,
    u.at? (place ++ [name]) = t.at? (place ++ [name])

theorem Effect.refl (fits : l.Fits t) (d : String) : l.Effect d t t :=
  ⟨fits, .refl _ t, fun _ _ _ => rfl⟩

/-- A directory that is made for a pass leads to its output directory. -/
theorem isPrefix_of_makes (hd : d ∈ l.directories) (fits : l.Fits t) {parts : List String}
    (onTheWay : parts <+: partsOf d) {parent : Place} (made : t.Makes parts parent name) :
    parent ++ [name] <+: placeOf d := by
  obtain ⟨lead, rest, goal, split, reached, level⟩ := l.level d hd
  have still : t.follow [] (lead ++ ["."]) = .ok goal := fits.evolved.follow reached
  have start : lead.foldl advance [] = goal := by
    rw [eq_foldl_of_follow still, foldl_dot]
  have aim : placeOf d = goal ++ undotted rest := by
    rw [placeOf, split, List.foldl_append, start, foldl_advance level]
  rw [split] at onTheWay
  rcases List.prefix_or_prefix_of_prefix onTheWay (List.prefix_append lead rest) with
    within | ⟨more, same⟩
  · obtain ⟨after, whole⟩ := within
    rw [← whole, List.append_assoc] at still
    obtain ⟨middle, there⟩ := follow_half (by simp) still
    have here := directory_of_follow there
    rw [eq_foldl_of_follow there, foldl_dot, made.aim, made.lacking] at here
    obtain ⟨_, here⟩ := here
    cases here
  · rw [← same, List.prefix_append_right_inj] at onTheWay
    obtain ⟨after, whole⟩ := onTheWay
    rw [← whole] at level
    have level_more : ".." ∉ more := fun member => level (List.mem_append_left _ member)
    rw [← made.aim, ← same, List.foldl_append, start, foldl_advance level_more, aim, ← whole,
      undotted_append, ← List.append_assoc]
    exact List.prefix_append ..

/-- A directory that is made for a pass changes nothing off the way to its output directory. -/
theorem at?_makeDirectory_off (hd : d ∈ l.directories) (fits : l.Fits t) {parts : List String}
    (onTheWay : parts <+: partsOf d) (off : ¬ place <+: placeOf d) :
    (t.makeDirectory parts).2.at? place = t.at? place := by
  rcases makeDirectory_cases t parts with same | ⟨parent, name, made, same⟩
  · rw [same]
  · have inside := isPrefix_of_makes hd fits onTheWay made
    rw [same]
    refine at?_addDirectory_other ?_ ?_
    · rintro rfl
      exact off inside
    · rintro rfl
      exact off ((List.prefix_append _ _).trans inside)

theorem effect_makeDirectory (hd : d ∈ l.directories) (fits : l.Fits t) {parts : List String}
    (onTheWay : parts <+: partsOf d) : l.Effect d t (t.makeDirectory parts).2 := by
  have grown := grows_makeDirectory t parts
  refine ⟨⟨fits.wellFormed.makeDirectory parts, fits.evolved.trans grown.evolves, ?_⟩,
    grown.evolves, ?_⟩
  · intro place lacking there
    by_cases before : t.at? place = none
    · obtain ⟨parent, name, made, rfl⟩ := new_of_makeDirectory before there
      exact .inr ⟨d, hd, isPrefix_of_makes hd fits onTheWay made⟩
    · exact fits.fresh place lacking before
  · intro place apart name
    refine at?_makeDirectory_off hd fits onTheWay fun inside => ?_
    exact apart.1 ((List.prefix_append _ _).trans inside)

theorem effect_writeBeside (fits : l.Fits t) (listed : name ∈ outputNames) :
    l.Effect d t (t.writeBeside (join d name)).2 := by
  have grown := grows_writeBeside t (join d name)
  refine ⟨⟨fits.wellFormed.writeBeside _, fits.evolved.trans grown.evolves, ?_⟩, grown.evolves, ?_⟩
  · intro place lacking there
    exact fits.fresh place lacking fun before => there (at?_writeBeside_eq_none.2 before)
  · intro place apart other
    refine at?_writeBeside_join_other (isFileName_of_mem listed) t ?_
    intro same
    exact apart.1 (same ▸ List.prefix_append _ _)

theorem effect_moveIntoPlace (hd : d ∈ l.directories) (fits : l.Fits t)
    (listed : name ∈ outputNames) (content : ByteArray) :
    l.Effect d t (t.moveIntoPlace (join d name) content).2 := by
  have evolved := evolves_moveIntoPlace t (join d name) content
  have goal {place : Place} (found : t.destination (join d name) = .ok place) :
      place = placeOf d ++ [name] :=
    eq_placeOf_of_destination (isFileName_of_mem listed) found
  have output {place : Place} (found : t.destination (join d name) = .ok place) :
      l.IsOutput place := ⟨d, hd, name, listed, goal found⟩
  refine ⟨⟨fits.wellFormed.moveIntoPlace _ content, fits.evolved.trans (evolved.mono ?_), ?_⟩,
    evolved.mono fun _ _ _ => trivial, ?_⟩
  · exact fun _ _ written => output written.1
  · intro place lacking there
    by_cases found : t.destination (join d name) = .ok place
    · exact .inl (output found)
    · rw [at?_moveIntoPlace_other content found] at there
      exact fits.fresh place lacking there
  · intro place apart other
    refine at?_moveIntoPlace_other content fun found => ?_
    exact apart.1 ((List.append_inj' (goal found) rfl).1 ▸ List.prefix_rfl)

/-- An operation of a pass leaves what the other output directories hold as it was. -/
theorem effect_run (hd : d ∈ l.directories) (fits : l.Fits t) {operation : Operation}
    (operates : Operates d operation) : l.Effect d t (operation.run t).2 := by
  cases operates with
  | contentOf path => exact .refl fits d
  | modifiedAt path => exact .refl fits d
  | leadsToDirectory parts => exact .refl fits d
  | makeDirectory onTheWay => exact effect_makeDirectory hd fits onTheWay
  | writeBeside listed =>
      rw [Operation.run]
      exact effect_writeBeside fits listed
  | moveIntoPlace listed content => exact effect_moveIntoPlace hd fits listed content

/-- What other passes may do, as a pass into a directory sees it. -/
structure Beside (l : Layout) (d : String) (t u : FileTree) : Prop where
  fits : l.Fits u
  evolved : Evolves (fun _ _ => True) t u
  same : ∀ name, u.at? (placeOf d ++ [name]) = t.at? (placeOf d ++ [name])

theorem Effect.beside (h : l.Effect e t u) (apart : Separate (placeOf d) (placeOf e)) :
    l.Beside d t u :=
  ⟨h.fits, h.evolved, h.elsewhere (placeOf d) apart⟩

end Layout

end Generation

end FirmwareGlue
