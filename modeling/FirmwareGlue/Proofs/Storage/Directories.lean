import Mathlib.Data.List.Induction
import FirmwareGlue.Proofs.Storage.Evolution

/-!
# Making directories

A directory is made by trying the longest path first and then, if something is lacking on the way,
those that lead to it. What comes of it is settled by the names alone and by the files that stand in
the way: the first name that is too long, or the first file, is the obstacle. Directories that exist
already change nothing in this, as long as no path goes back by two dots through what is lacking.
That is why directories which others make in the meantime do no harm.
-/

namespace FirmwareGlue.Storage

/-- The parts of a path that lead on; a single dot does not. -/
def undotted (parts : List String) : List String :=
  parts.filter (· ≠ ".")

@[simp] theorem undotted_nil : undotted [] = [] := rfl

@[simp] theorem undotted_append (parts more : List String) :
    undotted (parts ++ more) = undotted parts ++ undotted more :=
  List.filter_append ..

@[simp] theorem undotted_dot : undotted ["."] = [] := by decide

theorem undotted_single {part : String} (solid : part ≠ ".") : undotted [part] = [part] := by
  simp [undotted, solid]

theorem dot_notMem_undotted (parts : List String) : "." ∉ undotted parts := by
  simp [undotted]

theorem mem_of_mem_undotted {part : String} {parts : List String} (h : part ∈ undotted parts) :
    part ∈ parts :=
  List.mem_of_mem_filter h

/-- The place that a part of a path means, whatever is there. -/
def advance (place : Place) (part : String) : Place :=
  if part = "." then place else if part = ".." then place.dropLast else place ++ [part]

/-- The place that a path means, whatever is there. -/
def placeOf (path : String) : Place :=
  (partsOf path).foldl advance []

theorem foldl_advance {parts : List String} (level : ".." ∉ parts) (place : Place) :
    parts.foldl advance place = place ++ undotted parts := by
  induction parts generalizing place with
  | nil => simp
  | cons part rest ih =>
      simp only [List.mem_cons, not_or] at level
      rw [List.foldl_cons, ih level.2]
      by_cases dot : part = "."
      · simp [advance, undotted, dot]
      · simp [advance, undotted, dot, Ne.symm level.1]

theorem foldl_dot (parts : List String) (place : Place) :
    (parts ++ ["."]).foldl advance place = parts.foldl advance place := by
  simp [advance]

namespace FileTree

variable {allowed : Place → ByteArray → Prop} {s t : FileTree} {place goal : Place}

def HasDirectory (t : FileTree) (place : Place) : Prop :=
  ∃ time, t.at? place = some (.directory time)

def HasFile (t : FileTree) (place : Place) : Prop :=
  ∃ content time, t.at? place = some (.file content time)

theorem HasDirectory.not_hasFile (h : t.HasDirectory place) : ¬ t.HasFile place := by
  obtain ⟨time, here⟩ := h
  rintro ⟨content, other, there⟩
  rw [here] at there
  cases there

theorem Evolves.hasDirectory (h : Evolves allowed s t) (here : s.HasDirectory place) :
    t.HasDirectory place := by
  obtain ⟨time, here⟩ := here
  have still := h place
  rw [here] at still
  exact still.directory

/-- What a file system has: its root is a directory, and all else is in a directory. -/
structure WellFormed (t : FileTree) : Prop where
  root : t.HasDirectory []
  inside : ∀ place name, t.at? (place ++ [name]) ≠ none → t.HasDirectory place

theorem WellFormed.evolve (h : s.WellFormed) (evolved : Evolves allowed s t)
    (made : ∀ place name, s.at? (place ++ [name]) = none → t.at? (place ++ [name]) ≠ none →
      s.HasDirectory place) : t.WellFormed where
  root := evolved.hasDirectory h.root
  inside place name there := by
    by_cases fresh : s.at? (place ++ [name]) = none
    · exact evolved.hasDirectory (made place name fresh there)
    · exact evolved.hasDirectory (h.inside place name fresh)

theorem wellFormed_empty (clock : Nat) : (empty clock).WellFormed where
  root := ⟨clock, rfl⟩
  inside place name there := by
    refine absurd ?_ there
    change (Table.empty.insert [] (Entry.directory clock)).find? (place ++ [name]) = none
    simp

/-- Nothing is below what is lacking. -/
theorem WellFormed.below (h : t.WellFormed) (lacking : t.at? place = none) (names : List String) :
    t.at? (place ++ names) = none := by
  induction names using List.reverseRecOn with
  | nil => simpa using lacking
  | append_singleton names name ih =>
      by_contra there
      rw [← List.append_assoc] at there
      obtain ⟨time, here⟩ := h.inside _ name there
      rw [ih] at here
      cases here

/-! ### Following paths -/

theorem follow_ne_nil_of_lacking {parts : List String} (some_part : parts ≠ [])
    (lacking : t.at? place = none) : t.follow place parts = .error .notFound := by
  cases parts with
  | nil => exact absurd rfl some_part
  | cons part rest => simp [FileTree.follow, lacking]

theorem follow_dot {parts : List String} (some_part : parts ≠ []) :
    t.follow place ("." :: parts) = t.follow place parts := by
  cases parts with
  | nil => exact absurd rfl some_part
  | cons part rest =>
      cases here : t.at? place with
      | none => simp [FileTree.follow, here]
      | some entry => cases entry <;> simp [FileTree.follow, here]

theorem follow_undotted (t : FileTree) (place : Place) (parts : List String) :
    t.follow place (undotted parts ++ ["."]) = t.follow place (parts ++ ["."]) := by
  induction parts generalizing place with
  | nil => rfl
  | cons part rest ih =>
      by_cases dot : part = "."
      · subst dot
        rw [List.cons_append, follow_dot (by simp), ← ih place]
        rfl
      · have leads : undotted (part :: rest) = part :: undotted rest := by
          simp [undotted, dot]
        simp only [leads, List.cons_append, FileTree.follow, ih]

/-- Where a path leads to a directory, what is behind it starts there. -/
theorem follow_lead {lead : List String} (reached : t.follow place (lead ++ ["."]) = .ok goal)
    (rest : List String) : t.follow place (lead ++ rest) = t.follow goal rest := by
  induction lead generalizing place with
  | nil =>
      obtain ⟨_, next, onto, further⟩ := follow_cons_ok_iff.1 reached
      cases onto
      cases further
      rfl
  | cons part lead ih =>
      obtain ⟨⟨time, here⟩, next, onto, further⟩ := follow_cons_ok_iff.1 reached
      rw [List.cons_append, follow_directory here, onto]
      exact ih further

/-- Half of a path that leads somewhere leads to a directory. -/
theorem follow_half {lead rest : List String} (some_part : rest ≠ [])
    (reached : t.follow place (lead ++ rest) = .ok goal) :
    ∃ middle, t.follow place (lead ++ ["."]) = .ok middle := by
  induction lead generalizing place with
  | nil =>
      obtain ⟨part, rest, rfl⟩ := List.exists_cons_of_ne_nil some_part
      obtain ⟨here, _⟩ := follow_cons_ok_iff.1 reached
      exact ⟨place, follow_cons_ok_iff.2 ⟨here, place, rfl, rfl⟩⟩
  | cons part lead ih =>
      obtain ⟨here, next, onto, further⟩ := follow_cons_ok_iff.1 reached
      obtain ⟨middle, halfway⟩ := ih further
      exact ⟨middle, follow_cons_ok_iff.2 ⟨here, next, onto, halfway⟩⟩

theorem eq_advance_of_onward {part : String} {next : Place} (onto : onward place part = .ok next) :
    next = advance place part := by
  unfold onward at onto
  unfold advance
  repeat' split at onto
  all_goals cases onto
  all_goals simp [*]

/-- Where a path leads does not depend on what is there. -/
theorem eq_foldl_of_follow {parts : List String} (reached : t.follow place parts = .ok goal) :
    goal = parts.foldl advance place := by
  induction parts generalizing place with
  | nil =>
      cases reached
      rfl
  | cons part rest ih =>
      obtain ⟨_, next, onto, further⟩ := follow_cons_ok_iff.1 reached
      rw [List.foldl_cons, ← eq_advance_of_onward onto]
      exact ih further

/-- A name leads from a directory to what it holds. -/
theorem follow_name {name : String} (named : name ≠ "." ∧ name ≠ "..") (here : t.HasDirectory place)
    (rest : List String) : t.follow place (name :: rest) =
      if isTooLong name then .error .nameTooLong else t.follow (place ++ [name]) rest := by
  obtain ⟨time, here⟩ := here
  simp [FileTree.follow, here, named.1, named.2]

/-- A path that goes back by two dots only where directories exist. -/
def Level (t : FileTree) (path : String) : Prop :=
  ∃ lead rest goal, partsOf path = lead ++ rest ∧ t.follow [] (lead ++ ["."]) = .ok goal ∧
    ".." ∉ rest

/-! ### Obstacles -/

/-- Why no directory can be made at the end of some names. -/
def obstacle (t : FileTree) (place : Place) : List String → Option Fault
  | [] => none
  | name :: rest =>
    if isTooLong name then some .nameTooLong
    else match t.at? (place ++ [name]) with
      | some (.file ..) => some (if rest = [] then .alreadyExists else .notADirectory)
      | _ => t.obstacle (place ++ [name]) rest

section Obstacle

variable {name : String} {rest names : List String}

theorem obstacle_of_tooLong (long : isTooLong name = true) :
    t.obstacle place (name :: rest) = some .nameTooLong := by
  simp [obstacle, long]

theorem obstacle_of_file (short : isTooLong name = false) (file : t.HasFile (place ++ [name])) :
    t.obstacle place (name :: rest) =
      some (if rest = [] then .alreadyExists else .notADirectory) := by
  obtain ⟨content, time, here⟩ := file
  simp [obstacle, short, here]

theorem obstacle_of_passable (short : isTooLong name = false)
    (free : ¬ t.HasFile (place ++ [name])) :
    t.obstacle place (name :: rest) = t.obstacle (place ++ [name]) rest := by
  simp only [obstacle, short, Bool.false_eq_true, if_false]
  split
  next content time here => exact absurd ⟨content, time, here⟩ free
  next => rfl

/-- What the obstacle is depends on where files are. -/
theorem obstacle_congr
    (same : ∀ lead, lead <+: names → (s.HasFile (place ++ lead) ↔ t.HasFile (place ++ lead))) :
    s.obstacle place names = t.obstacle place names := by
  induction names generalizing place with
  | nil => rfl
  | cons name rest ih =>
      have here := same [name] (by simp)
      have further : s.obstacle (place ++ [name]) rest = t.obstacle (place ++ [name]) rest := by
        refine ih fun lead leads => ?_
        have there := same (name :: lead) (by simpa using leads)
        simpa using there
      cases long : isTooLong name with
      | true => rw [obstacle_of_tooLong long, obstacle_of_tooLong long]
      | false =>
          by_cases file : s.HasFile (place ++ [name])
          · rw [obstacle_of_file long file, obstacle_of_file long (here.1 file)]
          · have free := fun h => file (here.2 h)
            rw [obstacle_of_passable long file, obstacle_of_passable long free, further]

variable (level : ".." ∉ names) (solid : "." ∉ names)

include level solid

/-- Behind names that lead to a directory, the obstacle is what it is from there. -/
theorem obstacle_of_follow (reached : t.follow place (names ++ ["."]) = .ok goal)
    (more : List String) : t.obstacle place (names ++ more) = t.obstacle goal more := by
  induction names generalizing place with
  | nil =>
      obtain ⟨_, next, onto, further⟩ := follow_cons_ok_iff.1 reached
      cases onto
      cases further
      rfl
  | cons name rest ih =>
      simp only [List.mem_cons, not_or] at level solid
      have reached' := reached
      obtain ⟨here, _⟩ := follow_cons_ok_iff.1 reached
      rw [List.cons_append, follow_name ⟨Ne.symm solid.1, Ne.symm level.1⟩ here] at reached
      split at reached
      next => cases reached
      next short =>
        have directory : t.HasDirectory (place ++ [name]) := by
          cases rest with
          | nil => exact (follow_cons_ok_iff.1 reached).1
          | cons => exact (follow_cons_ok_iff.1 reached).1
        rw [List.cons_append, obstacle_of_passable (by simpa using short) directory.not_hasFile]
        exact ih level.2 solid.2 reached

/-- Names that cannot be followed, and not because something is lacking, show the obstacle. -/
theorem obstacle_of_error {fault : Fault} (here : t.HasDirectory place)
    (failed : t.follow place (names ++ ["."]) = .error fault) (found : fault ≠ .notFound)
    (last : String) : t.obstacle place (names ++ [last]) = some fault := by
  induction names generalizing place with
  | nil =>
      obtain ⟨time, here⟩ := here
      simp [FileTree.follow, here] at failed
  | cons name rest ih =>
      simp only [List.mem_cons, not_or] at level solid
      rw [List.cons_append, follow_name ⟨Ne.symm solid.1, Ne.symm level.1⟩ here] at failed
      rw [List.cons_append]
      split at failed
      next long =>
        cases failed
        exact obstacle_of_tooLong long
      next short =>
        have short : isTooLong name = false := by simpa using short
        cases there : t.at? (place ++ [name]) with
        | none =>
            rw [follow_ne_nil_of_lacking (by simp) there] at failed
            cases failed
            exact absurd rfl found
        | some entry =>
            cases entry with
            | file content time =>
                rw [obstacle_of_file short ⟨content, time, there⟩, if_neg (by simp)]
                cases rest with
                | nil => simpa [FileTree.follow, there] using failed
                | cons => simpa [FileTree.follow, there] using failed
            | directory time =>
                have directory : t.HasDirectory (place ++ [name]) := ⟨time, there⟩
                rw [obstacle_of_passable short directory.not_hasFile]
                exact ih level.2 solid.2 directory failed

omit level solid in
/-- Behind what is lacking there are no files, so that only a name can be an obstacle. -/
theorem obstacle_of_lacking {fault : Fault} (wellFormed : t.WellFormed)
    (lacking : t.at? place = none) (blocked : t.obstacle place names = some fault)
    (more : List String) : t.obstacle place (names ++ more) = some fault := by
  induction names generalizing place with
  | nil => cases blocked
  | cons name rest ih =>
      have below := wellFormed.below lacking [name]
      have free : ¬ t.HasFile (place ++ [name]) := by
        rintro ⟨content, time, here⟩
        rw [below] at here
        cases here
      rw [List.cons_append]
      cases long : isTooLong name with
      | true =>
          rw [obstacle_of_tooLong long] at blocked ⊢
          exact blocked
      | false =>
          rw [obstacle_of_passable long free] at blocked ⊢
          exact ih below blocked

/-- Where names lead to what is lacking, the obstacle stays the same behind them. -/
theorem obstacle_of_notFound {fault : Fault} (wellFormed : t.WellFormed)
    (here : t.HasDirectory place)
    (failed : t.follow place (names ++ ["."]) = .error .notFound)
    (blocked : t.obstacle place names = some fault) (more : List String) :
    t.obstacle place (names ++ more) = some fault := by
  induction names generalizing place with
  | nil => cases blocked
  | cons name rest ih =>
      simp only [List.mem_cons, not_or] at level solid
      rw [List.cons_append, follow_name ⟨Ne.symm solid.1, Ne.symm level.1⟩ here] at failed
      rw [List.cons_append]
      split at failed
      next => cases failed
      next short =>
        have short : isTooLong name = false := by simpa using short
        cases there : t.at? (place ++ [name]) with
        | none =>
            have free : ¬ t.HasFile (place ++ [name]) := by simp [HasFile, there]
            rw [obstacle_of_passable short free] at blocked ⊢
            exact obstacle_of_lacking wellFormed there blocked more
        | some entry =>
            cases entry with
            | file content time =>
                cases rest with
                | nil => simp [FileTree.follow, there] at failed
                | cons => simp [FileTree.follow, there] at failed
            | directory time =>
                have directory : t.HasDirectory (place ++ [name]) := ⟨time, there⟩
                rw [obstacle_of_passable short directory.not_hasFile] at blocked ⊢
                exact ih level.2 solid.2 directory failed blocked

end Obstacle

/-! ### One directory -/

section One

variable {lead parts : List String} {last : String} {fault : Fault}

theorem makeDirectory_of_lost (lost : t.follow [] (lead ++ ["."]) = .error fault) :
    t.makeDirectory (lead ++ [last]) = (.error fault, t) := by
  simp [makeDirectory, lost]

theorem makeDirectory_of_tooLong (named : last ≠ "." ∧ last ≠ "..")
    (reached : t.follow [] (lead ++ ["."]) = .ok goal) (long : isTooLong last = true) :
    t.makeDirectory (lead ++ [last]) = (.error .nameTooLong, t) := by
  simp [makeDirectory, reached, named.1, named.2, long]

theorem makeDirectory_of_taken (named : last ≠ "." ∧ last ≠ "..")
    (reached : t.follow [] (lead ++ ["."]) = .ok goal) (short : isTooLong last = false)
    (taken : t.at? (goal ++ [last]) ≠ none) :
    t.makeDirectory (lead ++ [last]) = (.error .alreadyExists, t) := by
  obtain ⟨entry, here⟩ := Option.ne_none_iff_exists'.1 taken
  simp [makeDirectory, reached, named.1, named.2, short, here]

theorem makeDirectory_of_lacking (named : last ≠ "." ∧ last ≠ "..")
    (reached : t.follow [] (lead ++ ["."]) = .ok goal) (short : isTooLong last = false)
    (lacking : t.at? (goal ++ [last]) = none) :
    t.makeDirectory (lead ++ [last]) = (.ok (), t.addDirectory (goal ++ [last])) := by
  simp [makeDirectory, reached, named.1, named.2, short, lacking]

theorem leadsToDirectory_of_ok {goal : Place} (reached : t.follow [] (parts ++ ["."]) = .ok goal) :
    t.leadsToDirectory parts = true := by
  simp [leadsToDirectory, reached]

theorem leadsToDirectory_of_error {fault : Fault}
    (lost : t.follow [] (parts ++ ["."]) = .error fault) : t.leadsToDirectory parts = false := by
  simp [leadsToDirectory, lost]

/-- A directory that exists is not made. -/
theorem makeDirectory_of_follow (reached : t.follow [] (parts ++ ["."]) = .ok goal) :
    t.makeDirectory parts = (.error .alreadyExists, t) := by
  cases parts using List.reverseRecOn with
  | nil =>
      rw [List.nil_append] at reached
      simp [makeDirectory, reached]
  | append_singleton lead last =>
      obtain ⟨middle, halfway⟩ := follow_half (by simp) (List.append_assoc .. ▸ reached)
      rw [List.append_assoc, follow_lead halfway] at reached
      by_cases dots : last = "." ∨ last = ".."
      · simp [makeDirectory, halfway, dots]
      · have named : last ≠ "." ∧ last ≠ ".." := not_or.1 dots
        obtain ⟨_, next, onto, further⟩ := follow_cons_ok_iff.1 reached
        obtain ⟨⟨time, there⟩, _⟩ := follow_cons_ok_iff.1 further
        unfold onward at onto
        rw [if_neg named.1, if_neg named.2] at onto
        split at onto
        next => cases onto
        next short =>
          cases onto
          exact makeDirectory_of_taken named halfway (by simpa using short) (by simp [there])

/-- A directory is made in one that exists, where nothing is, and at the place that the parts
mean. -/
structure Makes (t : FileTree) (parts : List String) (parent : Place) (name : String) : Prop where
  aim : parts.foldl advance [] = parent ++ [name]
  within : t.HasDirectory parent
  lacking : t.at? (parent ++ [name]) = none

theorem makeDirectory_cases (t : FileTree) (parts : List String) :
    (t.makeDirectory parts).2 = t ∨ ∃ parent name, t.Makes parts parent name ∧
      (t.makeDirectory parts).2 = t.addDirectory (parent ++ [name]) := by
  cases parts using List.reverseRecOn with
  | nil =>
      left
      rw [makeDirectory]
      split <;> simp_all
  | append_singleton lead last =>
      cases reached : t.follow [] (lead ++ ["."]) with
      | error fault => exact .inl (by rw [makeDirectory_of_lost reached])
      | ok goal =>
          by_cases dots : last = "." ∨ last = ".."
          · exact .inl (by simp [makeDirectory, reached, dots])
          · have named : last ≠ "." ∧ last ≠ ".." := not_or.1 dots
            cases long : isTooLong last with
            | true => exact .inl (by rw [makeDirectory_of_tooLong named reached long])
            | false =>
                by_cases lacking : t.at? (goal ++ [last]) = none
                · refine .inr ⟨goal, last, ⟨?_, directory_of_follow reached, lacking⟩, ?_⟩
                  · rw [List.foldl_append, ← foldl_dot lead, ← eq_foldl_of_follow reached]
                    simp [advance, named.1, named.2]
                  · rw [makeDirectory_of_lacking named reached long lacking]
                · exact .inl (by rw [makeDirectory_of_taken named reached long lacking])

theorem at?_addDirectory_other {parent other : Place} {name : String}
    (notMade : other ≠ parent ++ [name]) (notParent : other ≠ parent) :
    (t.addDirectory (parent ++ [name])).at? other = t.at? other := by
  rw [addDirectory, at?_tick, List.dropLast_concat, at?_touchNow_other notParent, at?_set,
    if_neg notMade]

theorem hasDirectory_addDirectory (t : FileTree) (parent : Place) (name : String) :
    (t.addDirectory (parent ++ [name])).HasDirectory (parent ++ [name]) := by
  have made : t.addDirectory (parent ++ [name]) =
      ((t.set (parent ++ [name]) (.directory t.clock)).touchNow parent).tick := by
    rw [addDirectory, List.dropLast_concat]
  refine ⟨t.clock, ?_⟩
  rw [made, at?_tick, at?_touchNow_other (append_ne parent name).symm, at?_set, if_pos rfl]

/-- The only thing that can be new is the directory that is made. -/
theorem new_of_makeDirectory {other : Place} (lacking : t.at? other = none)
    (there : (t.makeDirectory parts).2.at? other ≠ none) :
    ∃ parent name, t.Makes parts parent name ∧ other = parent ++ [name] := by
  rcases makeDirectory_cases t parts with same | ⟨parent, name, made, same⟩
  · rw [same] at there
    exact absurd lacking there
  · refine ⟨parent, name, made, ?_⟩
    by_contra notMade
    have notParent : other ≠ parent := by
      rintro rfl
      obtain ⟨time, here⟩ := made.within
      rw [lacking] at here
      cases here
    rw [same, at?_addDirectory_other notMade notParent] at there
    exact there lacking

theorem WellFormed.makeDirectory (h : t.WellFormed) (parts : List String) :
    (t.makeDirectory parts).2.WellFormed := by
  refine h.evolve (grows_makeDirectory t parts) fun place name fresh there => ?_
  obtain ⟨parent, new, made, same⟩ := new_of_makeDirectory fresh there
  rw [(List.append_inj' same rfl).1]
  exact made.within

end One

/-! ### Directories on the way -/

/-- The parts of a path and of the directories that it leads through, the longest first, but for
those that end with a dot. -/
def leadsOf (parts : List String) : List (List String) :=
  ((List.range (parts.length + 1)).reverse.map parts.take).filter fun lead =>
    lead ≠ [] ∧ lead.getLast? ≠ some "."

theorem map_take_concat (parts : List String) (last : String) :
    (List.range (parts.length + 1)).reverse.map (parts ++ [last]).take =
      (List.range (parts.length + 1)).reverse.map parts.take := by
  refine List.map_congr_left fun count within => ?_
  rw [List.mem_reverse, List.mem_range] at within
  exact List.take_append_of_le_length (by omega)

theorem leadsOf_concat (parts : List String) (last : String) :
    leadsOf (parts ++ [last]) =
      if last = "." then leadsOf parts else (parts ++ [last]) :: leadsOf parts := by
  have all : (parts ++ [last]).length = parts.length + 1 := by simp
  have whole : (parts ++ [last]).take (parts.length + 1) = parts ++ [last] := by
    rw [← all, List.take_length]
  rw [leadsOf, all, List.range_succ, List.reverse_append, List.reverse_singleton,
    List.singleton_append, List.map_cons, map_take_concat, whole, List.filter_cons]
  by_cases dot : last = "."
  · simp [dot, leadsOf]
  · simp [dot, leadsOf]

theorem withoutDots_dot (parts : List String) :
    withoutDots (parts ++ ["."]) = withoutDots parts := by
  simp [withoutDots]

theorem withoutDots_concat {last : String} (solid : last ≠ ".") (parts : List String) :
    withoutDots (parts ++ [last]) = parts ++ [last] := by
  simp [withoutDots, solid]

theorem leadingParts_concat {last : String} (solid : last ≠ ".") (parts : List String) :
    leadingParts (parts ++ [last]) = (parts ++ [last]) :: leadsOf parts := by
  rw [leadingParts, withoutDots_concat solid, List.length_append, List.length_singleton,
    map_take_concat]
  rfl

theorem withoutDots_isPrefix (parts : List String) : withoutDots parts <+: parts := by
  induction parts using List.reverseRecOn with
  | nil => exact List.prefix_rfl
  | append_singleton parts last ih =>
      by_cases dot : last = "."
      · rw [dot, withoutDots_dot]
        exact ih.trans (List.prefix_append ..)
      · simp [withoutDots_concat dot]

theorem isPrefix_of_mem_leadingParts {lead parts : List String} (h : lead ∈ leadingParts parts) :
    lead <+: parts := by
  rcases List.mem_cons.1 h with rfl | member
  · exact List.prefix_rfl
  · obtain ⟨count, _, rfl⟩ := List.mem_map.1 (List.mem_of_mem_filter member)
    exact (List.take_prefix ..).trans (withoutDots_isPrefix parts)

theorem isPrefix_of_mem_leadsOf {lead parts : List String} (h : lead ∈ leadsOf parts) :
    lead <+: parts := by
  obtain ⟨count, _, rfl⟩ := List.mem_map.1 (List.mem_of_mem_filter h)
  exact List.take_prefix ..

end FileTree

end FirmwareGlue.Storage
