import FirmwareGlue.Proofs.Generation.Layout

/-!
# Making an output directory among others

Several passes make the directories above their own at the same time, so each of them can find one
that it was about to make. Whether the output directory can be made, and if not why, is settled by
the tree before all passes: only files and names are in the way, and those stay. The proof is along
the recursion that tries a directory, then those that lead to it, and then the directory again: in
between the directories that lead there may have come from anyone, but once there they stay.
-/

namespace FirmwareGlue

open Storage FileTree

namespace Storage.FileTree

variable {t : FileTree} {place : Place} {parts : List String}

theorem follow_ne_alreadyExists : t.follow place parts ≠ .error .alreadyExists := by
  induction parts generalizing place with
  | nil => simp [FileTree.follow]
  | cons part rest ih =>
      unfold FileTree.follow
      split
      next => simp
      next => simp
      next =>
        repeat' split
        all_goals first | exact ih | simp

theorem obstacle_ne_notFound {names : List String} : t.obstacle place names ≠ some .notFound := by
  induction names generalizing place with
  | nil => simp [obstacle]
  | cons name rest ih =>
      unfold obstacle
      repeat' split
      all_goals first | exact ih | simp

/-- A path that can be followed to its end can be followed to what is before its last part. -/
theorem Level.split {path last : String} {lead : List String} (h : t.Level path)
    (parts : partsOf path = lead ++ [last]) :
    ∃ front rest goal, lead = front ++ rest ∧ t.follow [] (front ++ ["."]) = .ok goal ∧
      ".." ∉ rest := by
  obtain ⟨front, rest, goal, split, reached, level⟩ := h
  rw [parts] at split
  cases rest using List.reverseRecOn with
  | nil =>
      rw [List.append_nil] at split
      rw [← split, List.append_assoc] at reached
      obtain ⟨middle, halfway⟩ := follow_half (by simp) reached
      exact ⟨lead, [], middle, (List.append_nil _).symm, halfway, by simp⟩
  | append_singleton rest final =>
      rw [← List.append_assoc] at split
      refine ⟨front, rest, goal, (List.append_inj' split rfl).1, reached, ?_⟩
      exact fun member => level (List.mem_append_left _ member)

end Storage.FileTree

namespace Generation.Layout

variable {l : Layout} {d : String} {t u v : FileTree}

theorem Beside.refl (fits : l.Fits t) (d : String) : l.Beside d t t :=
  ⟨fits, .refl _ t, fun _ => rfl⟩

theorem Beside.trans (h : l.Beside d t u) (later : l.Beside d u v) : l.Beside d t v :=
  ⟨later.fits, h.evolved.trans later.evolved, fun name => (later.same name).trans (h.same name)⟩

theorem Beside.stable (t : FileTree) :
    ∀ u v, l.Beside d t u → l.Beside d u v → l.Beside d t v :=
  fun _ _ => Beside.trans

theorem beside_makeDirectory (hd : d ∈ l.directories) (fits : l.Fits t) {parts : List String}
    (onTheWay : parts <+: partsOf d) : l.Beside d t (t.makeDirectory parts).2 := by
  have effect := effect_makeDirectory hd fits onTheWay
  exact ⟨effect.fits, effect.evolved, fun name =>
    at?_makeDirectory_off hd fits onTheWay (not_child_isPrefix _ _)⟩

/-- The operations by which a directory is made. -/
inductive Prepares (d : String) : Operation → Prop where
  | makeDirectory {parts : List String} (onTheWay : parts <+: partsOf d) :
      Prepares d (.makeDirectory parts)
  | leadsToDirectory (parts : List String) : Prepares d (.leadsToDirectory parts)

/-- While directories are made, an output directory keeps what it holds. -/
theorem beside_of_runs (hd : d ∈ l.directories) {α : Type} {p : Pass α} {result : α}
    (within : p.Within (Prepares d)) (fits : l.Fits t) (run : p.Runs (l.Beside d) t result u) :
    l.Beside d t u := by
  induction run with
  | done result t => exact .refl fits d
  | @step operation next t u result rest ih =>
      cases within with
      | step fine within =>
          have now : l.Beside d t (operation.run t).2 := by
            cases fine with
            | makeDirectory onTheWay => exact beside_makeDirectory hd fits onTheWay
            | leadsToDirectory parts => exact .refl fits d
          exact now.trans (ih (within _) now.fits)
  | beside meanwhile rest ih => exact meanwhile.trans (ih within meanwhile.fits)

theorem within_ensureDirectory {parts : List String} (onTheWay : parts <+: partsOf d) :
    (Pass.ensureDirectory parts).Within (Prepares d) := by
  refine .step (.makeDirectory onTheWay) fun answer => ?_
  cases answer with
  | ok _ => exact .done _
  | error fault =>
      cases fault with
      | alreadyExists => exact .step (.leadsToDirectory parts) fun found => .done _
      | _ => exact .done _

theorem within_makeFirst {leads : List (List String)}
    (onTheWay : ∀ lead ∈ leads, lead <+: partsOf d) :
    (Pass.makeFirst leads).Within (Prepares d) := by
  induction leads with
  | nil => exact .done _
  | cons parts leads ih =>
      have first := within_ensureDirectory (onTheWay parts List.mem_cons_self)
      have others := ih fun lead member => onTheWay lead (List.mem_cons_of_mem _ member)
      refine first.bind fun answer => ?_
      cases answer with
      | ok _ => exact .done _
      | error fault =>
          cases fault with
          | notFound =>
              refine others.bind fun answer => ?_
              cases answer with
              | ok _ => exact first
              | error fault => exact .done _
          | _ => exact .done _

/-- The answer to making a directory behind an obstacle, or behind none. -/
def verdict (obstacle : Option Fault) : Except Fault Unit :=
  obstacle.elim (.ok ()) .error

theorem verdict_eq_error_iff {obstacle : Option Fault} {fault : Fault} :
    .error fault = verdict obstacle ↔ obstacle = some fault := by
  cases obstacle <;> simp [verdict, eq_comm]

/-- The way to an output directory: a part that exists before all passes, and a part that does not
go back by two dots. -/
structure Site (l : Layout) (d : String) where
  lead : List String
  rest : List String
  goal : Place
  split : partsOf d = lead ++ rest
  reached : l.initial.follow [] (lead ++ ["."]) = .ok goal
  level : ".." ∉ rest

namespace Site

variable (s : l.Site d) {q : List String} {last : String} {answer : Except Fault Unit}

include s

theorem start : s.lead.foldl advance [] = s.goal := by
  rw [eq_foldl_of_follow s.reached, foldl_dot]

theorem placeOf_eq : placeOf d = s.goal ++ undotted s.rest := by
  rw [placeOf, s.split, List.foldl_append, s.start, foldl_advance s.level]

theorem onTheWay (within : q <+: s.rest) : s.lead ++ q <+: partsOf d := by
  rw [s.split]
  exact (List.prefix_append_right_inj _).2 within

theorem undotted_isPrefix (within : q <+: s.rest) : s.goal ++ undotted q <+: placeOf d := by
  obtain ⟨more, whole⟩ := within
  rw [s.placeOf_eq, ← whole, undotted_append, ← List.append_assoc]
  exact List.prefix_append ..

theorem level_of_isPrefix (within : q <+: s.rest) : ".." ∉ undotted q :=
  fun member => s.level (within.subset (mem_of_mem_undotted member))

/-- The obstacle on the way stays what it was. -/
theorem obstacle_eq (hd : d ∈ l.directories) (fits : l.Fits t) {names : List String}
    (inside : s.goal ++ names <+: placeOf d) :
    t.obstacle s.goal names = l.initial.obstacle s.goal names := by
  refine obstacle_congr fun lead leads => ?_
  have onTheWay : s.goal ++ lead <+: placeOf d :=
    ((List.prefix_append_right_inj _).2 leads).trans inside
  exact fits.hasFile_iff (not_isOutput_of_isPrefix hd onTheWay)

theorem follow_eq (fits : l.Fits t) (parts : List String) :
    t.follow [] (s.lead ++ parts) = t.follow s.goal parts :=
  follow_lead (fits.evolved.follow s.reached) parts

theorem hasDirectory_goal (fits : l.Fits t) : t.HasDirectory s.goal :=
  directory_of_follow (fits.evolved.follow s.reached)

theorem follow_undotted_eq (fits : l.Fits t) (q : List String) :
    t.follow [] (s.lead ++ q ++ ["."]) = t.follow s.goal (undotted q ++ ["."]) := by
  rw [List.append_assoc, s.follow_eq fits, follow_undotted]

/-- Where something is lacking, a name has been met on the way. -/
theorem undotted_ne_nil (fits : l.Fits t) {q : List String}
    (walked : t.follow [] (s.lead ++ q ++ ["."]) = .error .notFound) : undotted q ≠ [] := by
  intro empty
  obtain ⟨time, here⟩ := s.hasDirectory_goal fits
  rw [s.follow_undotted_eq fits, empty] at walked
  simp [FileTree.follow, here] at walked

/-- The answer to making a directory on the way is what the tree before all passes says, and the
directory is there if it is a good one. -/
def Settled (q : List String) (answer : Except Fault Unit) (u : FileTree) : Prop :=
  answer = verdict (l.initial.obstacle s.goal (undotted q)) ∧
    (answer = .ok () → ∃ place, u.follow [] (s.lead ++ q ++ ["."]) = .ok place)

/-- Whatever happens until a pass ends does not unsettle the matter. -/
theorem Settled.ends {q : List String} {given : Except Fault Unit} (now : l.Fits t)
    (settled : s.Settled q given t)
    (run : (Pass.done given).Runs (l.Beside d) t answer u) : s.Settled q answer u := by
  obtain ⟨rfl, later⟩ := run.of_done (Beside.stable t) (.refl now d)
  refine ⟨settled.1, fun fine => ?_⟩
  obtain ⟨place, there⟩ := settled.2 fine
  exact ⟨place, later.evolved.follow there⟩

theorem Settled.ne_notFound {q : List String} (settled : s.Settled q answer u) :
    answer ≠ .error .notFound := by
  rintro rfl
  exact obstacle_ne_notFound (verdict_eq_error_iff.1 settled.1)

/-- A dot names the directory before it. -/
theorem Settled.dot {q : List String} (settled : s.Settled q answer u) :
    s.Settled (q ++ ["."]) answer u := by
  have same : undotted (q ++ ["."]) = undotted q := by simp
  obtain ⟨verdict_eq, there⟩ := settled
  refine ⟨by rw [verdict_eq, same], fun fine => ?_⟩
  obtain ⟨place, there⟩ := there fine
  refine ⟨place, ?_⟩
  rwa [← follow_undotted, undotted_append, same, ← undotted_append, follow_undotted]

section Last

variable (hd : d ∈ l.directories) (within : q ++ [last] <+: s.rest) (solid : last ≠ ".")
  (fits : l.Fits t)

include hd within solid fits

omit hd fits in
theorem named_of_isPrefix : last ≠ "." ∧ last ≠ ".." := by
  refine ⟨solid, ?_⟩
  rintro rfl
  exact s.level (within.subset (by simp))

theorem obstacle_concat : l.initial.obstacle s.goal (undotted (q ++ [last])) =
    t.obstacle s.goal (undotted q ++ [last]) := by
  have same : undotted (q ++ [last]) = undotted q ++ [last] := by
    rw [undotted_append, undotted_single solid]
  rw [same, s.obstacle_eq hd fits]
  exact same ▸ s.undotted_isPrefix within

theorem obstacle_of_walked {place : Place}
    (walked : t.follow [] (s.lead ++ q ++ ["."]) = .ok place) :
    l.initial.obstacle s.goal (undotted (q ++ [last])) = t.obstacle place [last] := by
  have before : q <+: s.rest := (List.prefix_append _ _).trans within
  rw [s.obstacle_concat hd within solid fits]
  rw [s.follow_undotted_eq fits] at walked
  exact obstacle_of_follow (s.level_of_isPrefix before) (dot_notMem_undotted q) walked [last]

theorem settled_of_lost {fault : Fault} (found : fault ≠ .notFound)
    (walked : t.follow [] (s.lead ++ q ++ ["."]) = .error fault) :
    s.Settled (q ++ [last]) (.error fault) t := by
  have before : q <+: s.rest := (List.prefix_append _ _).trans within
  refine ⟨?_, by simp⟩
  rw [s.follow_undotted_eq fits] at walked
  rw [s.obstacle_concat hd within solid fits, obstacle_of_error (s.level_of_isPrefix before)
    (dot_notMem_undotted q) (s.hasDirectory_goal fits) walked found last]
  rfl

/-- What is in the way where something was lacking before is in the way of all behind it. -/
theorem obstacle_of_missing {fault : Fault}
    (walked : t.follow [] (s.lead ++ q ++ ["."]) = .error .notFound)
    (settled : s.Settled q (.error fault) u) : s.Settled (q ++ [last]) (.error fault) u := by
  have before : q <+: s.rest := (List.prefix_append _ _).trans within
  have blocked := verdict_eq_error_iff.1 settled.1
  rw [← s.obstacle_eq hd fits (s.undotted_isPrefix before)] at blocked
  rw [s.follow_undotted_eq fits] at walked
  refine ⟨verdict_eq_error_iff.2 ?_, by simp⟩
  rw [s.obstacle_concat hd within solid fits]
  exact obstacle_of_notFound (s.level_of_isPrefix before) (dot_notMem_undotted q) fits.wellFormed
    (s.hasDirectory_goal fits) walked blocked [last]

variable {place : Place} (walked : t.follow [] (s.lead ++ q ++ ["."]) = .ok place)

include walked

theorem settled_of_tooLong (long : isTooLong last = true) :
    s.Settled (q ++ [last]) (.error .nameTooLong) t := by
  refine ⟨?_, by simp⟩
  rw [s.obstacle_of_walked hd within solid fits walked, obstacle_of_tooLong long]
  rfl

variable (short : isTooLong last = false)

include short

omit hd fits in
theorem follow_child : t.follow [] (s.lead ++ (q ++ [last]) ++ ["."]) =
    t.follow (place ++ [last]) ["."] := by
  have named := s.named_of_isPrefix within solid
  have here : t.HasDirectory place := directory_of_follow walked
  have parts : s.lead ++ (q ++ [last]) ++ ["."] = s.lead ++ q ++ [last, "."] := by simp
  rw [parts, follow_lead walked, follow_name named here, short]
  rfl

theorem settled_of_directory (there : t.HasDirectory (place ++ [last])) :
    s.Settled (q ++ [last]) (.ok ()) t := by
  constructor
  · rw [s.obstacle_of_walked hd within solid fits walked,
      obstacle_of_passable short there.not_hasFile]
    rfl
  · intro _
    obtain ⟨time, there⟩ := there
    refine ⟨place ++ [last], ?_⟩
    rw [s.follow_child within solid walked short]
    simp [FileTree.follow, there]

theorem settled_of_file (there : t.HasFile (place ++ [last])) :
    s.Settled (q ++ [last]) (.error .alreadyExists) t := by
  refine ⟨?_, by simp⟩
  rw [s.obstacle_of_walked hd within solid fits walked, obstacle_of_file short there]
  rfl

/-- Looking whether a directory is there tells a directory from a file. -/
theorem settled_of_taken (taken : t.at? (place ++ [last]) ≠ none) :
    s.Settled (q ++ [last])
      (if t.leadsToDirectory (s.lead ++ (q ++ [last])) then .ok () else .error .alreadyExists)
      t := by
  have child := s.follow_child within solid walked short
  obtain ⟨entry, there⟩ := Option.ne_none_iff_exists'.1 taken
  cases entry with
  | directory time =>
      have reached : t.follow [] (s.lead ++ (q ++ [last]) ++ ["."]) = .ok (place ++ [last]) :=
        child.trans (by simp [FileTree.follow, there])
      have found := leadsToDirectory_of_ok reached
      rw [if_pos found]
      exact s.settled_of_directory hd within solid fits walked short ⟨time, there⟩
  | file content time =>
      have lost : t.follow [] (s.lead ++ (q ++ [last]) ++ ["."]) = .error .notADirectory :=
        child.trans (by simp [FileTree.follow, there])
      have found := leadsToDirectory_of_error lost
      rw [if_neg (by simp [found])]
      exact s.settled_of_file hd within solid fits walked short ⟨content, time, there⟩

end Last

section Making

variable (hd : d ∈ l.directories) (fits : l.Fits t)

include hd fits

/-- Trying to make one directory on the way tells that something is lacking before it, or settles
the matter. -/
theorem ensureDirectory_outcome (within : q ++ [last] <+: s.rest) (solid : last ≠ ".")
    (run : (Pass.ensureDirectory (s.lead ++ (q ++ [last]))).Runs (l.Beside d) t answer u) :
    ∃ between, l.Beside d t between ∧
      (between.follow [] (s.lead ++ q ++ ["."]) = .error .notFound ∧ answer = .error .notFound ∨
        between.follow [] (s.lead ++ q ++ ["."]) ≠ .error .notFound ∧
          s.Settled (q ++ [last]) answer u) := by
  have named := s.named_of_isPrefix within solid
  obtain ⟨between, since, rest⟩ := run.of_step (Beside.stable t) (.refl fits d)
  refine ⟨between, since, ?_⟩
  rw [← List.append_assoc] at rest
  cases walked : between.follow [] (s.lead ++ q ++ ["."]) with
  | error fault =>
      simp only [Operation.run, makeDirectory_of_lost walked] at rest
      by_cases lacking : fault = .notFound
      · subst lacking
        obtain ⟨same, _⟩ := rest.of_done (Beside.stable between) (.refl since.fits d)
        exact .inl ⟨rfl, same⟩
      · have settled := s.settled_of_lost hd within solid since.fits lacking walked
        refine .inr ⟨by simpa using lacking, ?_⟩
        cases fault with
        | alreadyExists => exact absurd walked follow_ne_alreadyExists
        | _ => exact Settled.ends s since.fits settled rest
  | ok place =>
      refine .inr ⟨by simp, ?_⟩
      cases short : isTooLong last with
      | true =>
          simp only [Operation.run, makeDirectory_of_tooLong named walked short] at rest
          have settled := s.settled_of_tooLong hd within solid since.fits walked short
          exact Settled.ends s since.fits settled rest
      | false =>
          by_cases lacking : between.at? (place ++ [last]) = none
          · have made := beside_makeDirectory hd since.fits (s.onTheWay within)
            have there := hasDirectory_addDirectory between place last
            rw [← List.append_assoc] at made
            simp only [Operation.run, makeDirectory_of_lacking named walked short lacking]
              at rest made
            have settled := s.settled_of_directory hd within solid made.fits
              (made.evolved.follow walked) short there
            exact Settled.ends s made.fits settled rest
          · simp only [Operation.run, makeDirectory_of_taken named walked short lacking] at rest
            obtain ⟨now, meanwhile, rest⟩ :=
              rest.of_step (Beside.stable between) (.refl since.fits d)
            rw [List.append_assoc] at rest
            exact Settled.ends s meanwhile.fits (s.settled_of_taken hd within solid meanwhile.fits
              (meanwhile.evolved.follow walked) short ((meanwhile.evolved _).present lacking)) rest

/-- Making the directories on the way, the longest of them first, settles the matter. -/
theorem makeFirst_settled (within : q <+: s.rest) (some_name : undotted q ≠ [])
    (run : (Pass.makeFirst (leadsOf (s.lead ++ q))).Runs (l.Beside d) t answer u) :
    s.Settled q answer u := by
  induction q using List.reverseRecOn generalizing t answer u with
  | nil => exact absurd rfl some_name
  | append_singleton q last ih =>
      have before : q <+: s.rest := (List.prefix_append _ _).trans within
      by_cases dot : last = "."
      · subst dot
        have same : undotted (q ++ ["."]) = undotted q := by simp
        rw [← List.append_assoc, leadsOf_concat, if_pos rfl] at run
        exact Settled.dot s (ih fits before (same ▸ some_name) run)
      · rw [← List.append_assoc, leadsOf_concat, if_neg dot, Pass.makeFirst, List.append_assoc]
          at run
        obtain ⟨first, now, tried, goesOn⟩ := run.of_bind
        have allowed : s.lead ++ (q ++ [last]) <+: partsOf d := s.onTheWay within
        have since := beside_of_runs hd (within_ensureDirectory allowed) fits tried
        obtain ⟨between, tried_at, ⟨walked, rfl⟩ | ⟨_, settled⟩⟩ :=
          s.ensureDirectory_outcome hd fits within dot tried
        · have leads (lead : List String) (member : lead ∈ leadsOf (s.lead ++ q)) :
              lead <+: partsOf d := (isPrefix_of_mem_leadsOf member).trans (s.onTheWay before)
          obtain ⟨second, later, others, again⟩ := goesOn.of_bind
          have meanwhile := beside_of_runs hd (within_makeFirst leads) since.fits others
          have settled := ih since.fits before (s.undotted_ne_nil tried_at.fits walked) others
          cases second with
          | error fault =>
              have blocked := s.obstacle_of_missing hd within dot tried_at.fits walked settled
              exact Settled.ends s meanwhile.fits blocked again
          | ok _ =>
              obtain ⟨place, there⟩ := settled.2 rfl
              obtain ⟨last_time, until_then, ⟨lacking, _⟩ | ⟨_, settled⟩⟩ :=
                s.ensureDirectory_outcome hd meanwhile.fits within dot again
              · rw [until_then.evolved.follow there] at lacking
                cases lacking
              · exact settled
        · cases first with
          | ok _ => exact Settled.ends s since.fits settled goesOn
          | error fault =>
              cases fault with
              | notFound => exact absurd rfl (Settled.ne_notFound s settled)
              | _ => exact Settled.ends s since.fits settled goesOn

end Making

end Site

/-- Whether an output directory can be made, and why not, is the same whatever others do meanwhile;
nothing in it changes. -/
theorem makeDirectories_settled (hd : d ∈ l.directories) :
    ∃ given, ∀ t answer u, l.Fits t → (Pass.makeDirectories d).Runs (l.Beside d) t answer u →
      answer = given ∧ l.Beside d t u ∧ (answer = .ok () → u.Entered d (placeOf d)) := by
  cases unusable : unusable? d with
  | some fault =>
      refine ⟨.error fault, fun t answer u fits run => ?_⟩
      simp only [Pass.makeDirectories, unusable] at run
      obtain ⟨rfl, same⟩ := run.of_done (Beside.stable t) (.refl fits d)
      exact ⟨rfl, same, by simp⟩
  | none =>
      obtain ⟨front, last, parts, solid, level_last⟩ := l.named d hd
      obtain ⟨lead, rest, goal, rfl, reached, level⟩ := (l.level d hd).split parts
      have level_all : ".." ∉ rest ++ [last] := by
        simp only [List.mem_append, List.mem_singleton, not_or]
        exact ⟨level, Ne.symm level_last⟩
      rw [List.append_assoc] at parts
      let s : l.Site d := ⟨lead, rest ++ [last], goal, parts, reached, level_all⟩
      refine ⟨verdict (l.initial.obstacle goal (undotted (rest ++ [last]))),
        fun t answer u fits run => ?_⟩
      have leads : leadingParts (partsOf d) = leadsOf (lead ++ (rest ++ [last])) := by
        rw [parts, ← List.append_assoc, leadingParts_concat solid, leadsOf_concat, if_neg solid]
      simp only [Pass.makeDirectories, unusable, leads] at run
      have within (lead' : List String) (member : lead' ∈ leadsOf (lead ++ (rest ++ [last]))) :
          lead' <+: partsOf d := parts ▸ isPrefix_of_mem_leadsOf member
      have settled := s.makeFirst_settled hd fits (q := rest ++ [last]) List.prefix_rfl
        (by simp [undotted_single solid]) run
      refine ⟨settled.1, beside_of_runs hd (within_makeFirst within) fits run, fun fine => ?_⟩
      obtain ⟨place, there⟩ := settled.2 fine
      have entered : u.Entered d place := by
        rw [Entered, parts]
        exact there
      exact entered.eq_placeOf ▸ entered

end Generation.Layout

end FirmwareGlue
