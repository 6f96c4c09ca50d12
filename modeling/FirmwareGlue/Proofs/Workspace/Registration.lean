import FirmwareGlue.Proofs.Workspace.Lookup
import Mathlib.Data.List.Pairwise

/-!
# Registering and looking up

A workspace comes from registering packages and modules, one after another and in any order, and
nothing keeps two of them from having the same name, GUID or version. Whatever has been registered,
the index has for each GUID exactly the places of the entries with it, in ascending order, so that a
lookup through the index gives the first entry that the reference is to. It never comes to a place
that is out of range. An entry with the GUID and version of an earlier one can only be found by its
name; every other one is what its own reference is to.
-/

namespace FirmwareGlue

/-- A reference is to an identity: the GUID is the same, and the version too if one is given. -/
def Reference.IsTo (r : Reference) (i : Identity) : Prop :=
  i.guid = r.guid ∧ ∀ version, r.version = some version → i.version = version

namespace Reference

variable {r : Reference}

theorem accepts_iff {version : String} :
    r.accepts version = true ↔ ∀ other, r.version = some other → version = other := by
  cases given : r.version with
  | none => simp [accepts, given]
  | some other =>
      simp only [accepts, given, Option.all_some, beq_iff_eq, Option.some.injEq, forall_eq']
      exact eq_comm

theorem isTo_iff_answers {i : Identity} : r.IsTo i ↔ i.answers r = true := by
  rw [IsTo, Identity.answers, Bool.and_eq_true, beq_iff_eq, accepts_iff]

theorem reference_isTo_iff {i j : Identity} :
    j.reference.IsTo i ↔ i.guid = j.guid ∧ i.version = j.version := by
  rw [isTo_iff_answers, Identity.answers_reference_iff]

/-- What is to an identity is to every other one with the same GUID and version. -/
theorem IsTo.of_reference_isTo {i j : Identity} (h : r.IsTo j) (same : j.reference.IsTo i) :
    r.IsTo i := by
  obtain ⟨guid, version⟩ := reference_isTo_iff.1 same
  rwa [isTo_iff_answers, Identity.answers_congr guid version, ← isTo_iff_answers]

end Reference

namespace Catalog

variable {α : Type} [Identified α] {c : Catalog α} {guid : Guid} {r : Reference} {entry : α}
  {i j : Nat}

theorem mem_positionsOf_iff : i ∈ c.positionsOf guid ↔
    ∃ entry, c.toList[i]? = some entry ∧ (Identified.identity entry).guid = guid := by
  simp only [positionsOf_eq, positionsIn, toList, List.mem_map, List.mem_filter,
    decide_eq_true_eq, Prod.exists, List.mk_mem_zipIdx_iff_getElem?, exists_eq_right]

/-- The index has the places of a GUID in ascending order. -/
theorem positionsOf_ascending (c : Catalog α) (guid : Guid) :
    (c.positionsOf guid).Pairwise (· < ·) := by
  have all : (c.entries.toList.zipIdx.map Prod.snd).Pairwise (· < ·) := by
    rw [List.zipIdx_map_snd]
    exact List.pairwise_lt_range'
  rw [positionsOf_eq, positionsIn]
  exact all.sublist (List.filter_sublist.map Prod.snd)

/-- The place where the index finds what a reference is to. -/
def placeOf? (c : Catalog α) (r : Reference) : Option Nat :=
  (c.positionsOf r.guid).find? fun i =>
    (c.entries[i]?).any fun entry => r.accepts (Identified.identity entry).version

/-- A lookup gives what is at the place that the index finds. -/
theorem find?_eq_bind (c : Catalog α) (r : Reference) :
    c.find? r = (c.placeOf? r).bind fun i => c.toList[i]? := by
  rw [find?, candidates, List.find?_filterMap, placeOf?]
  simp only [toList, Array.getElem?_toList]

/-- Of an ascending list, the first entry with a property is the least. -/
theorem find?_eq_some_iff_least {l : List Nat} {p : Nat → Bool} (ascending : l.Pairwise (· < ·)) :
    l.find? p = some i ↔ (i ∈ l ∧ p i = true) ∧ ∀ j ∈ l, j < i → p j = false := by
  rw [List.find?_eq_some_iff_append]
  constructor
  · rintro ⟨here, before, after, rfl, rejected⟩
    refine ⟨⟨by simp, here⟩, fun j member less => ?_⟩
    rw [List.pairwise_append, List.pairwise_cons] at ascending
    rcases List.mem_append.1 member with early | late
    · simpa using rejected j early
    · rcases List.mem_cons.1 late with rfl | late
      · exact absurd less (Nat.lt_irrefl _)
      · exact absurd less (Nat.not_lt.2 (Nat.le_of_lt (ascending.2.1.1 j late)))
  · rintro ⟨⟨member, here⟩, least⟩
    obtain ⟨before, after, rfl⟩ := List.append_of_mem member
    rw [List.pairwise_append] at ascending
    refine ⟨here, before, after, rfl, fun j early => ?_⟩
    have less : j < i := ascending.2.2 j early i List.mem_cons_self
    rw [least j (List.mem_append_left _ early) less]
    rfl

/-- The index finds the first place whose entry the reference is to. -/
theorem placeOf?_eq_some_iff : c.placeOf? r = some i ↔
    (∃ entry, c.toList[i]? = some entry ∧ r.IsTo (Identified.identity entry)) ∧
      ∀ j earlier, j < i → c.toList[j]? = some earlier →
        ¬ r.IsTo (Identified.identity earlier) := by
  have fits {j : Nat} {entry : α} (here : c.toList[j]? = some entry) :
      j ∈ c.positionsOf r.guid ∧ ((c.entries[j]?).any fun entry =>
        r.accepts (Identified.identity entry).version) = true ↔
      r.IsTo (Identified.identity entry) := by
    have same : c.entries[j]? = some entry := by rw [← here, toList, Array.getElem?_toList]
    simp only [mem_positionsOf_iff, here, same, Option.any_some, Reference.accepts_iff,
      Option.some.injEq, exists_eq_left', Reference.IsTo]
  rw [placeOf?, find?_eq_some_iff_least (c.positionsOf_ascending r.guid)]
  refine and_congr ⟨?_, ?_⟩ ⟨?_, ?_⟩
  · rintro ⟨member, accepted⟩
    obtain ⟨entry, here, _⟩ := mem_positionsOf_iff.1 member
    exact ⟨entry, here, (fits here).1 ⟨member, accepted⟩⟩
  · rintro ⟨entry, here, isTo⟩
    exact (fits here).2 isTo
  · intro least j earlier less there isTo
    obtain ⟨member, accepted⟩ := (fits there).2 isTo
    rw [least j member less] at accepted
    cases accepted
  · intro none j member less
    obtain ⟨earlier, there, _⟩ := mem_positionsOf_iff.1 member
    by_contra accepted
    rw [Bool.not_eq_false] at accepted
    exact none j earlier less there ((fits there).1 ⟨member, accepted⟩)

/-- Lookups among some entries: what the index holds, and what it makes of a reference. The place of
an entry tells it from its copies. -/
structure FirstWins (c : Catalog α) (lookup : Reference → Option α) (entries : List α) : Prop where
  /-- The index has exactly the places of each GUID, none of them out of range. -/
  indexed : ∀ guid i, i ∈ c.positionsOf guid ↔
    ∃ entry, entries[i]? = some entry ∧ (Identified.identity entry).guid = guid
  inside : ∀ guid i, i ∈ c.positionsOf guid → i < c.entries.size
  ascending : ∀ guid, (c.positionsOf guid).Pairwise (· < ·)
  /-- A lookup gives what stands at the place that the index finds, -/
  placed : ∀ r, lookup r = (c.placeOf? r).bind fun i => entries[i]?
  /-- which is the first one whose entry the reference is to. -/
  first : ∀ r i, c.placeOf? r = some i ↔
    (∃ entry, entries[i]? = some entry ∧ r.IsTo (Identified.identity entry)) ∧
      ∀ j earlier, j < i → entries[j]? = some earlier → ¬ r.IsTo (Identified.identity earlier)
  found : ∀ r entry, lookup r = some entry ↔ ∃ before after, entries = before ++ entry :: after ∧
    r.IsTo (Identified.identity entry) ∧
      ∀ earlier ∈ before, ¬ r.IsTo (Identified.identity earlier)
  missing : ∀ r, lookup r = none ↔ ∀ entry ∈ entries, ¬ r.IsTo (Identified.identity entry)
  /-- An entry is what its own reference is to, unless an earlier one has its GUID and version. -/
  own : ∀ i entry, entries[i]? = some entry →
    (c.placeOf? (Identified.identity entry).reference = some i ↔
      ∀ j earlier, j < i → entries[j]? = some earlier →
        ¬ ((Identified.identity earlier).guid = (Identified.identity entry).guid ∧
          (Identified.identity earlier).version = (Identified.identity entry).version))
  /-- An entry that has been found is what its own reference is to. -/
  again : ∀ r i entry, c.placeOf? r = some i → entries[i]? = some entry →
    c.placeOf? (Identified.identity entry).reference = some i

theorem firstWins (c : Catalog α) : FirstWins c c.find? c.toList where
  indexed _ _ := mem_positionsOf_iff
  inside _ _ member := by
    obtain ⟨_, here, _⟩ := mem_positionsOf_iff.1 member
    exact (List.getElem?_eq_some_iff.1 here).1
  ascending := c.positionsOf_ascending
  placed := c.find?_eq_bind
  first _ _ := placeOf?_eq_some_iff
  found r entry := by
    simp only [find?_eq, List.find?_eq_some_iff_append, Reference.isTo_iff_answers,
      Bool.not_eq_true', Bool.not_eq_true]
    constructor
    · rintro ⟨here, before, after, split, rejected⟩
      exact ⟨before, after, split, here, rejected⟩
    · rintro ⟨before, after, split, here, rejected⟩
      exact ⟨here, before, after, split, rejected⟩
  missing r := by
    simp only [find?_eq, List.find?_eq_none, Reference.isTo_iff_answers]
  own i entry here := by
    simp only [placeOf?_eq_some_iff, Reference.reference_isTo_iff]
    exact and_iff_right ⟨entry, here, rfl, rfl⟩
  again r i entry placed here := by
    obtain ⟨⟨_, there, isTo⟩, earlierNot⟩ := placeOf?_eq_some_iff.1 placed
    cases here.symm.trans there
    refine placeOf?_eq_some_iff.2 ⟨⟨entry, here, Reference.reference_isTo_iff.2 ⟨rfl, rfl⟩⟩, ?_⟩
    intro j earlier less there same
    exact earlierNot j earlier less there (isTo.of_reference_isTo same)

end Catalog

/-- A further package or module. -/
inductive Registration where
  | package (p : Package)
  | module (m : Module)

namespace Registration

def package? : Registration → Option Package
  | package p => some p
  | module _ => none

def module? : Registration → Option Module
  | package _ => none
  | module m => some m

end Registration

namespace Workspace

def extend (ws : Workspace) : Registration → Workspace
  | .package p => ws.addPackage p
  | .module m => ws.addModule m

def extendAll (ws : Workspace) (later : List Registration) : Workspace :=
  later.foldl extend ws

/-- A registration appends to the packages or to the modules. -/
theorem extend_toList (ws : Workspace) (r : Registration) :
    (ws.extend r).packages.toList = ws.packages.toList ++ r.package?.toList ∧
      (ws.extend r).modules.toList = ws.modules.toList ++ r.module?.toList := by
  cases r with
  | package p => exact ⟨Catalog.toList_add _ p, (List.append_nil _).symm⟩
  | module m => exact ⟨(List.append_nil _).symm, Catalog.toList_add _ m⟩

/-- Registered is what has been registered, in this order. -/
theorem extendAll_toList (ws : Workspace) (later : List Registration) :
    (ws.extendAll later).packages.toList =
        ws.packages.toList ++ later.filterMap Registration.package? ∧
      (ws.extendAll later).modules.toList =
        ws.modules.toList ++ later.filterMap Registration.module? := by
  induction later generalizing ws with
  | nil => exact ⟨(List.append_nil _).symm, (List.append_nil _).symm⟩
  | cons next rest ih =>
      obtain ⟨packages, modules⟩ := ih (ws.extend next)
      obtain ⟨nextPackages, nextModules⟩ := extend_toList ws next
      rw [nextPackages, List.append_assoc] at packages
      rw [nextModules, List.append_assoc] at modules
      exact ⟨packages.trans (by cases next <;> rfl), modules.trans (by cases next <;> rfl)⟩

/-- Whatever has been registered, and in whatever order, lookups through the index give the first
entry that the reference is to. -/
theorem registered_firstWins (registrations : List Registration) :
    (empty.extendAll registrations).packages.FirstWins (empty.extendAll registrations).package?
        (registrations.filterMap Registration.package?) ∧
      (empty.extendAll registrations).modules.FirstWins (empty.extendAll registrations).module?
        (registrations.filterMap Registration.module?) := by
  obtain ⟨packages, modules⟩ := extendAll_toList empty registrations
  replace packages : _ = registrations.filterMap Registration.package? := packages
  replace modules : _ = registrations.filterMap Registration.module? := modules
  have lookup : (empty.extendAll registrations).package? =
      (empty.extendAll registrations).packages.find? :=
    funext (empty.extendAll registrations).package?_eq
  rw [← packages, ← modules, lookup]
  exact ⟨Catalog.firstWins _, Catalog.firstWins _⟩

/-- A library instance, known by its name only. -/
def namedInstance (name : String) : Module where
  identity := ⟨name, ⟨Vector.replicate 16 1⟩, "1.0"⟩
  type := .base
  isLibrary := true

/-- Two library instances that only their names tell apart. -/
def namesakes : List Registration :=
  [.module (namedInstance "First"), .module (namedInstance "Second")]

/-- Of two instances with one GUID and version, the second is not what its own reference is to. -/
theorem second_hidden :
    (empty.extendAll namesakes).module? (namedInstance "Second").identity.reference =
        some (namedInstance "First") ∧
      (empty.extendAll namesakes).modules.placeOf? (namedInstance "Second").identity.reference ≠
        some 1 := by
  have lookups := (registered_firstWins namesakes).2
  refine ⟨(lookups.found _ _).2 ⟨[], [namedInstance "Second"], rfl, ?_, by simp⟩, ?_⟩
  · exact Reference.reference_isTo_iff.2 ⟨rfl, rfl⟩
  · intro found
    exact (lookups.own 1 _ rfl).1 found 0 _ Nat.zero_lt_one rfl ⟨rfl, rfl⟩

end Workspace

end FirmwareGlue
