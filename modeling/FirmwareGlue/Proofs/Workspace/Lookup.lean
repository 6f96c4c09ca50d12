import FirmwareGlue.Workspace.Basic
import Mathlib.Data.List.Basic
import Mathlib.Data.List.Find

/-!
# Lookups by reference

The index of a catalog does not show in its answers: a lookup gives the first entry, in the order of
registration, that the reference is to. What a lookup gives is therefore determined by its GUID and
version alone, and the entry's own reference gives it again. A later entry with the same GUID and
version is never found.
-/

namespace FirmwareGlue

namespace Identity

variable {i j : Identity}

theorem answers_congr (guid : i.guid = j.guid) (version : i.version = j.version) (r : Reference) :
    i.answers r = j.answers r := by
  simp [answers, guid, version]

theorem answers_reference_iff : i.answers j.reference = true ↔
    i.guid = j.guid ∧ i.version = j.version := by
  simp [answers, reference, Reference.accepts, eq_comm (a := j.version)]

end Identity

namespace Catalog

variable {α : Type} [Identified α]

theorem filterMap_positionsIn (guid : Guid) (entries : List α) :
    (positionsIn guid entries).filterMap (fun i => entries[i]?) =
      entries.filter fun entry => (Identified.identity entry).guid = guid := by
  let here : α × Nat → Bool := fun entry => (Identified.identity entry.1).guid = guid
  have located : ∀ entry ∈ entries.zipIdx.filter here, entries[entry.2]? = some entry.1 :=
    fun entry member => List.mk_mem_zipIdx_iff_getElem?.1 (List.mem_filter.1 member).1
  calc (positionsIn guid entries).filterMap (fun i => entries[i]?)
      = (entries.zipIdx.filter here).filterMap (fun entry => entries[entry.2]?) := by
        rw [positionsIn, List.filterMap_map]
        rfl
    _ = (entries.zipIdx.filter here).filterMap (fun entry => some entry.1) :=
        List.filterMap_congr located
    _ = (entries.zipIdx.filter here).map Prod.fst := by
        rw [List.filterMap_eq_map']
    _ = (entries.zipIdx.map Prod.fst).filter
          (fun entry => (Identified.identity entry).guid = guid) := by
        rw [List.filter_map]
        rfl
    _ = entries.filter fun entry => (Identified.identity entry).guid = guid := by
        rw [List.zipIdx_map_fst]

/-- The index leads to the entries with the GUID and to no others. -/
theorem candidates_eq (c : Catalog α) (guid : Guid) :
    c.candidates guid = c.toList.filter fun entry => (Identified.identity entry).guid = guid := by
  rw [candidates, positionsOf_eq, toList, ← filterMap_positionsIn]
  simp only [Array.getElem?_toList]

/-- A lookup gives what a search through all entries, in the order of registration, gives. -/
theorem find?_eq (c : Catalog α) (r : Reference) :
    c.find? r = c.toList.find? fun entry => (Identified.identity entry).answers r := by
  rw [find?, candidates_eq, List.find?_filter]
  simp only [Bool.decide_and, Bool.decide_eq_true]
  rfl

theorem mem_of_find? {c : Catalog α} {r : Reference} {entry : α} (h : c.find? r = some entry) :
    entry ∈ c.toList := by
  rw [find?_eq] at h
  exact List.mem_of_find?_eq_some h

/-- The reference of an entry that was found is to that entry. -/
theorem find?_reference {c : Catalog α} {r : Reference} {entry : α} (h : c.find? r = some entry) :
    c.find? (Identified.identity entry).reference = some entry := by
  rw [find?_eq, List.find?_eq_some_iff_append] at h ⊢
  obtain ⟨accepted, before, after, split, rejected⟩ := h
  refine ⟨Identity.answers_reference _, before, after, split, ?_⟩
  intro earlier member
  have notThis := rejected earlier member
  by_contra same
  rw [Bool.not_eq_true', Bool.not_eq_false, Identity.answers_reference_iff] at same
  rw [Identity.answers_congr same.1 same.2, accepted] at notThis
  cases notThis

/-- Of the entries with one GUID and version, lookups give one only. -/
theorem eq_of_find? {c : Catalog α} {r s : Reference} {a b : α} (ha : c.find? r = some a)
    (hb : c.find? s = some b)
    (guid : (Identified.identity a).guid = (Identified.identity b).guid)
    (version : (Identified.identity a).version = (Identified.identity b).version) : a = b := by
  have same : (Identified.identity a).reference = (Identified.identity b).reference := by
    simp [Identity.reference, guid, version]
  have found := find?_reference ha
  rw [same, find?_reference hb] at found
  exact (Option.some.inj found).symm

end Catalog

namespace Workspace

variable {ws : Workspace} {r s : Reference} {m n : Module}

/-- Comparing the GUID of a package again decides nothing: the index leads to no other package. -/
theorem package?_eq (ws : Workspace) (r : Reference) : ws.package? r = ws.packages.find? r := by
  rw [package?, Catalog.find?]
  apply List.find?_congr
  intro p member
  have guid : p.identity.guid = r.guid := by
    rw [Catalog.candidates_eq] at member
    exact of_decide_eq_true (List.mem_filter.1 member).2
  rw [Identity.answers, guid, beq_self_eq_true, Bool.true_and]
  rfl

theorem mem_of_module? (h : ws.module? r = some m) : m ∈ ws.modules.toList :=
  Catalog.mem_of_find? h

theorem module?_reference (h : ws.module? r = some m) :
    ws.module? m.identity.reference = some m :=
  Catalog.find?_reference h

theorem eq_of_module? (hm : ws.module? r = some m) (hn : ws.module? s = some n)
    (guid : m.identity.guid = n.identity.guid)
    (version : m.identity.version = n.identity.version) : m = n :=
  Catalog.eq_of_find? hm hn guid version

/-- Modules that are registered one after another follow those that were registered before. -/
theorem foldl_addModule (f : Module → Module) (modules : List Module) (made : Workspace) :
    (modules.foldl (fun made m => made.addModule (f m)) made).packages = made.packages ∧
      (modules.foldl (fun made m => made.addModule (f m)) made).modules.toList =
        made.modules.toList ++ modules.map f := by
  induction modules generalizing made with
  | nil => simp
  | cons m rest ih =>
      obtain ⟨packages, modules⟩ := ih (made.addModule (f m))
      refine ⟨packages, modules.trans ?_⟩
      simp [addModule]

end Workspace

end FirmwareGlue
