import FirmwareGlue.Firmware.Identity
import FirmwareGlue.Table

/-!
# Catalogs

A catalog holds what has been registered, in the order of registration, and finds it by reference.
Several entries may share a GUID, even a GUID and a version; the one that was registered first
answers. An index from each GUID to the positions of its entries, in ascending order, spares the
search through all of them. The index is right by construction.
-/

namespace FirmwareGlue

namespace Catalog

variable {α : Type} [Identified α]

/-- The positions in a list at which a GUID stands, in ascending order. -/
def positionsIn (guid : Guid) (entries : List α) : List Nat :=
  (entries.zipIdx.filter fun entry => (Identified.identity entry.1).guid = guid).map Prod.snd

theorem positionsIn_concat (guid : Guid) (entries : List α) (entry : α) :
    positionsIn guid (entries ++ [entry]) =
      if (Identified.identity entry).guid = guid then positionsIn guid entries ++ [entries.length]
      else positionsIn guid entries := by
  by_cases h : (Identified.identity entry).guid = guid
  · simp [positionsIn, List.zipIdx_append, h]
  · simp [positionsIn, List.zipIdx_append, h]

end Catalog

/-- Registered things in order, with the positions of each GUID. -/
structure Catalog (α : Type) [Identified α] where
  entries : Array α
  positions : Table Guid (List Nat)
  indexed : ∀ guid,
    (positions.find? guid).getD [] = Catalog.positionsIn guid entries.toList

namespace Catalog

variable {α : Type} [Identified α]

def empty : Catalog α where
  entries := #[]
  positions := .empty
  indexed := fun _ => rfl

def positionsOf (c : Catalog α) (guid : Guid) : List Nat :=
  (c.positions.find? guid).getD []

theorem positionsOf_eq (c : Catalog α) (guid : Guid) :
    c.positionsOf guid = positionsIn guid c.entries.toList :=
  c.indexed guid

def add (c : Catalog α) (entry : α) : Catalog α where
  entries := c.entries.push entry
  positions :=
    let guid := (Identified.identity entry).guid
    c.positions.insert guid (c.positionsOf guid ++ [c.entries.size])
  indexed := by
    intro guid
    rw [Array.toList_push, positionsIn_concat, Table.find?_insert]
    by_cases h : guid = (Identified.identity entry).guid
    · simp [h, positionsOf_eq]
    · rw [if_neg h, if_neg (Ne.symm h)]
      exact c.indexed guid

/-- The entries to which the index leads for a GUID, in the order of registration. -/
def candidates (c : Catalog α) (guid : Guid) : List α :=
  (c.positionsOf guid).filterMap fun i => c.entries[i]?

/-- The first entry that a reference accepts, among those with its GUID. -/
def find? (c : Catalog α) (r : Reference) : Option α :=
  (c.candidates r.guid).find? fun entry => r.accepts (Identified.identity entry).version

def toList (c : Catalog α) : List α := c.entries.toList

@[simp] theorem toList_empty : (empty : Catalog α).toList = [] := rfl

@[simp] theorem toList_add (c : Catalog α) (entry : α) :
    (c.add entry).toList = c.toList ++ [entry] := by
  simp [add, toList]

end Catalog

end FirmwareGlue
