/-!
# Tables with one value per key

A table keeps at most one value for each key: writing a key again replaces its value. Looking a
key up after a write gives the new value for that key and the old answer for every other.
-/

namespace FirmwareGlue

/-- Values by key. Entries stand in the order in which their keys were first written. -/
structure Table (κ ν : Type) where
  entries : List (κ × ν) := []
  deriving DecidableEq

namespace Table

variable {κ ν : Type} [DecidableEq κ]

theorem lookup_cons_ne {key other : κ} (h : other ≠ key) (value : ν) (rest : List (κ × ν)) :
    ((key, value) :: rest).lookup other = rest.lookup other := by
  have hne : (other == key) = false := beq_eq_false_iff_ne.2 h
  simp [List.lookup_cons, hne]

def empty : Table κ ν := ⟨[]⟩

def find? (t : Table κ ν) (key : κ) : Option ν :=
  t.entries.lookup key

/-- Writes a key into a list of entries, in place of its older value if it has one. -/
def insertInto (key : κ) (value : ν) : List (κ × ν) → List (κ × ν)
  | [] => [(key, value)]
  | entry :: rest =>
    if entry.1 = key then (key, value) :: rest else entry :: insertInto key value rest

def insert (t : Table κ ν) (key : κ) (value : ν) : Table κ ν :=
  ⟨insertInto key value t.entries⟩

/-- The table of some pairs; of two pairs with one key the later counts. -/
def ofList (pairs : List (κ × ν)) : Table κ ν :=
  pairs.foldl (fun t pair => t.insert pair.1 pair.2) empty

@[simp] theorem find?_empty (key : κ) : (empty : Table κ ν).find? key = none := rfl

theorem lookup_insertInto (entries : List (κ × ν)) (key : κ) (value : ν) (other : κ) :
    (insertInto key value entries).lookup other =
      if other = key then some value else entries.lookup other := by
  induction entries with
  | nil =>
    by_cases h : other = key
    · simp [insertInto, h]
    · simp [insertInto, h, lookup_cons_ne h]
  | cons entry rest ih =>
    obtain ⟨written, old⟩ := entry
    by_cases hw : written = key
    · subst hw
      by_cases h : other = written
      · simp [insertInto, h]
      · simp [insertInto, h, lookup_cons_ne h]
    · by_cases h : other = written
      · subst h
        simp [insertInto, hw]
      · simp [insertInto, hw, lookup_cons_ne h, ih]

@[simp] theorem find?_insert (t : Table κ ν) (key : κ) (value : ν) (other : κ) :
    (t.insert key value).find? other = if other = key then some value else t.find? other :=
  lookup_insertInto t.entries key value other

end Table

end FirmwareGlue
