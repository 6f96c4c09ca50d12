import FirmwareGlue.Proofs.Glue.Counts

/-!
# The driver-model table

Four lists of a driver are made into one table, with a row for each driver binding and a column for
each further protocol. Next to the table stand the declarations of the objects that it refers to,
the number of its rows, and a bitmask of the columns in use. A column may be left out by a
configuration value of the module; the bitmask and the declarations follow that, but the list of the
column still has to be as long as the list of bindings.
-/

namespace FirmwareGlue

open Code

namespace DriverModel

variable {model : DriverModel} {e : Error}

/-- The error is that of the first group that does not line up, whether its column is used or
not. -/
theorem check_error_iff : model.check = .error e ↔ model.Misaligned e := by
  constructor
  · exact check_error
  · rintro ⟨before, g, after, split, earlier, wrong, rfl⟩
    have found : DriverModelGroup.all.find? (fun g => !model.aligned g) = some g := by
      refine List.find?_eq_some_iff_append.2 ⟨by simpa using wrong, before, after, split, ?_⟩
      simpa using earlier
    rw [check, found]

end DriverModel

namespace Code

/-- The object that an item declares, with its type. -/
@[simp] def Item.object? : Item → Option (String × String)
  | externObject type name => some (type, name)
  | _ => none

@[simp] def Item.rows? : Item → Option (List BindingRow)
  | bindingTable rows => some rows
  | _ => none

def objects (items : List Item) : List (String × String) :=
  items.filterMap Item.object?

def tables (items : List Item) : List (List BindingRow) :=
  items.filterMap Item.rows?

@[simp] theorem objects_append (first second : List Item) :
    objects (first ++ second) = objects first ++ objects second :=
  List.filterMap_append

@[simp] theorem tables_append (first second : List Item) :
    tables (first ++ second) = tables first ++ tables second :=
  List.filterMap_append

end Code

namespace Glue

/-- The objects that a table refers to: its bindings, and then what stands in its columns. -/
def tableObjects (rows : List BindingRow) : List (String × String) :=
  rows.map (fun row => ("EFI_DRIVER_BINDING_PROTOCOL", row.binding)) ++
    DriverModelGroup.all.zipIdx.flatMap fun entry =>
      (column rows entry.2).map fun symbol => (entry.1.protocolType, symbol)

def objectLine (object : String × String) : String :=
  "extern " ++ object.1 ++ "  " ++ object.2 ++ ";\n"

/-- A row as it is written: its binding, and in each further column an object or nothing. -/
def rowText (row : BindingRow) : String :=
  "  \x7b\n" ++
    String.intercalate ",\n" (("    &" ++ row.binding) :: row.others.map fun
      | some symbol => "    &" ++ symbol
      | none => "    NULL") ++
    "\n  \x7d"

def driverModelText (mask : Nat) (rows : List BindingRow) : String :=
  concat ((tableObjects rows).map objectLine) ++ (if rows = [] then "" else "\n") ++
    "GLOBAL_REMOVE_IF_UNREFERENCED const UINT8  _gDriverModelProtocolBitmask = "
      ++ toString mask ++ ";\n" ++
    "GLOBAL_REMOVE_IF_UNREFERENCED const UINTN  _gDriverModelProtocolListEntries = "
      ++ toString rows.length ++ ";\n\n" ++
    if rows = [] then ""
    else
      "GLOBAL_REMOVE_IF_UNREFERENCED const EFI_DRIVER_MODEL_PROTOCOL_LIST  "
        ++ "_gDriverModelProtocolList[] = \x7b\n"
        ++ String.intercalate ",\n" (rows.map rowText) ++ "\n\x7d;\n\n"

variable {v : View} {honorPcds : Bool} {g : DriverModelGroup} {place : Nat} {items : List Item}

/-- A group is switched off by a configuration value of the module that is respected. -/
def SwitchedOff (v : View) (honorPcds : Bool) (g : DriverModelGroup) : Prop :=
  honorPcds = true ∧ ∃ pcd, g.switch? = some pcd ∧ v.pcdEnabled pcd = true

/-- What is generated for a driver model whose groups line up: a table of some rows, and a bitmask
of the groups that have a column in use. -/
structure EmitsTable (v : View) (honorPcds : Bool) (mask : Nat) (rows : List BindingRow)
    (items : List Item) : Prop where
  /-- The constants say which columns are in use and how many rows there are. -/
  constants : constants items = [⟨true, .uint8, 2, "_gDriverModelProtocolBitmask", mask⟩,
    ⟨true, .uintn, 2, "_gDriverModelProtocolListEntries", rows.length⟩]
  /-- There is no table without a row. -/
  tables : tables items = if rows = [] then [] else [rows]
  /-- What is declared is what the table refers to. -/
  objects : objects items = tableObjects rows
  text : itemsText items = driverModelText mask rows
  /-- There is a row for each binding, which begins with it. -/
  bindings : rows.map BindingRow.binding = v.driverModel.bindings
  columns : ∀ row ∈ rows, row.others.length = DriverModelGroup.all.length
  /-- A column in use has the entries of its group. -/
  used : ∀ g place, (g, place) ∈ DriverModelGroup.all.zipIdx → mask &&& g.bit ≠ 0 →
    ∀ (i : Nat) (row : BindingRow), rows[i]? = some row →
      ∃ symbol, (v.driverModel.group g)[i]? = some symbol ∧
        row.others[place]? = some (some symbol)
  /-- A column that is not in use is empty. -/
  unused : ∀ g place, (g, place) ∈ DriverModelGroup.all.zipIdx → mask &&& g.bit = 0 →
    ∀ row ∈ rows, row.others[place]? = some none
  bit : ∀ g, mask &&& g.bit ≠ 0 ↔ v.driverModel.group g ≠ [] ∧ ¬ SwitchedOff v honorPcds g
  octet : mask < 8
  bound : mask ≠ 0 → rows ≠ []

theorem switchedOff_iff : switchedOff v honorPcds g = true ↔ SwitchedOff v honorPcds g := by
  simp [switchedOff, SwitchedOff, Option.any_eq_true]

theorem present_iff : present v honorPcds g = true ↔
    v.driverModel.group g ≠ [] ∧ ¬ SwitchedOff v honorPcds g := by
  rw [← switchedOff_iff]
  simp [present]

/-- The bits of the groups are different ones, so each can be read back from the sum of some of
them. -/
theorem sum_bits (used : DriverModelGroup → Bool) :
    let mask := ((DriverModelGroup.all.filter used).map DriverModelGroup.bit).foldl (· + ·) 0
    (∀ g, mask &&& g.bit ≠ 0 ↔ used g = true) ∧ mask < 8 := by
  simp only [DriverModelGroup.all, List.filter_cons, List.filter_nil]
  -- Which of the three groups are used is all that matters.
  cases name : used .componentName
  all_goals cases configuration : used .driverConfiguration
  all_goals cases diagnostics : used .driverDiagnostics
  all_goals
    refine ⟨?_, by decide⟩
    rintro (_ | _ | _)
    all_goals simp [*, DriverModelGroup.bit]

theorem bitmask_bit (v : View) (honorPcds : Bool) (g : DriverModelGroup) :
    bitmask v honorPcds &&& g.bit ≠ 0 ↔ present v honorPcds g = true :=
  (sum_bits (present v honorPcds)).1 g

theorem bitmask_lt (v : View) (honorPcds : Bool) : bitmask v honorPcds < 8 :=
  (sum_bits (present v honorPcds)).2

/-- A bitmask that is not zero has the bit of some group. -/
theorem exists_present (h : bitmask v honorPcds ≠ 0) : ∃ g, present v honorPcds g = true := by
  by_contra none
  rw [not_exists] at none
  apply h
  simp [bitmask, List.filter_eq_nil_iff.2 fun g _ => none g]

/-- A column that is in use has as many entries as there are bindings. -/
theorem length_of_present (aligned : v.driverModel.aligned g = true)
    (inUse : present v honorPcds g = true) :
    (v.driverModel.group g).length = v.driverModel.bindings.length := by
  rcases DriverModel.aligned_iff.1 aligned with empty | same
  · exact absurd empty (present_iff.1 inUse).1
  · exact same

theorem others_bindingRows (listed : (g, place) ∈ DriverModelGroup.all.zipIdx) {i : Nat}
    {row : BindingRow} (found : (bindingRows v honorPcds)[i]? = some row) :
    row.others[place]? = some (rowEntry v honorPcds i g) := by
  rw [bindingRows, List.getElem?_map, List.getElem?_zipIdx] at found
  simp only [Option.map_map, Option.map_eq_some_iff, Nat.zero_add] at found
  obtain ⟨binding, _, rfl⟩ := found
  exact getElem?_map_rowEntry listed i

/-- A column in use has the entry of its group in each row. -/
theorem exists_rowEntry (aligned : v.driverModel.aligned g = true)
    (inUse : present v honorPcds g = true) {i : Nat} (inside : i < v.driverModel.bindings.length) :
    ∃ symbol, (v.driverModel.group g)[i]? = some symbol ∧
      rowEntry v honorPcds i g = some symbol := by
  rw [← length_of_present aligned inUse] at inside
  have entry := List.getElem?_eq_getElem inside
  exact ⟨_, entry, by rw [rowEntry, if_pos inUse, entry]⟩

theorem bindingRows_eq_nil_iff : bindingRows v honorPcds = [] ↔ v.driverModel.bindings = [] := by
  rw [← bindings_bindingRows v honorPcds, List.map_eq_nil_iff]

theorem bindingExterns_eq_map (aligned : ∀ g, v.driverModel.aligned g = true) :
    bindingExterns v honorPcds =
      (tableObjects (bindingRows v honorPcds)).map fun o => .externObject o.1 o.2 := by
  rw [bindingExterns_eq aligned, tableObjects, List.map_append, List.map_map, List.map_flatMap]
  simp only [List.map_map]
  rfl

theorem objects_bindingExterns (aligned : ∀ g, v.driverModel.aligned g = true) :
    objects (bindingExterns v honorPcds) = tableObjects (bindingRows v honorPcds) := by
  rw [bindingExterns_eq_map aligned, objects, List.filterMap_map]
  exact List.filterMap_some

theorem itemsText_bindingExterns (aligned : ∀ g, v.driverModel.aligned g = true) :
    itemsText (bindingExterns v honorPcds) =
      concat ((tableObjects (bindingRows v honorPcds)).map objectLine) := by
  rw [bindingExterns_eq_map aligned, itemsText, List.map_map]
  rfl

theorem tables_bindingExterns (v : View) (honorPcds : Bool) :
    tables (bindingExterns v honorPcds) = [] :=
  List.filterMap_eq_nil_iff.2 (forall_bindingExterns (fun _ _ => rfl) v honorPcds)

/-- The items of a driver model, as they are made from the rows. -/
theorem driverModelItems_eq (made : driverModelItems v honorPcds = .ok items) :
    items = bindingExterns v honorPcds ++
      (if bindingRows v honorPcds = [] then [] else [.blank]) ++
      [.constant ⟨true, .uint8, 2, "_gDriverModelProtocolBitmask", bitmask v honorPcds⟩,
        .constant ⟨true, .uintn, 2, "_gDriverModelProtocolListEntries",
          (bindingRows v honorPcds).length⟩, .blank] ++
      (if bindingRows v honorPcds = [] then []
        else [.bindingTable (bindingRows v honorPcds)]) := by
  obtain ⟨_, _, result⟩ := bind_ok_iff.1 made
  cases result
  have count : v.driverModel.bindings.length = (bindingRows v honorPcds).length := by
    rw [← bindings_bindingRows v honorPcds, List.length_map]
  simp only [count, List.length_eq_zero_iff]

theorem itemsText_constants (mask count : Nat) :
    itemsText [.constant ⟨true, .uint8, 2, "_gDriverModelProtocolBitmask", mask⟩,
      .constant ⟨true, .uintn, 2, "_gDriverModelProtocolListEntries", count⟩, .blank] =
    "GLOBAL_REMOVE_IF_UNREFERENCED const UINT8  _gDriverModelProtocolBitmask = "
      ++ toString mask ++ ";\n" ++
    ("GLOBAL_REMOVE_IF_UNREFERENCED const UINTN  _gDriverModelProtocolListEntries = "
      ++ toString count ++ ";\n\n") := by
  have bits : removableMark ++ "const " ++ "UINT8" ++ "".pushn ' ' 2
        ++ "_gDriverModelProtocolBitmask" ++ " = " =
      "GLOBAL_REMOVE_IF_UNREFERENCED const UINT8  _gDriverModelProtocolBitmask = " := rfl
  have entries : removableMark ++ "const " ++ "UINTN" ++ "".pushn ' ' 2
        ++ "_gDriverModelProtocolListEntries" ++ " = " =
      "GLOBAL_REMOVE_IF_UNREFERENCED const UINTN  _gDriverModelProtocolListEntries = " := rfl
  have close : ";\n" ++ itemsText [.blank] = ";\n\n" := rfl
  rw [itemsText_cons, itemsText_cons, Item.text, Item.text, Constant.text, Constant.text,
    if_pos rfl, IntegerType.spelling, IntegerType.spelling, bits, entries]
  simp only [String.append_assoc, close]

theorem row_text (row : BindingRow) : row.text = rowText row := by
  have entry (other : Option String) : ",\n    " ++ objectText other =
      ",\n" ++ (match other with
        | some symbol => "    &" ++ symbol
        | none => "    NULL") := by
    cases other with
    | none => rfl
    | some symbol =>
        rw [objectText, ← String.append_assoc, ← String.append_assoc]
        rfl
  have opening (rest : String) : "  \x7b\n" ++ ("    &" ++ rest) = "  \x7b\n    &" ++ rest :=
    (String.append_assoc ..).symm
  rw [BindingRow.text, rowText, intercalate_cons_eq, List.map_map]
  simp only [String.append_assoc, opening, entry, Function.comp_def]

theorem itemsText_bindingTable (rows : List BindingRow) : itemsText [.bindingTable rows] =
    "GLOBAL_REMOVE_IF_UNREFERENCED const EFI_DRIVER_MODEL_PROTOCOL_LIST  "
      ++ "_gDriverModelProtocolList[] = \x7b\n"
      ++ String.intercalate ",\n" (rows.map rowText) ++ "\n\x7d;\n\n" := by
  have front : removableMark ++
        "const EFI_DRIVER_MODEL_PROTOCOL_LIST  _gDriverModelProtocolList[] = \x7b\n" =
      "GLOBAL_REMOVE_IF_UNREFERENCED const EFI_DRIVER_MODEL_PROTOCOL_LIST  "
        ++ "_gDriverModelProtocolList[] = \x7b\n" := rfl
  rw [itemsText_cons, Item.text, front, itemsText_nil, String.append_empty,
    List.map_congr_left fun row _ => row_text row]

theorem itemsText_driverModelItems (aligned : ∀ g, v.driverModel.aligned g = true)
    (made : driverModelItems v honorPcds = .ok items) :
    itemsText items = driverModelText (bitmask v honorPcds) (bindingRows v honorPcds) := by
  rw [driverModelItems_eq made, driverModelText]
  simp only [itemsText_append, itemsText_bindingExterns aligned, itemsText_constants]
  by_cases unbound : bindingRows v honorPcds = []
  · simp only [if_pos unbound, itemsText_nil, String.append_assoc]
  · simp only [if_neg unbound, itemsText_blank, itemsText_bindingTable, String.append_assoc]

theorem emitsTable (made : driverModelItems v honorPcds = .ok items) :
    EmitsTable v honorPcds (bitmask v honorPcds) (bindingRows v honorPcds) items := by
  have aligned : ∀ g, v.driverModel.aligned g = true := by
    obtain ⟨_, checked, _⟩ := bind_ok_iff.1 made
    exact DriverModel.check_ok_iff.1 checked
  exact {
    constants := by
      rw [constants_driverModelItems made, ← bindings_bindingRows v honorPcds, List.length_map]
    tables := by
      rw [driverModelItems_eq made]
      simp only [tables_append, tables_bindingExterns]
      split
      · rfl
      · rfl
    objects := by
      rw [driverModelItems_eq made]
      simp only [objects_append, objects_bindingExterns aligned]
      split
      · simp [objects]
      · simp [objects]
    text := itemsText_driverModelItems aligned made
    bindings := bindings_bindingRows v honorPcds
    columns := by
      intro row member
      obtain ⟨entry, _, rfl⟩ := List.mem_map.1 member
      exact List.length_map _
    used := by
      intro g place listed inUse i row found
      have inUse := (bitmask_bit v honorPcds g).1 inUse
      have inside : i < v.driverModel.bindings.length := by
        rw [← bindings_bindingRows v honorPcds, List.length_map]
        exact (List.getElem?_eq_some_iff.1 found).1
      obtain ⟨symbol, entry, same⟩ := exists_rowEntry (aligned g) inUse inside
      exact ⟨symbol, entry, by rw [others_bindingRows listed found, same]⟩
    unused := by
      intro g place listed free row member
      obtain ⟨i, found⟩ := List.mem_iff_getElem?.1 member
      have unused : ¬ present v honorPcds g = true := by
        rw [← bitmask_bit, free]
        simp
      rw [others_bindingRows listed found, rowEntry, if_neg unused]
    bit := fun g => (bitmask_bit v honorPcds g).trans present_iff
    octet := bitmask_lt v honorPcds
    bound := by
      intro some
      obtain ⟨g, inUse⟩ := exists_present some
      rw [Ne, bindingRows_eq_nil_iff, ← List.length_eq_zero_iff,
        ← length_of_present (aligned g) inUse, List.length_eq_zero_iff]
      exact (present_iff.1 inUse).1 }

end Glue

/-- What is generated for a driver model, and when it is not. -/
structure View.DriverModelMeaning (v : View) (honorPcds : Bool) : Prop where
  /-- It fails with the error of the first group that declares something and is not as long as the
  bindings. Whether its column is switched off plays no part. -/
  failed : ∀ e, Glue.driverModelItems v honorPcds = .error e ↔ v.driverModel.Misaligned e
  made : (∃ items, Glue.driverModelItems v honorPcds = .ok items) ↔
    ∀ g, v.driverModel.group g = [] ∨
      (v.driverModel.group g).length = v.driverModel.bindings.length
  emitted : ∀ items, Glue.driverModelItems v honorPcds = .ok items →
    ∃ mask rows, Glue.EmitsTable v honorPcds mask rows items

/-- The table, the bitmask, the number of rows and the declarations of a driver model fit each
other, for every choice of groups and of columns that are switched off. -/
theorem View.driverModel_consistent (v : View) (honorPcds : Bool) :
    v.DriverModelMeaning honorPcds := by
  have checked : (∃ items, Glue.driverModelItems v honorPcds = .ok items) ↔
      v.driverModel.check = .ok () := by
    simp only [Glue.driverModelItems, bind_ok_iff]
    constructor
    · rintro ⟨_, ⟨⟩, fine, _⟩
      exact fine
    · intro fine
      exact ⟨_, (), fine, rfl⟩
  constructor
  case failed =>
    intro e
    rw [Glue.driverModelItems, bind_error_iff, DriverModel.check_error_iff]
    refine or_iff_left ?_
    rintro ⟨_, -, impossible⟩
    cases impossible
  case made =>
    rw [checked, DriverModel.check_ok_iff]
    simp only [DriverModel.aligned_iff]
  case emitted =>
    intro items made
    exact ⟨_, _, Glue.emitsTable made⟩

end FirmwareGlue
