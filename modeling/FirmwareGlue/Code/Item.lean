import FirmwareGlue.Code.Function
import FirmwareGlue.Guid

/-!
# Top-level items of a generated source

A generated source is a list of items: declarations of what other files define, constants, GUID
globals, tables and functions. Items that stand by themselves end with an empty line; one-line
items follow each other, and an empty line is an item of its own.
-/

namespace FirmwareGlue.Code

/-- The integer types of generated constants. -/
inductive IntegerType where
  | uint8
  | uint32
  /-- The native word. -/
  | uintn
  deriving DecidableEq

def IntegerType.spelling : IntegerType → String
  | uint8 => "UINT8"
  | uint32 => "UINT32"
  | uintn => "UINTN"

structure Constant where
  /-- Whether the linker may drop it. -/
  removable : Bool := true
  type : IntegerType
  /-- The blanks between the type and the name. -/
  gap : Nat := 2
  name : String
  value : Nat
  deriving DecidableEq

/-- What the linker may drop when nothing refers to it begins with this word. -/
def removableMark : String := "GLOBAL_REMOVE_IF_UNREFERENCED "

def Constant.text (c : Constant) : String :=
  (if c.removable then removableMark else "") ++ "const " ++ c.type.spelling
    ++ "".pushn ' ' c.gap ++ c.name ++ " = " ++ toString c.value ++ ";\n"

/-- A row of the driver-model table: the driver binding, and for each further protocol its
instance, if the table has that protocol. -/
structure BindingRow where
  binding : String
  others : List (Option String)
  deriving DecidableEq

/-- The entry of a table for an object that may be missing. -/
def objectText : Option String → String
  | some symbol => "&" ++ symbol
  | none => "NULL"

/-- The text of a row, without what separates it from the next one. -/
def BindingRow.text (row : BindingRow) : String :=
  "  \x7b\n    &" ++ row.binding
    ++ concat (row.others.map fun other => ",\n    " ++ objectText other) ++ "\n  \x7d"

inductive Item where
  | blank
  /-- An object that another file defines. -/
  | externObject (type name : String)
  /-- A function that another file defines. -/
  | prototype (head : Signature)
  | constant (c : Constant)
  /-- A variable of this file, with its first value if it has one. -/
  | staticVariable (type name : String) (first : Option String)
  /-- The identifier of the module itself. -/
  | callerId (type : String) (value : Guid)
  | guidGlobal (symbol : String) (value : Guid)
  /-- The driver-model table. -/
  | bindingTable (rows : List BindingRow)
  /-- A table of event callbacks, which ends with a null entry. -/
  | callbackTable (name : String) (callbacks : List String)
  | function (head : Signature) (body : List Statement)
  deriving DecidableEq

def Item.text : Item → String
  | blank => "\n"
  | externObject type name => "extern " ++ type ++ "  " ++ name ++ ";\n"
  | prototype head => head.text ++ ";\n\n"
  | constant c => c.text
  | staticVariable type name first =>
    "static " ++ type ++ "  " ++ name
      ++ (match first with
        | some value => " = " ++ value
        | none => "")
      ++ ";\n"
  | callerId type value =>
    removableMark ++ type ++ " gEfiCallerIdGuid = \x7b" ++ value.initializer ++ "\x7d;\n"
  | guidGlobal symbol value =>
    removableMark ++ "EFI_GUID " ++ symbol ++ " = \x7b " ++ value.initializer ++ " \x7d;\n"
  | bindingTable rows =>
    removableMark ++ "const EFI_DRIVER_MODEL_PROTOCOL_LIST  _gDriverModelProtocolList[] = \x7b\n"
      ++ String.intercalate ",\n" (rows.map BindingRow.text) ++ "\n\x7d;\n\n"
  | callbackTable name callbacks =>
    removableMark ++ "const EFI_EVENT_NOTIFY " ++ name ++ "[] = \x7b\n"
      ++ concat (callbacks.map fun c => "  " ++ c ++ ",\n") ++ "  NULL\n\x7d;\n\n"
  | function head body =>
    head.text ++ "\n\x7b\n" ++ concat (body.map Statement.text) ++ "\x7d\n\n"

def itemsText (items : List Item) : String :=
  concat (items.map Item.text)

end FirmwareGlue.Code
