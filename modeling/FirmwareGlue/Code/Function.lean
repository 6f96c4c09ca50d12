/-!
# C functions as generated code writes them

Generated functions consist of few forms: a status is stored, tested and returned, and other
functions are called with names and constants. These forms are data here, so that what a function
does can be said about the data, and the text is made from it in one way: two blanks for each
level, one statement a line, the parameters of a head one a line as well.
-/

namespace FirmwareGlue.Code

/-- Texts one after another. -/
def concat (parts : List String) : String :=
  parts.foldl (· ++ ·) ""

structure Parameter where
  type : String
  pointers : Nat := 0
  name : String
  deriving DecidableEq

/-- The parameters of a function. Their names stand in one column, counted from the types. A list
without entries is that of a function which takes nothing. -/
structure ParameterList where
  column : Nat := 0
  entries : List Parameter := []
  deriving DecidableEq

namespace ParameterList

/-- The lines of a parameter list, without what separates them. -/
def lines (list : ParameterList) : List String :=
  match list.entries with
  | [] => ["VOID"]
  | entries => entries.map fun p =>
    "IN " ++ p.type ++ "".pushn ' ' (list.column - p.type.length) ++ "".pushn '*' p.pointers
      ++ p.name

def names (list : ParameterList) : List String :=
  list.entries.map Parameter.name

end ParameterList

structure Signature where
  returns : String
  name : String
  parameters : ParameterList
  deriving DecidableEq

def Signature.text (s : Signature) : String :=
  s.returns ++ "\nEFIAPI\n" ++ s.name ++ " (\n  " ++ String.intercalate ",\n  " s.parameters.lines
    ++ "\n  )"

inductive Argument where
  /-- A variable, a parameter or a named constant. -/
  | symbol (name : String)
  /-- The address of a variable. -/
  | address (name : String)
  | number (value : Nat)
  /-- The greatest value of the native word. -/
  | greatest
  deriving DecidableEq

def Argument.text : Argument → String
  | symbol name => name
  | address name => "&" ++ name
  | number value => toString value
  | greatest => "(UINTN)-1"

structure Call where
  callee : String
  arguments : List Argument
  deriving DecidableEq

def Call.text (c : Call) : String :=
  c.callee ++ " (" ++ String.intercalate ", " (c.arguments.map Argument.text) ++ ")"

inductive Value where
  | symbol (name : String)
  | call (c : Call)
  deriving DecidableEq

def Value.text : Value → String
  | symbol name => name
  | call c => c.text

inductive Condition where
  /-- The status in a variable is an error. -/
  | failed (status : String)
  /-- The status in a variable is no error. -/
  | succeeded (status : String)
  | both (left right : Condition)
  | either (left right : Condition)
  /-- Control comes here for the first time, and not by a jump to the buffer. -/
  | firstReturn (buffer : String)
  deriving DecidableEq

def Condition.text : Condition → String
  | failed status => "EFI_ERROR (" ++ status ++ ")"
  | succeeded status => "!EFI_ERROR (" ++ status ++ ")"
  | both left right => left.text ++ " && " ++ right.text
  | either left right => left.text ++ " || " ++ right.text
  | firstReturn buffer => "SetJump (&" ++ buffer ++ ") == 0"

/-- A statement without parts. -/
inductive Action where
  | store (target : String) (value : Value)
  | perform (c : Call)
  /-- Hands the result of a call to a function of one argument. -/
  | pass (receiver : String) (c : Call)
  | give (value : Value)
  deriving DecidableEq

/-- The text of an action, without the line end. -/
def Action.text : Action → String
  | store target value => target ++ " = " ++ value.text ++ ";"
  | perform c => c.text ++ ";"
  | pass receiver c => receiver ++ " (" ++ c.text ++ ");"
  | give value => "return " ++ value.text ++ ";"

/-- A line or block in the body of a function. -/
inductive Statement where
  | declare (type name : String)
  | act (action : Action)
  | branch (condition : Condition) (yes : List Action) (no : List Action)
  | blank
  deriving DecidableEq

def blockText (actions : List Action) : String :=
  concat (actions.map fun a => "    " ++ a.text ++ "\n")

def Statement.text : Statement → String
  | declare type name => "  " ++ type ++ "  " ++ name ++ ";\n"
  | act action => "  " ++ action.text ++ "\n"
  | branch condition yes [] =>
    "  if (" ++ condition.text ++ ") \x7b\n" ++ blockText yes ++ "  \x7d\n"
  | branch condition yes no =>
    "  if (" ++ condition.text ++ ") \x7b\n" ++ blockText yes ++ "  \x7d else \x7b\n"
      ++ blockText no ++ "  \x7d\n"
  | blank => "\n"

def callNames (callee : String) (names : List String) : Call :=
  ⟨callee, names.map .symbol⟩

/-- The assertion that this point is not reached. -/
def assertUnreached : Action :=
  .perform (callNames "ASSERT" ["FALSE"])

end FirmwareGlue.Code
