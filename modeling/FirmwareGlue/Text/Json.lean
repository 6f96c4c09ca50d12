import FirmwareGlue.Text.Hexadecimal

/-!
# JSON values and their indented text

The values that the command line prints, and their text: two blanks per level, one entry a line,
and nothing between the brackets of an empty list. Strings escape the quote, the backslash and the
control characters below the blank; every other character stands for itself.
-/

namespace FirmwareGlue.Text

/-- A JSON value, as far as the command line needs it. -/
inductive Json where
  | string (text : String)
  | bool (value : Bool)
  | array (items : List Json)
  | object (fields : List (String × Json))

namespace Json

/-- A character as it stands between the quotes of a string. -/
def escapeChar (c : Char) : List Char :=
  if c = '"' then ['\\', '"']
  else if c = '\\' then ['\\', '\\']
  else if c = '\n' then ['\\', 'n']
  else if c = '\r' then ['\\', 'r']
  else if c = '\t' then ['\\', 't']
  else if c = Char.ofNat 8 then ['\\', 'b']
  else if c = Char.ofNat 12 then ['\\', 'f']
  else if c.toNat < 32 then '\\' :: 'u' :: Hexadecimal.digits 4 c.toNat
  else [c]

def quoted (s : String) : String :=
  "\"" ++ String.ofList (s.toList.flatMap escapeChar) ++ "\""

/-- A line break and the blanks that begin a line at some depth. -/
def newline (depth : Nat) : String :=
  "\n" ++ "".pushn ' ' (2 * depth)

/-- Entries between brackets, one a line, at some depth. -/
def enclosed (opening closing : String) (depth : Nat) (entries : List String) : String :=
  match entries with
  | [] => opening ++ closing
  | _ =>
    opening ++ newline (depth + 1) ++ String.intercalate ("," ++ newline (depth + 1)) entries
      ++ newline depth ++ closing

mutual

/-- The indented text of a value that stands at some depth. -/
def prettyAt (depth : Nat) : Json → String
  | .string text => quoted text
  | .bool value => if value then "true" else "false"
  | .array items => enclosed "[" "]" depth (prettyItems (depth + 1) items)
  | .object fields => enclosed "\x7b" "\x7d" depth (prettyFields (depth + 1) fields)

def prettyItems (depth : Nat) : List Json → List String
  | [] => []
  | item :: items => prettyAt depth item :: prettyItems depth items

def prettyFields (depth : Nat) : List (String × Json) → List String
  | [] => []
  | (name, value) :: fields =>
    (quoted name ++ ": " ++ prettyAt depth value) :: prettyFields depth fields

end

/-- The indented text of a value. -/
def pretty (value : Json) : String :=
  prettyAt 0 value

end Json

end FirmwareGlue.Text
