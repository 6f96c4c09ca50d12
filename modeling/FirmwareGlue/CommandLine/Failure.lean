import FirmwareGlue.Error
import FirmwareGlue.Text.Blank

/-!
# Reports of failure

A failure has a message and the chain of what caused it. Its report shows the message first, then
the causes, numbered if there are several. Every further line of a cause is indented like the
first.
-/

namespace FirmwareGlue.CommandLine

/-- Why a command failed: what was attempted, and the causes behind it, the nearest first. -/
structure Failure where
  message : String
  causes : List String := []
  deriving DecidableEq

namespace Failure

def ofError (e : Error) : Failure := ⟨e.message, e.causes⟩

/-- The failure of an attempt that ended with an error. -/
def attempting (what : String) (e : Error) : Failure := ⟨what, e.message :: e.causes⟩

/-- A cause, its first line after some text and its further lines after some blanks. -/
def causeText (first further cause : String) : String :=
  first ++ String.intercalate ("\n" ++ further) (Text.splitAt '\n' cause)

/-- The number of a cause, aligned to the right, with a colon. -/
def numberText (n : Nat) : String :=
  let digits := toString n
  "".pushn ' ' (5 - digits.length) ++ digits ++ ": "

/-- The causes as a report shows them. -/
def causesText : List String → String
  | [] => ""
  | [cause] => "\n\nCaused by:\n" ++ causeText "    " "    " cause
  | causes =>
    "\n\nCaused by:\n" ++ String.intercalate "\n"
      (causes.zipIdx.map fun entry => causeText (numberText entry.2) "       " entry.1)

def text (f : Failure) : String :=
  "Error: " ++ f.message ++ causesText f.causes ++ "\n"

end Failure

end FirmwareGlue.CommandLine
