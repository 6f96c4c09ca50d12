import FirmwareGlue.Error
import FirmwareGlue.Storage.Surroundings

/-!
# Writing outputs

Builds decide by modification times what to do again, so an output is only written when its bytes
change, and a file is only copied when the copy is missing or older than its source.
-/

namespace FirmwareGlue

inductive Outcome where
  | written
  | unchanged
  deriving DecidableEq

def Outcome.spelling : Outcome → String
  | written => "written"
  | unchanged => "unchanged"

namespace Storage

open Surroundings

variable {m : Type → Type} [Monad m] [Surroundings m]

/-- Replaces a file, and says what has been done if that succeeds. -/
def replaceWith (path : String) (content : ByteArray) (said : String) :
    m (Except Error Outcome) := do
  match ← replaceFile path content with
  | .error fault => return .error (.writeFailed path fault)
  | .ok () =>
    record ⟨.debug, said⟩
    return .ok .written

/-- Writes a file, unless it holds exactly these bytes already. -/
def writeIfChanged (path : String) (content : ByteArray) : m (Except Error Outcome) := do
  match ← contentOf path with
  | .ok existing =>
    if existing.data = content.data then
      record ⟨.debug, path ++ " is up to date"⟩
      return .ok .unchanged
    else replaceWith path content ("wrote " ++ path)
  | .error .notFound => replaceWith path content ("wrote " ++ path)
  | .error fault => return .error (.readFailed path fault)

/-- Whether a copy has to be made again: it cannot be looked at, or it is older than its source. -/
def isStale (sourceTime : Nat) : Except Fault Nat → Bool
  | .ok copyTime => copyTime < sourceTime
  | .error _ => true

/-- Copies a file, unless the copy is at least as new as its source. -/
def copyIfNewer (source copy : String) : m (Except Error Outcome) := do
  match ← modifiedAt source with
  | .error .notFound => return .error (.flashMapMissing source)
  | .error fault => return .error (.readFailed source fault)
  | .ok sourceTime =>
    if isStale sourceTime (← modifiedAt copy) then
      match ← contentOf source with
      | .error fault => return .error (.readFailed source fault)
      | .ok content => replaceWith copy content ("copied " ++ source ++ " to " ++ copy)
    else return .ok .unchanged

/-- The text of a file; a path that is not given means an empty text. -/
def textIn (path : Option String) : m (Except Error String) := do
  match path with
  | none => return .ok ""
  | some path =>
    match ← textOf path with
    | .ok text => return .ok text
    | .error fault => return .error (.readFailed path fault)

end Storage

end FirmwareGlue
