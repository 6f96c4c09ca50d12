import FirmwareGlue.Storage.Fault
import FirmwareGlue.Text.Blank

/-!
# Paths

Paths are kept as they are given. A name is joined to a directory by one slash; joined to nothing
it stays what it is, and an absolute name replaces the directory. To find what a path means, it is
taken apart at its slashes; a slash at its end says that the path has to be a directory, which is
also what a dot at its end says. A path has no NUL character, which ends paths, and at most 4095
bytes; a name in it has at most 255.
-/

namespace FirmwareGlue.Storage

def join (directory name : String) : String :=
  if name.toList.head? = some '/' then name
  else if directory = "" then name
  else if directory.toList.getLast? = some '/' then directory ++ name
  else directory ++ "/" ++ name

/-- The parts of a path between its slashes, without empty ones. -/
def partsOf (path : String) : List String :=
  (Text.splitAt '/' path).filter (· ≠ "")

/-- Why no file has a path, whatever files there are. -/
def unusable? (path : String) : Option Fault :=
  if '\x00' ∈ path.toList then some .invalidPath
  else if 4095 < path.utf8ByteSize then some .nameTooLong
  else none

/-- Whether a name is longer than a name in a path can be. -/
def isTooLong (name : String) : Bool :=
  255 < name.utf8ByteSize

def endsWithSlash (path : String) : Bool :=
  path.toList.getLast? = some '/'

/-- The parts of a path without dots at its end, which say nothing new. -/
def withoutDots (parts : List String) : List String :=
  (parts.reverse.dropWhile (· = ".")).reverse

/-- The parts that lead to the directory which a path is in: all but the last that says
something. -/
def parentParts (path : String) : List String :=
  withoutDots (withoutDots (partsOf path)).dropLast

/-- The parts of a path and of the directories that it leads through, the longest first. One that
ends with a dot is left out, being the one before it; so is the path without the dots at its end,
since these ask for a directory that exists. -/
def leadingParts (parts : List String) : List (List String) :=
  let said := withoutDots parts
  let leads := (List.range said.length).reverse.map said.take
  parts :: leads.filter fun lead => lead ≠ [] ∧ lead.getLast? ≠ some "."

/-- The pieces of a path without those at its end that say nothing. -/
def withoutIdle (pieces : List String) : List String :=
  (pieces.reverse.dropWhile fun piece => piece = "" || piece = ".").reverse

/-- The path of the directory which a path is in, as it is given. -/
def parentPath (path : String) : String :=
  match withoutIdle (withoutIdle (Text.splitAt '/' path)).dropLast with
  | [] => if path.toList.head? = some '/' then "/" else "."
  | pieces => String.intercalate "/" pieces

/-- The path at which the new content of a file is written before it takes its place: under a name
of its own beside the file. -/
def interimPath (path : String) : String :=
  join (parentPath path) ".tmp000000"

end FirmwareGlue.Storage
