import FirmwareGlue.Storage.Fault
import FirmwareGlue.Storage.Path
import FirmwareGlue.Table

/-!
# File trees

A file tree maps places to directories and files, each with the time of its last modification. A
place is the list of names from the root; a path is followed part by part, and every part but the
last has to be a directory that exists. The clock advances with every change, so what is written
later has a later time, unless a time is set.

A file that is replaced is written beside its place first and then renamed, which changes the
directory even where the renaming fails; a file that is written in place changes its directory only
when it is new. What is written first has an absolute path, so the path of the root counts for how
long a path may be there.
-/

namespace FirmwareGlue.Storage

/-- The names that lead to a file or directory from the root. -/
abbrev Place := List String

/-- What is at a place. Times are in nanoseconds. -/
inductive Entry where
  | directory (modified : Nat)
  | file (content : ByteArray) (modified : Nat)

namespace Entry

def modified : Entry → Nat
  | directory time => time
  | file _ time => time

def touched (time : Nat) : Entry → Entry
  | directory _ => .directory time
  | file content _ => .file content time

def isDirectory : Entry → Bool
  | directory _ => true
  | file .. => false

end Entry

/-- The path of the root, which is a directory made for the tree alone. -/
def rootPath : String := "/tmp/.tmp000000"

/-- Directories and files by place, and the time of the next change. -/
structure FileTree where
  entries : Table Place Entry
  clock : Nat

namespace FileTree

def empty (clock : Nat) : FileTree :=
  ⟨Table.empty.insert [] (.directory clock), clock + 1⟩

def at? (t : FileTree) (place : Place) : Option Entry :=
  t.entries.find? place

def set (t : FileTree) (place : Place) (entry : Entry) : FileTree :=
  { t with entries := t.entries.insert place entry }

def tick (t : FileTree) : FileTree := { t with clock := t.clock + 1 }

/-- Marks what is at a place as changed now. -/
def touchNow (t : FileTree) (place : Place) : FileTree :=
  match t.at? place with
  | some entry => t.set place (entry.touched t.clock)
  | none => t

def follow (t : FileTree) (place : Place) : List String → Except Fault Place
  | [] => .ok place
  | part :: rest =>
    match t.at? place with
    | none => .error .notFound
    | some (.file ..) => .error .notADirectory
    | some (.directory _) =>
      if part = "." then t.follow place rest
      else if part = ".." then t.follow place.dropLast rest
      else if isTooLong part then .error .nameTooLong
      else t.follow (place ++ [part]) rest

def locate (t : FileTree) (path : String) : Except Fault Place :=
  if path = "" then .error .notFound
  else match unusable? path with
    | some fault => .error fault
    | none => t.follow [] (partsOf path ++ if endsWithSlash path then ["."] else [])

/-- What a path leads to. -/
def entry (t : FileTree) (path : String) : Except Fault Entry := do
  match t.at? (← t.locate path) with
  | some entry => .ok entry
  | none => .error .notFound

def read (t : FileTree) (path : String) : Except Fault ByteArray := do
  match ← t.entry path with
  | .file content _ => .ok content
  | .directory _ => .error .isADirectory

def modified (t : FileTree) (path : String) : Except Fault Nat :=
  (t.entry path).map Entry.modified

/-- Makes the directory at a place; the directory that it is in changes. -/
def addDirectory (t : FileTree) (place : Place) : FileTree :=
  ((t.set place (.directory t.clock)).touchNow place.dropLast).tick

/-- Makes the directory that a path means by its parts, in a directory that exists. -/
def makeDirectory (t : FileTree) (parts : List String) : Except Fault Unit × FileTree :=
  match t.follow [] (parts.dropLast ++ ["."]), parts.getLast? with
  | .error fault, _ => (.error fault, t)
  | .ok _, none => (.error .alreadyExists, t)
  | .ok parent, some name =>
    if name = "." ∨ name = ".." then (.error .alreadyExists, t)
    else if isTooLong name then (.error .nameTooLong, t)
    else match t.at? (parent ++ [name]) with
      | some _ => (.error .alreadyExists, t)
      | none => (.ok (), t.addDirectory (parent ++ [name]))

/-- Whether the parts of a path lead to a directory. -/
def leadsToDirectory (t : FileTree) (parts : List String) : Bool :=
  match t.follow [] (parts ++ ["."]) with
  | .ok _ => true
  | .error _ => false

/-- Makes a directory in a directory that exists, unless it exists too. -/
def ensureDirectory (t : FileTree) (parts : List String) : Except Fault Unit × FileTree :=
  match t.makeDirectory parts with
  | (.error .alreadyExists, t) =>
    (if t.leadsToDirectory parts then .ok () else .error .alreadyExists, t)
  | answer => answer

/-- Makes the first of some directories, and before it those of the others that are lacking on the
way to it. -/
def makeFirst (t : FileTree) : List (List String) → Except Fault Unit × FileTree
  | [] => (.ok (), t)
  | parts :: leads =>
    match t.ensureDirectory parts with
    | (.error .notFound, t) =>
      match t.makeFirst leads with
      | (.ok (), t) => t.ensureDirectory parts
      | answer => answer
    | answer => answer

/-- Makes a directory and those that it is in. An existing one is no error. What is lacking is made
in passing, even if something else on the way is then found to be a file. -/
def makeDirectories (t : FileTree) (path : String) : Except Fault Unit × FileTree :=
  match unusable? path with
  | some fault => (.error fault, t)
  | none => t.makeFirst (leadingParts (partsOf path))

/-- Puts a file at a place, now. -/
def putFile (t : FileTree) (place : Place) (content : ByteArray) : FileTree :=
  (t.set place (.file content t.clock)).tick

/-- The directory that a path leads into, and the name in it that the path ends with. -/
def approach (t : FileTree) (path : String) : Except Fault (Place × String) :=
  match unusable? path, (partsOf path).getLast? with
  | some fault, _ => .error fault
  | none, none => .error .notFound
  | none, some name =>
    (t.follow [] ((partsOf path).dropLast ++ ["."])).map fun parent => (parent, name)

/-- The place that a file takes which is renamed to a path. The path may not end with dots, and no
slash may follow the name, since it is a file that takes the place. -/
def destination (t : FileTree) (path : String) : Except Fault Place := do
  let (parent, name) ← t.approach path
  let place := parent ++ [name]
  if name = "." || name = ".." then .error .resourceBusy
  else if isTooLong name then .error .nameTooLong
  else if endsWithSlash path then .error .notADirectory
  else match t.at? place with
    | some (.directory _) => .error .isADirectory
    | _ => .ok place

/-- Replaces a file: its content is written beside it and then takes its place. Whether the path
itself can be used shows in the second step only, and the directory changes even if that fails. -/
def replace (t : FileTree) (path : String) (content : ByteArray) :
    Except Fault Unit × FileTree :=
  match unusable? (join rootPath (interimPath path)), t.follow [] (parentParts path ++ ["."]) with
  | some fault, _ | none, .error fault => (.error fault, t)
  | none, .ok parent =>
    let t := t.touchNow parent
    match t.destination path with
    | .error fault => (.error fault, t.tick)
    | .ok place => (.ok (), t.putFile place content)

/-- The place of a file that is opened to be written, and made if there is none. -/
def writable (t : FileTree) (path : String) : Except Fault Place := do
  let (parent, name) ← t.approach path
  let place := parent ++ [name]
  if name = "." || name = ".." || endsWithSlash path then .error .isADirectory
  else if isTooLong name then .error .nameTooLong
  else match t.at? place with
    | some (.directory _) => .error .isADirectory
    | _ => .ok place

def write (t : FileTree) (path : String) (content : ByteArray) : Except Fault Unit × FileTree :=
  match t.writable path with
  | .error fault => (.error fault, t)
  | .ok place =>
    match t.at? place with
    | some _ => (.ok (), t.putFile place content)
    | none => (.ok (), (t.touchNow place.dropLast).putFile place content)

/-- Sets the time of modification of a file or directory. -/
def touch (t : FileTree) (path : String) (time : Nat) : Except Fault Unit × FileTree :=
  match t.locate path with
  | .error fault => (.error fault, t)
  | .ok place =>
    match t.at? place with
    | some entry => (.ok (), t.set place (entry.touched time))
    | none => (.error .notFound, t)

/-- Removes a file, or a directory with all that it holds. -/
def remove (t : FileTree) (path : String) : Except Fault Unit × FileTree :=
  match t.locate path with
  | .error fault => (.error fault, t)
  | .ok place =>
    match t.at? place with
    | none => (.error .notFound, t)
    | some _ =>
      let kept := t.entries.entries.filter fun entry => !place.isPrefixOf entry.1
      (.ok (), ({ t with entries := ⟨kept⟩ }.touchNow place.dropLast).tick)

/-- The path of a place; that of a directory ends with a slash. -/
def pathText (place : Place) (entry : Entry) : String :=
  String.intercalate "/" place ++ if entry.isDirectory then "/" else ""

/-- The paths of everything below the root, in the order of their characters. -/
def paths (t : FileTree) : List String :=
  ((t.entries.entries.filter fun entry => entry.1 ≠ []).map fun entry =>
    pathText entry.1 entry.2).mergeSort (· ≤ ·)

end FileTree

end FirmwareGlue.Storage
