import FirmwareGlue.Journal
import FirmwareGlue.Storage.FileTree

/-!
# What generation asks of its surroundings

Generation reads files, makes directories, replaces files and leaves records. It is written once,
for any surroundings that offer these operations: a file tree that is a value, about which laws can
be stated, or the files of the machine it runs on. A failed operation is an answer and not an
exception, so nothing is skipped that the text does not skip.
-/

namespace FirmwareGlue

open Storage

/-- Surroundings in which generation can run. -/
class Surroundings (m : Type → Type) where
  /-- The content of a file. -/
  contentOf : String → m (Except Fault ByteArray)
  /-- The time of the last modification of a file or directory. -/
  modifiedAt : String → m (Except Fault Nat)
  /-- Makes a directory and those that it is in. -/
  makeDirectories : String → m (Except Fault Unit)
  /-- Gives a file new content. -/
  replaceFile : String → ByteArray → m (Except Fault Unit)
  /-- Leaves a record of progress. -/
  record : Record → m Unit

/-- A file tree and the records that have been left, in order. -/
structure Desk where
  tree : FileTree
  records : List Record := []

/-- Generation on a file tree. -/
abbrev OnTree : Type → Type := StateM Desk

namespace OnTree

/-- An operation that looks at the tree. -/
def look {α : Type} (f : FileTree → α) : OnTree α :=
  fun desk => (f desk.tree, desk)

/-- An operation that may change the tree. -/
def change {α : Type} (f : FileTree → α × FileTree) : OnTree α :=
  fun desk =>
    let (answer, tree) := f desk.tree
    (answer, { desk with tree })

end OnTree

instance : Surroundings OnTree where
  contentOf path := OnTree.look fun t => t.read path
  modifiedAt path := OnTree.look fun t => t.modified path
  makeDirectories path := OnTree.change fun t => t.makeDirectories path
  replaceFile path content := OnTree.change fun t => t.replace path content
  record r := fun desk => ((), { desk with records := desk.records ++ [r] })

namespace Surroundings

variable {m : Type → Type} [Monad m] [Surroundings m]

def recordAll (records : List Record) : m Unit :=
  records.forM record

/-- The content of a file that has to be text. -/
def textOf (path : String) : m (Except Fault String) := do
  match ← contentOf path with
  | .error fault => return .error fault
  | .ok bytes =>
    match String.fromUTF8? bytes with
    | some text => return .ok text
    | none => return .error .invalidData

end Surroundings

end FirmwareGlue
