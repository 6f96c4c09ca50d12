/-!
# Architectures

A declaration applies to a set of the four target architectures. An architecture is written in
capitals. A set is one flag per architecture; its bits, in the order of declaration, number the
architectures by powers of two.
-/

namespace FirmwareGlue

inductive Arch where
  | ia32
  | x64
  | ipf
  | ebc
  deriving DecidableEq

namespace Arch

def all : List Arch := [.ia32, .x64, .ipf, .ebc]

def spelling : Arch → String
  | ia32 => "IA32"
  | x64 => "X64"
  | ipf => "IPF"
  | ebc => "EBC"

def ofSpelling? (s : String) : Option Arch :=
  all.find? fun arch => arch.spelling == s

/-- The bit that stands for an architecture in a set. -/
def bit (arch : Arch) : Nat := 1 <<< all.idxOf arch

theorem mem_all (arch : Arch) : arch ∈ all := by
  cases arch <;> decide

theorem ofSpelling?_spelling (arch : Arch) : ofSpelling? arch.spelling = some arch := by
  cases arch <;> decide

end Arch

/-- A set of architectures; all of them, unless something else is said. -/
structure ArchSet where
  ia32 : Bool := true
  x64 : Bool := true
  ipf : Bool := true
  ebc : Bool := true
  deriving DecidableEq

namespace ArchSet

def every : ArchSet := {}

def includes (set : ArchSet) : Arch → Bool
  | .ia32 => set.ia32
  | .x64 => set.x64
  | .ipf => set.ipf
  | .ebc => set.ebc

def ofList (list : List Arch) : ArchSet :=
  ⟨.ia32 ∈ list, .x64 ∈ list, .ipf ∈ list, .ebc ∈ list⟩

/-- The architectures of a set, in order. -/
def toList (set : ArchSet) : List Arch :=
  Arch.all.filter fun arch => set.includes arch

@[simp] theorem includes_every (arch : Arch) : every.includes arch = true := by
  cases arch <;> rfl

@[simp] theorem includes_ofList (list : List Arch) (arch : Arch) :
    (ofList list).includes arch = decide (arch ∈ list) := by
  cases arch <;> rfl

end ArchSet

end FirmwareGlue
