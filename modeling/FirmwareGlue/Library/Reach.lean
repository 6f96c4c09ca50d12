import FirmwareGlue.Firmware.View
import FirmwareGlue.Workspace.Basic

/-!
# Reachable library instances

A module links library instances, and these may link further ones. All of them are collected
breadth first: the module's own references come first, in order, then those of each collected
instance in turn. An instance is known by its identity and collected once. One round expands one
instance, so there are no more rounds than the workspace has modules.
-/

namespace FirmwareGlue.Library

/-- The collected instances: those whose own references have been followed, and those that wait
for it. -/
structure Reach where
  expanded : List Module := []
  waiting : List Module := []
  deriving DecidableEq

namespace Reach

/-- All collected instances, in the order in which they were met. -/
def instances (r : Reach) : List Module := r.expanded ++ r.waiting

/-- Collects an instance, unless one with its identity is there already. -/
def add (r : Reach) (m : Module) : Reach :=
  if r.instances.any fun other => other.identity = m.identity then r
  else { r with waiting := r.waiting ++ [m] }

/-- Collects the instances that a module links. -/
def follow (ws : Workspace) (owner : View) (r : Reach) : Except Error Reach :=
  owner.libraryInstances.foldlM (fun r reference =>
    match ws.module? reference with
    | some m => .ok (r.add m)
    | none => .error (.libraryInstanceNotFound reference (some owner.name))) r

/-- Expands the instance that has waited longest. -/
def step (ws : Workspace) (v : View) (r : Reach) : Except Error Reach :=
  match r.waiting with
  | [] => .ok r
  | m :: rest => follow ws (v.scopedTo m) ⟨r.expanded ++ [m], rest⟩

def rounds (ws : Workspace) (v : View) : Nat → Reach → Except Error Reach
  | 0, r => .ok r
  | n + 1, r => r.step ws v >>= rounds ws v n

end Reach

/-- Every instance that a module reaches through references, in the order in which they are
met. -/
def reachable (ws : Workspace) (v : View) : Except Error (List Module) := do
  let direct ← Reach.follow ws v {}
  let all ← direct.rounds ws v ws.modules.entries.size
  .ok all.instances

end FirmwareGlue.Library
