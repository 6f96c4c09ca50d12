/-!
# Depth-first walks

A walk lists the nodes of a graph so that each stands after the nodes it depends on. Nodes are
numbers; every node has a list of targets, the nodes it depends on. The walk enters a node, walks
its targets in order, and emits the node when it leaves it. A target that is entered and not yet
left closes a cycle, and ends the walk.

Nesting is bounded by an allowance. Only fresh nodes are entered, so the number of nodes is an
allowance that suffices.
-/

namespace FirmwareGlue.Library

inductive Mark where
  /-- Not met yet. -/
  | fresh
  /-- On the path from the start to where the walk is. -/
  | entered
  /-- Emitted. -/
  | left
  deriving DecidableEq

structure Walk where
  /-- The mark of each node. -/
  marks : List Mark
  /-- The nodes on the path, the latest first. -/
  path : List Nat := []
  /-- The nodes that have been left, in order. -/
  emitted : List Nat := []
  deriving DecidableEq

inductive Halt where
  /-- The nodes along a cycle; the first one stands again at the end. -/
  | cycle (nodes : List Nat)
  /-- The allowance for nesting is used up. -/
  | depth
  deriving DecidableEq

namespace Walk

def start (count : Nat) : Walk :=
  { marks := List.replicate count .fresh }

def mark (w : Walk) (node : Nat) : Mark :=
  (w.marks[node]?).getD .fresh

def enter (w : Walk) (node : Nat) : Walk :=
  { w with marks := w.marks.set node .entered, path := node :: w.path }

def leave (w : Walk) (node : Nat) : Walk :=
  { marks := w.marks.set node .left, path := w.path.drop 1, emitted := w.emitted ++ [node] }

/-- The cycle that a target on the path closes: the path from the target on, and the target. -/
def cycleTo (w : Walk) (target : Nat) : List Nat :=
  target :: (w.path.takeWhile (· ≠ target)).reverse ++ [target]

/-- Walks the nodes of a list in order, those that are still fresh. -/
def visitFresh (visit : Nat → Walk → Except Halt Walk) (nodes : List Nat) (w : Walk) :
    Except Halt Walk :=
  nodes.foldlM (fun w node =>
    match w.mark node with
    | .fresh => visit node w
    | .entered => .error (.cycle (w.cycleTo node))
    | .left => .ok w) w

/-- Walks everything that a fresh node depends on, and then the node itself. The first argument
is the allowance for nesting. -/
def visit (targets : Nat → List Nat) : Nat → Nat → Walk → Except Halt Walk
  | 0, _, _ => .error .depth
  | allowance + 1, node, w => do
    let walked ← visitFresh (visit targets allowance) (targets node) (w.enter node)
    .ok (walked.leave node)

end Walk

/-- The nodes below `count`, each after its targets. The walk starts from every node in turn. -/
def sortNodes (count : Nat) (targets : Nat → List Nat) : Except Halt (List Nat) := do
  let walked ← Walk.visitFresh (Walk.visit targets count) (List.range count) (.start count)
  .ok walked.emitted

end FirmwareGlue.Library
