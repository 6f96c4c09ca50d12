import FirmwareGlue.Proofs.Library.Breadth
import FirmwareGlue.Proofs.Library.Order
import FirmwareGlue.Proofs.Library.Trace
import Mathlib.Data.List.Count

/-!
# Collecting and sorting end

Instances are collected by a loop that goes on as long as one of them waits, and sorted by visits
inside of visits. Links may go round in circles, so neither ends for lack of links to follow. The
loop ends because each turn expands an instance that has not been expanded, and no more instances
are collected than modules are registered. A visit ends because it enters its node for good, and
goes on to fresh nodes only.

So the number of rounds and the allowance for nesting, by which both are defined, are no part of the
result: the loop never has a turn left to do, and from any node in any state an allowance of as many
nodes as there are gives what every larger one gives.
-/

namespace FirmwareGlue.Library

variable {ws : Workspace} {v : View} {m : Module} {done nodes : List Module}

namespace Reach

variable {r s t : Reach}

/-- Turns of the loop that expands waiting instances: which are expanded, in order, and where this
leads. -/
inductive Turns (ws : Workspace) (v : View) (r : Reach) : List Module → Reach → Prop where
  | start : Turns ws v r [] r
  | turn {done rest : List Module} {m : Module} {s t : Reach} (before : Turns ws v r done s)
      (waits : s.waiting = m :: rest)
      (followed : follow ws (v.scopedTo m) ⟨s.expanded ++ [m], rest⟩ = .ok t) :
      Turns ws v r (done ++ [m]) t

/-- One turn expands the instance that has waited longest. -/
theorem step_of_waits {rest : List Module} (waits : s.waiting = m :: rest) :
    s.step ws v = follow ws (v.scopedTo m) ⟨s.expanded ++ [m], rest⟩ := by
  rw [step, waits]

theorem rounds_succ (n : Nat) (r : Reach) :
    r.rounds ws v (n + 1) = r.rounds ws v n >>= step ws v := by
  rw [rounds_add]
  congr 1
  funext s
  exact bind_pure _

/-- The instance at the head of the queue, opened for its turn. -/
theorem Sound.opened {rest : List Module} (sound : Sound ws v s) (waits : s.waiting = m :: rest) :
    Sound ws v ⟨s.expanded ++ [m], rest⟩ ∧ Reaches ws v m := by
  have same : Reach.instances ⟨s.expanded ++ [m], rest⟩ = s.instances := by
    simp [instances, waits]
  exact ⟨⟨same ▸ sound.reached, same ▸ sound.nodup⟩,
    sound.reached m (by simp [instances, waits])⟩

/-- Turns expand the instances in the order in which they wait. -/
theorem Turns.sound (h : Turns ws v r done s) (sound : Sound ws v r) :
    Sound ws v s ∧ s.expanded = r.expanded ++ done := by
  induction h with
  | start => exact ⟨sound, (List.append_nil _).symm⟩
  | turn _ waits followed ih =>
      obtain ⟨opened, reached⟩ := ih.1.opened waits
      obtain ⟨soundLast, grows, _⟩ := follow_ok (.reached reached) opened followed
      exact ⟨soundLast, by rw [grows.expanded, ih.2, List.append_assoc]⟩

/-- Rounds are turns, until nothing waits or a turn fails. -/
theorem exists_turns (ws : Workspace) (v : View) (r : Reach) (n : Nat) :
    ∃ done s, Turns ws v r done s ∧
      ((r.rounds ws v n = .ok s ∧ (s.waiting = [] ∨ done.length = n)) ∨
        ∃ e, s.step ws v = .error e ∧ r.rounds ws v n = .error e) := by
  induction n with
  | zero => exact ⟨[], r, .start, .inl ⟨rfl, .inr rfl⟩⟩
  | succ n ih =>
      obtain ⟨done, s, turns, ⟨reached, atEnd⟩ | ⟨e, fails, failed⟩⟩ := ih
      · have next : r.rounds ws v (n + 1) = s.step ws v := by rw [rounds_succ, reached, ok_bind]
        rw [next]
        cases waits : s.waiting with
        | nil => exact ⟨done, s, turns, .inl ⟨by rw [step, waits], .inl waits⟩⟩
        | cons m rest =>
            have full : done.length = n := atEnd.resolve_left (by simp [waits])
            cases followed : s.step ws v with
            | error e => exact ⟨done, s, turns, .inr ⟨e, followed, rfl⟩⟩
            | ok t =>
                rw [step_of_waits waits] at followed
                exact ⟨_, t, turns.turn waits followed, .inl ⟨rfl, .inr (by simp [full])⟩⟩
      · exact ⟨done, s, turns, .inr ⟨e, fails, by rw [rounds_succ, failed]; rfl⟩⟩

end Reach

/-- The loop that expands instances ends, where it starts from some that are collected. -/
structure LoopEnds (ws : Workspace) (v : View) (start : Reach) : Prop where
  /-- What has been expanded is at the front of what is collected, each instance once. -/
  once : ∀ done s, Reach.Turns ws v start done s → done <+: s.instances ∧ s.instances.Nodup
  /-- At any time, also in the middle of a turn, no more is collected than is registered. -/
  bounded : ∀ done s, Reach.Turns ws v start done s →
    s.instances.length ≤ ws.modules.entries.size ∧
      ∀ m rest, s.waiting = m :: rest → ∀ met, met <+: linkedBy ws (v.scopedTo m) →
        (met.foldl Reach.add ⟨s.expanded ++ [m], rest⟩).instances.length ≤
          ws.modules.entries.size
  /-- In the end all that is collected has been expanded, or a turn meets a reference to no
  registered module. -/
  ends : ∃ done last, Reach.Turns ws v start done last ∧
    ((last.waiting = [] ∧ done = last.instances ∧ reachable ws v = .ok done) ∨
      ∃ e, last.step ws v = .error e ∧ Dangling ws v e ∧ reachable ws v = .error e)

theorem loopEnds {start : Reach} (h : Reach.follow ws v {} = .ok start) : LoopEnds ws v start := by
  obtain ⟨steady, nothing⟩ := steady_direct h
  have sound (done : List Module) (s : Reach) (turns : Reach.Turns ws v start done s) :
      Reach.Sound ws v s ∧ s.expanded = done := by
    obtain ⟨soundS, expanded⟩ := turns.sound steady.sound
    rw [nothing, List.nil_append] at expanded
    exact ⟨soundS, expanded⟩
  refine ⟨?_, ?_, ?_⟩
  · intro done s turns
    obtain ⟨soundS, rfl⟩ := sound done s turns
    exact ⟨List.prefix_append _ _, soundS.nodup⟩
  · intro done s turns
    obtain ⟨soundS, _⟩ := sound done s turns
    refine ⟨soundS.length_le, ?_⟩
    intro m rest waits met begins
    obtain ⟨opened, reached⟩ := soundS.opened waits
    have linked : ∀ n ∈ met, Reaches ws v n := fun n member =>
      reaches_of_linkedBy (.reached reached) (begins.subset member)
    exact (Reach.foldl_add_spec linked opened).1.length_le
  · obtain ⟨done, last, turns, ⟨reached, atEnd⟩ | ⟨e, fails, failed⟩⟩ :=
      Reach.exists_turns ws v start ws.modules.entries.size
    · obtain ⟨soundLast, expanded⟩ := sound done last turns
      have steadyLast := (Reach.rounds_ok _ steady reached).1
      have nothingWaits : last.waiting = [] :=
        Reach.waiting_eq_nil steadyLast (atEnd.imp_right fun full => expanded ▸ full)
      have all : done = last.instances := by
        rw [Reach.instances, nothingWaits, List.append_nil, expanded]
      refine ⟨done, last, turns, .inl ⟨nothingWaits, all, ?_⟩⟩
      rw [reachable, h, ok_bind, reached, all]
      rfl
    · refine ⟨done, last, turns, .inr ⟨e, fails, ?_, ?_⟩⟩
      · exact Reach.step_error (sound done last turns).1 fails
      · rw [reachable, h, ok_bind, failed]
        rfl

namespace Walk

variable {targets : Nat → List Nat} {count node allowance : Nat} {w u : Walk}

theorem freshCount_enter_le (w : Walk) (node : Nat) : (w.enter node).freshCount ≤ w.freshCount := by
  by_cases bound : node < w.marks.length
  · rw [freshCount, freshCount, enter, List.count_set bound]
    simp
  · rw [freshCount, enter, List.set_eq_of_length_le (by omega), freshCount]

/-- Once a node has been entered there are fewer fresh nodes than nodes, whatever it was before. -/
theorem freshCount_enter_lt (bound : node < w.marks.length) :
    (w.enter node).freshCount < w.marks.length := by
  have size : (w.enter node).marks.length = w.marks.length := by simp [enter]
  rw [freshCount, ← size, List.count_lt_length_iff]
  exact ⟨.entered, List.mem_set bound _, by simp⟩

/-- How part of a walk comes to an end: it knows the same nodes and no more of them are fresh, or
it has stopped, but not for lack of allowance. -/
def Ends (w : Walk) : Except Halt Walk → Prop
  | .ok u => u.marks.length = w.marks.length ∧ u.freshCount ≤ w.freshCount
  | .error halt => halt ≠ .depth

theorem Ends.ne_depth {outcome : Except Halt Walk} (h : Ends w outcome) :
    outcome ≠ .error .depth := by
  rintro rfl
  exact h rfl

/-- Two ways of visiting fresh nodes end alike within some allowance, in whatever state the walk
is. -/
def EndAlike (count allowance : Nat) (first second : Nat → Walk → Except Halt Walk) : Prop :=
  ∀ node < count, ∀ w : Walk, w.marks.length = count → (w.enter node).freshCount < allowance →
    Ends w (first node w) ∧ second node w = first node w

section Along

variable {first second : Nat → Walk → Except Halt Walk}

theorem visitFresh_ends (alike : EndAlike count allowance first second) {nodes : List Nat}
    (bound : ∀ n ∈ nodes, n < count) (size : w.marks.length = count)
    (enough : w.freshCount ≤ allowance) :
    Ends w (visitFresh first nodes w) ∧ visitFresh second nodes w = visitFresh first nodes w := by
  induction nodes generalizing w with
  | nil => exact ⟨⟨rfl, le_rfl⟩, rfl⟩
  | cons node rest ih =>
      rw [List.forall_mem_cons] at bound
      cases mark : w.mark node with
      | fresh =>
          have spent := freshCount_enter (size ▸ bound.1) mark
          obtain ⟨ends, same⟩ := alike node bound.1 w size (by omega)
          rw [visitFresh_cons_of_fresh mark, visitFresh_cons_of_fresh mark, same]
          match first node w, ends with
          | .error halt, ends => exact ⟨ends, rfl⟩
          | .ok u, ⟨sizeU, fewer⟩ =>
              obtain ⟨endsU, sameU⟩ := ih bound.2 (sizeU.trans size) (fewer.trans enough)
              refine ⟨?_, sameU⟩
              rw [ok_bind]
              match visitFresh first rest u, endsU with
              | .error halt, endsU => exact endsU
              | .ok x, ⟨sizeX, fewerX⟩ => exact ⟨sizeX.trans sizeU, fewerX.trans fewer⟩
      | entered =>
          rw [visitFresh_cons_of_entered mark, visitFresh_cons_of_entered mark]
          exact ⟨by simp [Ends], rfl⟩
      | left =>
          rw [visitFresh_cons_of_left mark, visitFresh_cons_of_left mark]
          exact ih bound.2 size enough

end Along

variable (within : ∀ n < count, ∀ t ∈ targets n, t < count)
include within

/-- An allowance that covers the fresh nodes suffices for a visit, and what is beyond it is never
used. -/
theorem visit_ends {larger : Nat} (more : allowance ≤ larger) :
    EndAlike count allowance (visit targets allowance) (visit targets larger) := by
  induction allowance generalizing larger with
  | zero =>
      intro node _ w _ none
      omega
  | succ allowance ih =>
      intro node bound w size enough
      obtain ⟨larger, rfl⟩ : ∃ n, larger = n + 1 := ⟨larger - 1, by omega⟩
      have sizeEntered : (w.enter node).marks.length = count := by simpa [enter] using size
      obtain ⟨ends, same⟩ := visitFresh_ends (ih (Nat.le_of_succ_le_succ more))
        (within node bound) sizeEntered (Nat.le_of_lt_succ enough)
      rw [visit, visit, same]
      cases walked : visitFresh (visit targets allowance) (targets node) (w.enter node) with
      | error halt =>
          rw [walked] at ends
          exact ⟨ends, rfl⟩
      | ok u =>
          rw [walked] at ends
          obtain ⟨sizeU, fewer⟩ := ends
          have left : (u.leave node).freshCount ≤ u.freshCount := freshCount_leave (by omega)
          have entered := freshCount_enter_le w node
          refine ⟨⟨?_, by omega⟩, rfl⟩
          simp only [leave, List.length_set]
          omega

end Walk

/-- Visits end, and so does the walk that sorts the nodes below `count`. -/
structure WalkEnds (count : Nat) (targets : Nat → List Nat) : Prop where
  /-- From any node in any state a visit ends, and any larger allowance gives the same. -/
  ends : ∀ node < count, ∀ w : Walk, w.marks.length = count →
    Walk.visit targets count node w ≠ .error .depth ∧
      ∀ allowance ≥ count, Walk.visit targets allowance node w = Walk.visit targets count node w
  /-- The walk from all starts ends. -/
  sorts : sortNodes count targets ≠ .error .depth
  /-- Over all starts no node is visited twice, -/
  once : ∀ allowance ≥ count, (visited (sortLooks allowance count targets)).Nodup
  /-- and each is visited if no cycle ends the walk. -/
  each : ∀ places, sortNodes count targets = .ok places →
    ∀ node, node ∈ visited (sortLooks count count targets) ↔ node < count
  /-- A visit is inside of fewer visits than there are nodes, whatever the allowance. -/
  nesting : ∀ allowance ≥ count, ∀ look ∈ sortLooks allowance count targets,
    look.mark = .fresh → look.walk.path = look.inside ∧ look.inside.length < count

theorem walkEnds {count : Nat} {targets : Nat → List Nat}
    (within : ∀ n < count, ∀ t ∈ targets n, t < count) : WalkEnds count targets where
  ends := by
    intro node bound w size
    have few := Walk.freshCount_enter_lt (size.symm ▸ bound)
    have alike (allowance : Nat) (more : allowance ≥ count) :=
      Walk.visit_ends within more node bound w size (size ▸ few)
    exact ⟨(alike count le_rfl).1.ne_depth, fun allowance more => (alike allowance more).2⟩
  sorts := by
    intro stopped
    obtain ⟨_, cycle, _⟩ := sortNodes_error within stopped
    cases cycle
  once := fun _ more => (sortLooks_watched within more).nodup_visited
  each := by
    intro places sorted node
    rw [← (perm_visited_of_sortNodes within sorted).mem_iff]
    exact (sortNodes_ok within sorted).2.1 node
  nesting := by
    intro allowance more look member fresh
    have orderly := (sortLooks_watched within more).orderly look member
    exact ⟨orderly.path, orderly.depth_lt fresh⟩

end FirmwareGlue.Library

namespace FirmwareGlue.LibraryOrder

open Library

/-- Ordering the library instances of a module ends, on whatever links. Each collected instance is
expanded once, and there are no more of them than registered modules; each is visited at most once,
inside of fewer visits than there are instances. -/
theorem ofView_ends (ws : Workspace) (v : View) :
    (∀ start, Reach.follow ws v {} = .ok start → LoopEnds ws v start) ∧
      ∀ nodes, reachable ws v = .ok nodes →
        ∃ rows, dependencies ws v nodes = .ok rows ∧
          WalkEnds nodes.length fun place => rows.getD place [] := by
  refine ⟨fun _ followed => loopEnds followed, ?_⟩
  intro nodes collected
  obtain ⟨rows, made, graph⟩ := (reachable_ok collected).dependencies_ok
  exact ⟨rows, made, walkEnds graph.inside⟩

/-- Links that go round in circles: both parts end, and no instance is visited twice. -/
theorem loop_ends : ∃ start nodes rows,
    Reach.follow loop (sampleView [1]) {} = .ok start ∧
      LoopEnds loop (sampleView [1]) start ∧
      reachable loop (sampleView [1]) = .ok nodes ∧
      nodes.map Module.name = ["Start", "Ping", "Pong"] ∧
      dependencies loop (sampleView [1]) nodes = .ok rows ∧
      rows = [[1], [2], [1]] ∧
      WalkEnds nodes.length fun place => rows.getD place [] := by
  obtain ⟨loopEnds, walkEnds⟩ := ofView_ends loop (sampleView [1])
  obtain ⟨rows, made, ends⟩ := walkEnds _ rfl
  refine ⟨_, _, rows, rfl, loopEnds _ rfl, rfl, rfl, made, ?_, ends⟩
  exact (Except.ok.inj made).symm

end FirmwareGlue.LibraryOrder
