import FirmwareGlue.Proofs.FirstError
import FirmwareGlue.Proofs.Library.Walk

/-!
# What a walk looks at

A walk looks at the nodes it starts from, one after another, and inside a visit at the targets of
the node that is visited. A node that is fresh when the walk looks at it is visited at once, and one
on the path ends the walk. All looks are listed here in the order in which they happen, each with
the visits that are under way and with the state of the walk at that moment. The states are those
that the walk itself goes through, so what holds of every look holds whenever a node is visited.

At every look the marks, the path and the emitted nodes are in step, and the path is made of the
visits under way. A node that has been entered is never fresh again.
-/

namespace FirmwareGlue.Library

/-- A moment of a walk: it looks at a node. -/
structure Look where
  node : Nat
  /-- The nodes whose visits are under way, the latest first. -/
  inside : List Nat
  /-- The state of the walk at that moment. -/
  walk : Walk
  deriving DecidableEq

def Look.mark (look : Look) : Mark := look.walk.mark look.node

namespace Walk

/-- The looks at the nodes of a list, each followed by those of its visit if it is visited. -/
def looksAlong (visit : Nat → Walk → Except Halt Walk) (looks : Nat → Walk → List Look)
    (inside : List Nat) : List Nat → Walk → List Look
  | [], _ => []
  | node :: rest, w =>
    (⟨node, inside, w⟩ :: if w.mark node = .fresh then looks node w else []) ++
      match visitFresh visit [node] w with
      | .ok u => looksAlong visit looks inside rest u
      | .error _ => []

/-- The looks of a visit that is inside of some others. -/
def looksIn (targets : Nat → List Nat) : Nat → List Nat → Nat → Walk → List Look
  | 0, _, _, _ => []
  | allowance + 1, inside, node, w =>
    looksAlong (visit targets allowance) (looksIn targets allowance (node :: inside))
      (node :: inside) (targets node) (w.enter node)

end Walk

/-- The looks of the walk that sorts the nodes below `count`, with some allowance for nesting. -/
def sortLooks (allowance count : Nat) (targets : Nat → List Nat) : List Look :=
  Walk.looksAlong (Walk.visit targets allowance) (Walk.looksIn targets allowance []) []
    (List.range count) (.start count)

/-- The nodes that are visited at some looks, in order. -/
def visited (looks : List Look) : List Nat :=
  (looks.filter fun look => look.mark = .fresh).map Look.node

variable {targets : Nat → List Nat} {count node allowance : Nat} {inside : List Nat}
  {w u : Walk} {look : Look} {outcome : Except Halt Walk} {looks : List Look}

/-- At a look, the walk is in step, the visits under way are the path, and the node is a target of
the latest of them. -/
structure Look.Orderly (targets : Nat → List Nat) (count : Nat) (look : Look) : Prop where
  sound : look.walk.Sound targets count
  path : look.walk.path = look.inside
  bound : look.node < count
  target : ∀ p ∈ look.inside.head?, look.node ∈ targets p

namespace Look.Orderly

/-- A node that is visited is another one than those whose visits are under way, so there are fewer
of these than nodes. -/
theorem depth_lt (h : look.Orderly targets count) (fresh : look.mark = .fresh) :
    look.inside.length < count := by
  have offPath : look.node ∉ look.inside := by
    rw [← h.path, ← h.sound.entered_iff]
    intro entered
    rw [mark, entered] at fresh
    cases fresh
  have once : (look.node :: look.inside).Nodup :=
    List.nodup_cons.2 ⟨offPath, h.path ▸ h.sound.path_nodup⟩
  have within : look.node :: look.inside ⊆ List.range count := by
    intro n member
    rw [List.mem_range]
    rcases List.mem_cons.1 member with rfl | member
    · exact h.bound
    · exact h.sound.lt_of_path (h.path ▸ member)
  have few := (once.subperm within).length_le
  rwa [List.length_range, List.length_cons] at few

/-- A node that has been entered and not left has a place on the path, read from its start, and the
cycle that it closes is the path from that place on. -/
theorem exists_place (h : look.Orderly targets count) (entered : look.mark = .entered) :
    ∃ place, look.walk.path.reverse.idxOf? look.node = some place ∧
      look.walk.cycleTo look.node = look.walk.path.reverse.drop place ++ [look.node] := by
  obtain ⟨inner, lead, split, notInner⟩ :=
    List.eq_append_cons_of_mem ((h.sound.entered_iff look.node).1 entered)
  have nodup := h.sound.path_nodup
  rw [split, List.nodup_middle, List.nodup_cons, List.mem_append, not_or] at nodup
  have turned : look.walk.path.reverse = lead.reverse ++ look.node :: inner.reverse := by
    rw [split]
    simp
  refine ⟨lead.reverse.length, ?_, ?_⟩
  · rw [turned, List.idxOf?_eq_some_iff]
    refine ⟨by simp, by simp, ?_⟩
    intro j before same
    rw [List.getElem_append_left before] at same
    have member : look.node ∈ lead.reverse := same ▸ List.getElem_mem before
    exact nodup.1.2 (List.mem_reverse.1 member)
  · rw [Walk.cycleTo_eq split notInner, turned, List.drop_left]

end Look.Orderly

@[simp] theorem visited_append (first second : List Look) :
    visited (first ++ second) = visited first ++ visited second := by
  simp [visited]

theorem mem_visited (member : look ∈ looks) (fresh : look.mark = .fresh) :
    look.node ∈ visited looks :=
  List.mem_map_of_mem (List.mem_filter.2 ⟨member, decide_eq_true fresh⟩)

/-- What the looks of a part of a walk have in common, which begins in one state and has some
outcome. -/
structure Watched (targets : Nat → List Nat) (count : Nat) (w : Walk)
    (outcome : Except Halt Walk) (looks : List Look) : Prop where
  orderly : ∀ look ∈ looks, look.Orderly targets count
  /-- What has been met before is not fresh. -/
  later : ∀ look ∈ looks, ∀ n, w.mark n ≠ .fresh → look.walk.mark n ≠ .fresh
  /-- What is visited at a look is not fresh at a later one. -/
  once : looks.Pairwise fun a b => a.mark = .fresh → b.walk.mark a.node ≠ .fresh
  /-- What is visited is emitted, unless the walk stops, and nothing else is. -/
  emitted : ∀ u, outcome = .ok u → u.emitted.Perm (w.emitted ++ visited looks)
  /-- The walk stops at a node on the path, and there only. -/
  stopped : ∀ halt, outcome = .error halt ↔
    ∃ look ∈ looks, look.mark = .entered ∧ halt = .cycle (look.walk.cycleTo look.node)

namespace Watched

theorem nodup_visited (h : Watched targets count w outcome looks) : (visited looks).Nodup := by
  rw [visited, List.Nodup, List.pairwise_map, List.pairwise_filter]
  refine h.once.imp ?_
  intro a b later freshA freshB same
  have settled := later (of_decide_eq_true freshA)
  rw [same] at settled
  exact settled (of_decide_eq_true freshB)

theorem nil (w : Walk) : Watched targets count w (.ok w) [] where
  orderly := by simp
  later := by simp
  once := .nil
  emitted := by simp [visited]
  stopped := by simp

/-- A look at a node that is not visited. -/
theorem single (orderly : Look.Orderly targets count ⟨node, inside, w⟩)
    (met : w.mark node ≠ .fresh) (emitted : ∀ u, outcome = .ok u → u.emitted = w.emitted)
    (stopped : ∀ halt, outcome = .error halt ↔
      w.mark node = .entered ∧ halt = .cycle (w.cycleTo node)) :
    Watched targets count w outcome [⟨node, inside, w⟩] where
  orderly := by simpa using orderly
  later := by simp
  once := List.pairwise_singleton _ _
  emitted := by
    intro u made
    simp [emitted u made, visited, Look.mark, met]
  stopped := by simpa [Look.mark] using stopped

/-- Two parts of a walk, the second from where the first has led. -/
theorem append {later : List Look} {last : Except Halt Walk}
    (first : Watched targets count w (.ok u) looks) (sound : Walk.Sound targets count u)
    (met : ∀ n, w.mark n ≠ .fresh → u.mark n ≠ .fresh)
    (second : Watched targets count u last later) :
    Watched targets count w last (looks ++ later) where
  orderly := List.forall_mem_append.2 ⟨first.orderly, second.orderly⟩
  later := List.forall_mem_append.2
    ⟨first.later, fun look member n before => second.later look member n (met n before)⟩
  once := by
    refine List.pairwise_append.2 ⟨first.once, second.once, ?_⟩
    intro a inFirst b inSecond fresh
    have emitted : a.node ∈ u.emitted :=
      (first.emitted u rfl).mem_iff.2 (List.mem_append_right _ (mem_visited inFirst fresh))
    apply second.later b inSecond
    simp [(sound.left_iff a.node).2 emitted]
  emitted := by
    intro x made
    rw [visited_append, ← List.append_assoc]
    exact (second.emitted x made).trans ((first.emitted u rfl).append_right _)
  stopped := by
    intro halt
    have never : ∀ look ∈ looks, look.mark ≠ .entered := by
      intro look member entered
      cases (first.stopped _).2 ⟨look, member, entered, rfl⟩
    rw [second.stopped halt]
    constructor
    · rintro ⟨look, member, entered⟩
      exact ⟨look, List.mem_append_right _ member, entered⟩
    · rintro ⟨look, member, entered, same⟩
      rcases List.mem_append.1 member with inFirst | inSecond
      · exact absurd entered (never look inFirst)
      · exact ⟨look, inSecond, entered, same⟩

/-- A look at a node that is visited, and what is looked at between entering and leaving it. -/
theorem visit (orderly : Look.Orderly targets count ⟨node, inside, w⟩)
    (fresh : w.mark node = .fresh) (inner : Watched targets count (w.enter node) outcome looks) :
    Watched targets count w (outcome >>= fun walked => .ok (walked.leave node))
      (⟨node, inside, w⟩ :: looks) := by
  have entering := Walk.mark_enter (orderly.sound.size ▸ orderly.bound)
  refine ⟨List.forall_mem_cons.2 ⟨orderly, inner.orderly⟩, ?_, ?_, ?_, ?_⟩
  · refine List.forall_mem_cons.2 ⟨fun n met => met, ?_⟩
    intro look member n met
    apply inner.later look member n
    rw [entering]
    split
    · simp
    · exact met
  · refine List.pairwise_cons.2 ⟨?_, inner.once⟩
    intro look member _
    apply inner.later look member node
    simp [entering]
  · intro u made
    obtain ⟨walked, reached, left⟩ := bind_ok_iff.1 made
    cases left
    have head : visited (⟨node, inside, w⟩ :: looks) = node :: visited looks := by
      simp [visited, Look.mark, fresh]
    rw [head]
    have turned : (w.emitted ++ visited looks ++ [node]).Perm
        (w.emitted ++ node :: visited looks) := by
      rw [List.append_assoc]
      exact (List.perm_append_singleton node _).append_left _
    exact ((inner.emitted walked reached).append_right [node]).trans turned
  · intro halt
    simp [bind_error_iff, inner.stopped, Look.mark, fresh]

end Watched

namespace Walk

/-- What has been met stays met. -/
theorem Extends.met (h : Extends w u) (before : Sound targets count w)
    (after : Sound targets count u) {n : Nat} (met : w.mark n ≠ .fresh) : u.mark n ≠ .fresh := by
  cases mark : w.mark n with
  | fresh => exact absurd mark met
  | entered =>
      have onPath : n ∈ u.path := h.path ▸ (before.entered_iff n).1 mark
      simp [(after.entered_iff n).2 onPath]
  | left =>
      have emitted : n ∈ u.emitted := h.emitted.subset ((before.left_iff n).1 mark)
      simp [(after.left_iff n).2 emitted]

section Along

variable {visit : Nat → Walk → Except Halt Walk} {below : Nat → Walk → List Look}

theorem visitFresh_cons (node : Nat) (rest : List Nat) (w : Walk) :
    visitFresh visit (node :: rest) w = visitFresh visit [node] w >>= visitFresh visit rest := by
  simp only [visitFresh, List.foldlM_cons, List.foldlM_nil, bind_pure]
  rfl

variable (watched : ∀ node w, Enterable targets count node w → w.freshCount ≤ allowance →
  w.path = inside → Watched targets count w (visit node w) (⟨node, inside, w⟩ :: below node w))
include watched

/-- A look at one node, and those of its visit if it is visited. -/
theorem look_watched (orderly : Look.Orderly targets count ⟨node, inside, w⟩)
    (enough : w.freshCount ≤ allowance) :
    Watched targets count w (visitFresh visit [node] w)
      (⟨node, inside, w⟩ :: if w.mark node = .fresh then below node w else []) := by
  cases mark : w.mark node with
  | fresh =>
      have same : visitFresh visit [node] w = visit node w := by
        rw [visitFresh_cons_of_fresh mark]
        exact bind_pure _
      rw [same, if_pos rfl]
      exact watched node w
        ⟨orderly.sound, orderly.bound, mark, fun p hp => orderly.target p (orderly.path ▸ hp)⟩
        enough orderly.path
  | entered =>
      rw [visitFresh_cons_of_entered mark]
      exact .single orderly (by simp [mark]) (by simp) (by simp [mark, eq_comm])
  | left =>
      rw [visitFresh_cons_of_left mark]
      refine .single orderly (by simp [mark]) ?_ ?_
      · intro u made
        cases made
        rfl
      · simp [visitFresh, mark, pure, Except.pure]

theorem looksAlong_watched (visits : Visits targets count allowance visit) (nodes : List Nat)
    (w : Walk) (sound : Sound targets count w)
    (path : w.path = inside) (bound : ∀ n ∈ nodes, n < count)
    (next : ∀ p ∈ inside.head?, ∀ n ∈ nodes, n ∈ targets p) (enough : w.freshCount ≤ allowance) :
    Watched targets count w (visitFresh visit nodes w)
      (looksAlong visit below inside nodes w) := by
  induction nodes generalizing w with
  | nil => exact .nil w
  | cons node rest ih =>
      rw [List.forall_mem_cons] at bound
      have nextNode : ∀ p ∈ inside.head?, node ∈ targets p :=
        fun p hp => next p hp node List.mem_cons_self
      have nextRest : ∀ p ∈ inside.head?, ∀ n ∈ rest, n ∈ targets p :=
        fun p hp n member => next p hp n (List.mem_cons_of_mem node member)
      have first := look_watched watched ⟨sound, path, bound.1, nextNode⟩ enough
      have outcome := visitFresh_outcome visits [node] w sound (by simpa using bound.1)
        (by simpa [path] using nextNode) enough
      rw [visitFresh_cons, looksAlong]
      match visitFresh visit [node] w, first, outcome with
      | .error halt, first, _ =>
          rw [List.append_nil]
          exact first
      | .ok u, first, ⟨soundU, extends', _⟩ =>
          have pathU : u.path = inside := extends'.path.trans path
          have enoughU := Nat.le_trans extends'.fresh enough
          exact first.append soundU (fun n => extends'.met sound soundU)
            (ih u soundU pathU bound.2 nextRest enoughU)

end Along

variable (within : ∀ n < count, ∀ t ∈ targets n, t < count)
include within

theorem looksIn_watched (enterable : Enterable targets count node w)
    (enough : w.freshCount ≤ allowance) (path : w.path = inside) :
    Watched targets count w (visit targets allowance node w)
      (⟨node, inside, w⟩ :: looksIn targets allowance inside node w) := by
  induction allowance generalizing inside node w with
  | zero =>
      have := freshCount_enter (enterable.sound.size ▸ enterable.bound) enterable.fresh
      omega
  | succ allowance ih =>
      have spent := freshCount_enter (enterable.sound.size ▸ enterable.bound) enterable.fresh
      have orderly : Look.Orderly targets count ⟨node, inside, w⟩ :=
        ⟨enterable.sound, path, enterable.bound, path ▸ enterable.next⟩
      rw [visit, looksIn]
      apply Watched.visit orderly enterable.fresh
      apply looksAlong_watched (fun _ _ enterable enough path => ih enterable enough path)
        (visit_visits within allowance)
      · exact enterable.sound_enter
      · rw [enter, path]
      · exact within node enterable.bound
      · simp
      · omega

end Walk

variable (within : ∀ n < count, ∀ t ∈ targets n, t < count)
include within

/-- The looks of the walk that sorts the nodes of a graph. -/
theorem sortLooks_watched (enough : count ≤ allowance) :
    Watched targets count (.start count)
      (Walk.visitFresh (Walk.visit targets allowance) (List.range count) (.start count))
      (sortLooks allowance count targets) := by
  apply Walk.looksAlong_watched
    (fun _ _ enterable enough path => Walk.looksIn_watched within enterable enough path)
    (Walk.visit_visits within allowance)
  · exact Walk.sound_start targets count
  · rfl
  · simp
  · simp
  · calc
      (Walk.start count).freshCount ≤ (Walk.start count).marks.length := List.count_le_length
      _ = count := by simp [Walk.start]
      _ ≤ allowance := enough

/-- A walk that sorts the nodes visits each of them, in another order. -/
theorem perm_visited_of_sortNodes {nodes : List Nat} (h : sortNodes count targets = .ok nodes) :
    nodes.Perm (visited (sortLooks count count targets)) := by
  obtain ⟨walked, reached, made⟩ := bind_ok_iff.1 h
  cases made
  exact (sortLooks_watched within le_rfl).emitted walked reached

/-- A walk stops where it looks at a node on the path, and reports the cycle that this closes. -/
theorem sortNodes_error_iff {halt : Halt} : sortNodes count targets = .error halt ↔
    ∃ look ∈ sortLooks count count targets, look.mark = .entered ∧
      halt = .cycle (look.walk.cycleTo look.node) := by
  rw [← (sortLooks_watched within le_rfl).stopped]
  simp [sortNodes, bind_error_iff]

end FirmwareGlue.Library
