import FirmwareGlue.Library.Walk
import FirmwareGlue.Proofs.Precedence
import Mathlib.Data.List.Chain
import Mathlib.Data.List.Perm.Subperm
import Mathlib.Data.List.TakeWhile

/-!
# What a depth-first walk finds

A walk keeps three things in step: the nodes it is inside of are the path, each a target of the one
before; the nodes it has left are emitted, each after its targets; and all others are fresh. From
this, one visit either emits its node and gives the path back, or stops at a target that is on the
path, and then the path from there on is a cycle. Only fresh nodes are entered, so an allowance for
nesting of as many nodes as are fresh is never used up.

Hence sorting lists all nodes, each once and after its targets, unless there is a cycle; and then it
gives the nodes of one.
-/

namespace FirmwareGlue.Library

variable {targets : Nat → List Nat} {count node target allowance : Nat} {w u : Walk}

/-- Each node of a list stands after its targets. -/
def TargetsFirst (targets : Nat → List Nat) (nodes : List Nat) : Prop :=
  ∀ before node after, nodes = before ++ node :: after → ∀ t ∈ targets node, t ∈ before

/-- Nodes along a cycle: each leads to the next, and only the first stands again, at the end. -/
def IsCycle (targets : Nat → List Nat) (count : Nat) (nodes : List Nat) : Prop :=
  ∃ first inner, nodes = first :: inner ++ [first] ∧ (first :: inner).Nodup ∧
    (∀ n ∈ nodes, n < count) ∧ nodes.IsChain fun a b => b ∈ targets a

theorem TargetsFirst.concat {nodes : List Nat} (ordered : TargetsFirst targets nodes)
    (first : ∀ t ∈ targets node, t ∈ nodes) : TargetsFirst targets (nodes ++ [node]) := by
  intro before n after split t ht
  rcases List.eq_nil_or_concat after with rfl | ⟨front, last, rfl⟩
  · obtain ⟨rfl, same⟩ := List.append_inj' split rfl
    obtain rfl : node = n := by simpa using same
    exact first t ht
  · rw [List.concat_eq_append, ← List.cons_append, ← List.append_assoc] at split
    obtain ⟨rfl, _⟩ := List.append_inj' split rfl
    exact ordered before n front rfl t ht

theorem TargetsFirst.precedes {nodes : List Nat} (ordered : TargetsFirst targets nodes)
    (member : node ∈ nodes) (h : target ∈ targets node) : Precedes nodes target node := by
  obtain ⟨before, after, split⟩ := List.append_of_mem member
  exact .of_split split (ordered before node after split target h)

namespace Walk

@[simp] theorem mark_start (count n : Nat) : (start count).mark n = .fresh := by
  rw [mark, start, List.getElem?_replicate]
  split <;> rfl

theorem mark_enter (bound : node < w.marks.length) (n : Nat) :
    (w.enter node).mark n = if n = node then .entered else w.mark n := by
  by_cases h : n = node
  · subst h
    simp [mark, enter, bound]
  · simp [mark, enter, h, Ne.symm h]

theorem mark_leave (bound : node < w.marks.length) (n : Nat) :
    (w.leave node).mark n = if n = node then .left else w.mark n := by
  by_cases h : n = node
  · subst h
    simp [mark, leave, bound]
  · simp [mark, leave, h, Ne.symm h]

theorem lt_of_mark_ne_fresh (h : w.mark node ≠ .fresh) : node < w.marks.length := by
  by_contra outside
  apply h
  rw [mark, List.getElem?_eq_none (by omega)]
  rfl

def freshCount (w : Walk) : Nat := w.marks.count .fresh

theorem freshCount_enter (bound : node < w.marks.length) (fresh : w.mark node = .fresh) :
    (w.enter node).freshCount + 1 = w.freshCount := by
  have here : w.marks[node] = .fresh := by simpa [mark, bound] using fresh
  have some : 0 < w.marks.count .fresh :=
    List.count_pos_iff.2 (here ▸ List.getElem_mem bound)
  rw [freshCount, freshCount, enter, List.count_set bound]
  simp [here]
  omega

theorem freshCount_leave (bound : node < w.marks.length) :
    (w.leave node).freshCount ≤ w.freshCount := by
  rw [freshCount, freshCount, leave, List.count_set bound]
  simp

/-- The marks, the path and the emitted nodes are in step. -/
structure Sound (targets : Nat → List Nat) (count : Nat) (w : Walk) : Prop where
  size : w.marks.length = count
  entered_iff : ∀ n, w.mark n = .entered ↔ n ∈ w.path
  left_iff : ∀ n, w.mark n = .left ↔ n ∈ w.emitted
  path_nodup : w.path.Nodup
  emitted_nodup : w.emitted.Nodup
  linked : w.path.IsChain fun a b => a ∈ targets b
  ordered : TargetsFirst targets w.emitted

namespace Sound

theorem lt_of_path (sound : Sound targets count w) (h : node ∈ w.path) : node < count := by
  rw [← sound.size]
  exact lt_of_mark_ne_fresh (by simp [(sound.entered_iff node).2 h])

theorem lt_of_emitted (sound : Sound targets count w) (h : node ∈ w.emitted) : node < count := by
  rw [← sound.size]
  exact lt_of_mark_ne_fresh (by simp [(sound.left_iff node).2 h])

end Sound

theorem sound_start (targets : Nat → List Nat) (count : Nat) :
    Sound targets count (start count) where
  size := by simp [start]
  entered_iff := by
    intro n
    rw [mark_start]
    simp [start]
  left_iff := by
    intro n
    rw [mark_start]
    simp [start]
  path_nodup := by simp [start]
  emitted_nodup := by simp [start]
  linked := by simp [start]
  ordered := by
    intro before n after split
    simp [start] at split

/-- A fresh node that the walk may enter: it is a target of the node the walk is inside of. -/
structure Enterable (targets : Nat → List Nat) (count node : Nat) (w : Walk) : Prop where
  sound : Sound targets count w
  bound : node < count
  fresh : w.mark node = .fresh
  next : ∀ p ∈ w.path.head?, node ∈ targets p

theorem Enterable.sound_enter (h : Enterable targets count node w) :
    Sound targets count (w.enter node) := by
  have bound : node < w.marks.length := h.sound.size ▸ h.bound
  have offPath : node ∉ w.path := by
    intro member
    rw [← h.sound.entered_iff, h.fresh] at member
    cases member
  have notLeft : node ∉ w.emitted := by
    intro member
    rw [← h.sound.left_iff, h.fresh] at member
    cases member
  refine ⟨?_, ?_, ?_, ?_, h.sound.emitted_nodup, ?_, h.sound.ordered⟩
  · simpa [enter] using h.sound.size
  · intro n
    rw [mark_enter bound]
    by_cases same : n = node
    · simp [same, enter]
    · simp [same, enter, h.sound.entered_iff]
  · intro n
    rw [mark_enter bound]
    by_cases same : n = node
    · simp [same, enter, notLeft]
    · simp [same, enter, h.sound.left_iff]
  · exact List.nodup_cons.2 ⟨offPath, h.sound.path_nodup⟩
  · exact List.isChain_cons.2 ⟨h.next, h.sound.linked⟩

/-- A node whose targets have been emitted may be left. -/
theorem Sound.leave {rest : List Nat} (sound : Sound targets count w)
    (inside : w.path = node :: rest) (done : ∀ t ∈ targets node, t ∈ w.emitted) :
    Sound targets count (w.leave node) := by
  have onPath : node ∈ w.path := by simp [inside]
  have bound : node < w.marks.length := sound.size ▸ sound.lt_of_path onPath
  have entered := (sound.entered_iff node).2 onPath
  have notLeft : node ∉ w.emitted := by
    intro member
    rw [← sound.left_iff, entered] at member
    cases member
  have apart := sound.path_nodup
  rw [inside, List.nodup_cons] at apart
  have back : (w.leave node).path = rest := by simp [Walk.leave, inside]
  refine ⟨?_, ?_, ?_, ?_, ?_, ?_, ?_⟩
  · simpa [Walk.leave] using sound.size
  · intro n
    rw [mark_leave bound, back]
    by_cases same : n = node
    · simp [same, apart.1]
    · simp [same, sound.entered_iff, inside]
  · intro n
    rw [mark_leave bound]
    by_cases same : n = node
    · simp [same, Walk.leave]
    · simp [same, Walk.leave, sound.left_iff]
  · exact back ▸ apart.2
  · exact List.nodup_append.2 ⟨sound.emitted_nodup, by simp, by grind⟩
  · have linked := sound.linked
    rw [inside, List.isChain_cons] at linked
    exact back ▸ linked.2
  · exact sound.ordered.concat done

/-- The cycle that a target on the path closes has what has been entered since. -/
theorem cycleTo_eq {inner lead : List Nat} (split : w.path = inner ++ target :: lead)
    (notInner : target ∉ inner) : w.cycleTo target = target :: inner.reverse ++ [target] := by
  have taken : w.path.takeWhile (· ≠ target) = inner := by
    rw [split, List.takeWhile_append_of_pos (by grind), List.takeWhile_cons_of_neg (by simp),
      List.append_nil]
  rw [cycleTo, taken]

/-- A target on the path closes a cycle, which is the path from there on. -/
theorem Sound.isCycle (sound : Sound targets count w) (onPath : target ∈ w.path)
    (next : ∀ p ∈ w.path.head?, target ∈ targets p) :
    IsCycle targets count (w.cycleTo target) := by
  obtain ⟨inner, lead, split, notInner⟩ := List.eq_append_cons_of_mem onPath
  have closed := cycleTo_eq split notInner
  have nodup := sound.path_nodup
  have linked := sound.linked
  rw [split, List.isChain_split] at linked
  rw [split, List.nodup_append] at nodup
  refine ⟨target, inner.reverse, closed, ?_, ?_, ?_⟩
  · exact List.nodup_cons.2 ⟨by simpa using notInner, List.nodup_reverse.2 nodup.1⟩
  · intro n member
    rw [closed] at member
    apply sound.lt_of_path
    rw [split]
    simp at member ⊢
    tauto
  · have turned : target :: inner.reverse ++ [target] =
        (target :: (inner ++ [target])).reverse := by
      simp
    rw [closed, turned, List.isChain_reverse, List.isChain_cons]
    refine ⟨?_, linked.1⟩
    intro p hp
    apply next p
    rw [split]
    cases inner with
    | nil => exact hp
    | cons => exact hp

/-- What part of a walk leaves as it was: the path, the emitted nodes, and what is not fresh. -/
structure Extends (w u : Walk) : Prop where
  path : u.path = w.path
  emitted : w.emitted <+: u.emitted
  fresh : u.freshCount ≤ w.freshCount

theorem Extends.refl (w : Walk) : Extends w w := ⟨rfl, List.prefix_refl _, Nat.le_refl _⟩

theorem Extends.trans {x : Walk} (first : Extends w u) (second : Extends u x) : Extends w x :=
  ⟨second.path.trans first.path, first.emitted.trans second.emitted,
    Nat.le_trans second.fresh first.fresh⟩

section Steps

variable {visit : Nat → Walk → Except Halt Walk} {rest : List Nat}

theorem visitFresh_cons_of_fresh (h : w.mark node = .fresh) :
    visitFresh visit (node :: rest) w = visit node w >>= visitFresh visit rest := by
  simp only [visitFresh, List.foldlM_cons, h]
  rfl

theorem visitFresh_cons_of_entered (h : w.mark node = .entered) :
    visitFresh visit (node :: rest) w = .error (.cycle (w.cycleTo node)) := by
  simp only [visitFresh, List.foldlM_cons, h]
  rfl

theorem visitFresh_cons_of_left (h : w.mark node = .left) :
    visitFresh visit (node :: rest) w = visitFresh visit rest w := by
  simp only [visitFresh, List.foldlM_cons, h]
  rfl

end Steps

/-- How part of a walk may end: some nodes have been emitted, or a cycle has been found. -/
def Outcome (targets : Nat → List Nat) (count : Nat) (w : Walk) (done : List Nat) :
    Except Halt Walk → Prop
  | .ok u => Sound targets count u ∧ Extends w u ∧ ∀ n ∈ done, n ∈ u.emitted
  | .error (.cycle nodes) => IsCycle targets count nodes
  | .error .depth => False

/-- What a way of visiting fresh nodes has to do, within some allowance. -/
def Visits (targets : Nat → List Nat) (count allowance : Nat)
    (visit : Nat → Walk → Except Halt Walk) : Prop :=
  ∀ node w, Enterable targets count node w → w.freshCount ≤ allowance →
    Outcome targets count w [node] (visit node w)

/-- Walking a list of nodes, targets of the node that the walk is inside of, emits all of them. -/
theorem visitFresh_outcome {visit : Nat → Walk → Except Halt Walk}
    (visits : Visits targets count allowance visit) (nodes : List Nat) (w : Walk)
    (sound : Sound targets count w) (bound : ∀ n ∈ nodes, n < count)
    (next : ∀ p ∈ w.path.head?, ∀ n ∈ nodes, n ∈ targets p) (enough : w.freshCount ≤ allowance) :
    Outcome targets count w nodes (visitFresh visit nodes w) := by
  induction nodes generalizing w with
  | nil => exact ⟨sound, .refl w, by simp⟩
  | cons node rest ih =>
      have inside : node < count := bound node List.mem_cons_self
      have nextNode : ∀ p ∈ w.path.head?, node ∈ targets p :=
        fun p hp => next p hp node List.mem_cons_self
      -- The rest is walked from wherever the first node has led.
      have later : ∀ u, Sound targets count u → Extends w u → node ∈ u.emitted →
          Outcome targets count w (node :: rest) (visitFresh visit rest u) := by
        intro u soundU extends' emitted
        have outcome := ih u soundU (fun n hn => bound n (List.mem_cons_of_mem node hn))
          (fun p hp n hn => next p (extends'.path ▸ hp) n (List.mem_cons_of_mem node hn))
          (Nat.le_trans extends'.fresh enough)
        match visitFresh visit rest u, outcome with
        | .ok x, ⟨soundX, extendsX, done⟩ =>
            refine ⟨soundX, extends'.trans extendsX, ?_⟩
            intro n hn
            rcases List.mem_cons.1 hn with rfl | hn
            · exact extendsX.emitted.subset emitted
            · exact done n hn
        | .error (.cycle nodes), isCycle => exact isCycle
      cases mark : w.mark node with
      | fresh =>
          rw [visitFresh_cons_of_fresh mark]
          have outcome := visits node w ⟨sound, inside, mark, nextNode⟩ enough
          match visit node w, outcome with
          | .ok u, ⟨soundU, extends', emitted⟩ =>
              exact later u soundU extends' (emitted node (by simp))
          | .error (.cycle nodes), isCycle => exact isCycle
      | entered =>
          rw [visitFresh_cons_of_entered mark]
          exact sound.isCycle ((sound.entered_iff node).1 mark) nextNode
      | left =>
          rw [visitFresh_cons_of_left mark]
          exact later w sound (.refl w) ((sound.left_iff node).1 mark)

variable (inside : ∀ n < count, ∀ t ∈ targets n, t < count)
include inside

/-- A visit of a fresh node emits it, after everything that it depends on. -/
theorem visit_visits (allowance : Nat) :
    Visits targets count allowance (visit targets allowance) := by
  induction allowance with
  | zero =>
      intro node w h enough
      have := freshCount_enter (h.sound.size ▸ h.bound) h.fresh
      omega
  | succ allowance ih =>
      intro node w h enough
      have spent := freshCount_enter (h.sound.size ▸ h.bound) h.fresh
      have outcome := visitFresh_outcome ih (targets node) (w.enter node) h.sound_enter
        (inside node h.bound) (by simp [enter]) (by omega)
      rw [visit]
      match visitFresh (visit targets allowance) (targets node) (w.enter node), outcome with
      | .ok u, ⟨sound, extends', done⟩ =>
          have path : u.path = node :: w.path := extends'.path
          have bound : node < u.marks.length := sound.size ▸ h.bound
          refine ⟨sound.leave path done, ⟨by simp [leave, path], ?_, ?_⟩, by simp [leave]⟩
          · exact extends'.emitted.trans (List.prefix_append _ _)
          · have := freshCount_leave bound
            have := extends'.fresh
            omega
      | .error (.cycle nodes), isCycle => exact isCycle

end Walk

section Sorting

variable (inside : ∀ n < count, ∀ t ∈ targets n, t < count)
include inside

theorem sortNodes_outcome :
    Walk.Outcome targets count (.start count) (List.range count)
      (Walk.visitFresh (Walk.visit targets count) (List.range count) (.start count)) := by
  apply Walk.visitFresh_outcome (Walk.visit_visits inside count)
  · exact Walk.sound_start targets count
  · simp
  · simp [Walk.start]
  · exact Nat.le_trans List.count_le_length (by simp [Walk.start])

/-- Sorted nodes are all nodes, each once and after its targets. -/
theorem sortNodes_ok {nodes : List Nat} (h : sortNodes count targets = .ok nodes) :
    nodes.Nodup ∧ (∀ n, n ∈ nodes ↔ n < count) ∧ TargetsFirst targets nodes := by
  have outcome := sortNodes_outcome inside
  rw [sortNodes] at h
  match walked : Walk.visitFresh (Walk.visit targets count) (List.range count) (.start count),
    outcome with
  | .ok u, ⟨sound, _, done⟩ =>
      rw [walked] at h
      cases h
      refine ⟨sound.emitted_nodup, ?_, sound.ordered⟩
      intro n
      exact ⟨sound.lt_of_emitted, fun bound => done n (List.mem_range.2 bound)⟩
  | .error (.cycle nodes), _ =>
      rw [walked] at h
      cases h

/-- Sorting stops at a cycle only. -/
theorem sortNodes_error {halt : Halt} (h : sortNodes count targets = .error halt) :
    ∃ nodes, halt = .cycle nodes ∧ IsCycle targets count nodes := by
  have outcome := sortNodes_outcome inside
  rw [sortNodes] at h
  match walked : Walk.visitFresh (Walk.visit targets count) (List.range count) (.start count),
    outcome with
  | .ok u, _ =>
      rw [walked] at h
      cases h
  | .error (.cycle nodes), isCycle =>
      rw [walked] at h
      cases h
      exact ⟨nodes, rfl, isCycle⟩

end Sorting

end FirmwareGlue.Library
