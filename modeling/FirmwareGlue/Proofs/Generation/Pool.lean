import Mathlib.Data.Set.List
import Mathlib.Logic.Hydra
import Mathlib.Logic.Relation
import FirmwareGlue.Proofs.Generation.Layout
import FirmwareGlue.Proofs.Generation.Interference

/-!
# Passes that take turns

Passes that run at the same time share one tree, and take turns with their operations in any order.
Every order comes to an end, because a turn takes one operation off a pass and puts nothing in its
place; and at the end every pass has come to a result, because a pass never waits for another one.
To run one pass after the other is one of the orders.

If each pass works in an output directory of its own, each of them sees the turns of the others as
changes that do not concern it.
-/

namespace FirmwareGlue

open Storage FileTree Surroundings

/-- Passes that run at the same time, and the tree that they share. -/
structure Pool (α : Type) where
  passes : List (Pass α)
  tree : FileTree

namespace Pool

variable {α β : Type} {start pool later final : Pool α}

/-- One of the passes carries out its next operation. -/
inductive Turn : Pool α → Pool α → Prop where
  | take {passes : List (Pass α)} {t : FileTree} {i : Nat} {operation : Operation}
      {next : operation.Answer → Pass α} (here : passes[i]? = some (.step operation next)) :
      Turn ⟨passes, t⟩ ⟨passes.set i (next (operation.run t).1), (operation.run t).2⟩

abbrev Schedule : Pool α → Pool α → Prop :=
  Relation.ReflTransGen Turn

def performAll : List (Pass α) → FileTree → List α × FileTree
  | [], t => ([], t)
  | p :: rest, t =>
    ((p.perform t).1 :: (performAll rest (p.perform t).2).1, (performAll rest (p.perform t).2).2)

/-- No pass has anything left to do. -/
def AtRest (pool : Pool α) : Prop :=
  ∀ later, ¬ Turn pool later

/-- No order of turns goes on without end. -/
def Ends (pool : Pool α) : Prop :=
  Acc (fun later pool => Turn pool later) pool

/-- A pass that has not come to a result is ready for its next turn. -/
theorem atRest_iff : pool.AtRest ↔ ∃ outcomes : List α, pool.passes = outcomes.map .done := by
  constructor
  · intro rest
    have done : ∀ p ∈ pool.passes, p ∈ Set.range (Pass.done : α → Pass α) := by
      intro p listed
      cases p with
      | done result => exact ⟨result, rfl⟩
      | step operation next =>
          obtain ⟨i, bound, here⟩ := List.getElem_of_mem listed
          exact absurd (.take (List.getElem?_eq_some_iff.2 ⟨bound, here⟩)) (rest _)
    have all : pool.passes ∈ Set.range (List.map (Pass.done : α → Pass α)) := by
      rw [Set.range_list_map]
      exact done
    obtain ⟨outcomes, same⟩ := all
    exact ⟨outcomes, same.symm⟩
  · rintro ⟨outcomes, complete⟩ later turn
    cases turn with
    | take here =>
        dsimp only at complete
        simp [complete] at here

/-- A pass goes on to another one after its next operation, whatever the answer. -/
inductive Follows : Pass α → Pass α → Prop where
  | intro (operation : Operation) (next : operation.Answer → Pass α) (answer : operation.Answer) :
      Follows (next answer) (.step operation next)

theorem wellFounded_follows : WellFounded (Follows : Pass α → Pass α → Prop) := by
  refine ⟨fun p => ?_⟩
  induction p with
  | done result => exact ⟨_, fun _ h => nomatch h⟩
  | step operation next ih => exact ⟨_, fun _ h => by cases h; exact ih _⟩

/-- A turn takes a pass out of the passes and puts back one that follows it. -/
theorem cutExpand_of_turn (turn : Turn pool later) :
    Relation.CutExpand Follows (later.passes : Multiset (Pass α))
      (pool.passes : Multiset (Pass α)) := by
  cases turn with
  | @take passes t i operation next here =>
      obtain ⟨bound, same⟩ := List.getElem?_eq_some_iff.1 here
      refine ⟨{next (operation.run t).1}, .step operation next, ?_, ?_⟩
      · intro q listed
        rw [Multiset.mem_singleton.1 listed]
        exact .intro operation next _
      · have split : passes = passes.take i ++ .step operation next :: passes.drop (i + 1) := by
          rw [← same, List.getElem_cons_drop, List.take_append_drop]
        dsimp only
        rw [List.set_eq_take_append_cons_drop, if_pos bound]
        conv_rhs => rw [split]
        simp only [← Multiset.coe_add, ← Multiset.cons_coe, ← Multiset.singleton_add]
        ac_rfl

theorem ends (pool : Pool α) : pool.Ends :=
  (Subrelation.wf cutExpand_of_turn (InvImage.wf _ wellFounded_follows.cutExpand)).apply pool

/-- One pass can take all its turns at once. -/
theorem schedule_perform (before : List (Pass α)) (p : Pass α) (after : List (Pass α))
    (t : FileTree) :
    Schedule ⟨before ++ p :: after, t⟩
      ⟨before ++ .done (p.perform t).1 :: after, (p.perform t).2⟩ := by
  induction p generalizing t with
  | done result => exact .refl
  | step operation next ih =>
      have first : Turn ⟨before ++ .step operation next :: after, t⟩
          ⟨before ++ next (operation.run t).1 :: after, (operation.run t).2⟩ := by
        have here : (before ++ .step operation next :: after)[before.length]? =
            some (.step operation next) := by simp
        simpa using Turn.take (t := t) here
      exact .head first (ih _ _)

/-- One pass after the other is one of the orders. -/
theorem schedule_performAll (before : List α) (passes : List (Pass α)) (t : FileTree) :
    Schedule ⟨before.map .done ++ passes, t⟩
      ⟨(before ++ (performAll passes t).1).map .done, (performAll passes t).2⟩ := by
  induction passes generalizing before t with
  | nil =>
      rw [performAll, List.append_nil, List.append_nil]
  | cons p rest ih =>
      have first := schedule_perform (before.map .done) p rest t
      have others := ih (before ++ [(p.perform t).1]) (p.perform t).2
      simp only [List.map_append, List.map_cons, List.map_nil, List.append_assoc,
        List.cons_append, List.nil_append] at others
      rw [performAll, List.map_append, List.map_cons]
      exact first.trans others

/-- Two passes in the other order: first the second, and then the first. -/
def inReverse (first second : Pass α) (t : FileTree) : List α × FileTree :=
  ([(first.perform (second.perform t).2).1, (second.perform t).1],
    (first.perform (second.perform t).2).2)

theorem schedule_inReverse (first second : Pass α) (t : FileTree) :
    Schedule ⟨[first, second], t⟩
      ⟨(inReverse first second t).1.map .done, (inReverse first second t).2⟩ :=
  (schedule_perform [first] second [] t).trans
    (schedule_perform [] first [.done (second.perform t).1] (second.perform t).2)

end Pool

namespace Generation

open Pool Layout

section Separate

variable {l : Layout} {α : Type} {start pool later final : Pool α} {i : Nat} {d : String}

/-- Each pass works in a directory of its own. -/
structure Tended (l : Layout) (pool : Pool α) : Prop where
  within : ∀ (i : Nat) (d : String) (p : Pass α), l.directories[i]? = some d →
    pool.passes[i]? = some p → p.Within (Operates d)
  aligned : pool.passes.length = l.directories.length
  fits : l.Fits pool.tree

theorem separate_of_ne {j : Nat} {e : String} (other : i ≠ j) (hd : l.directories[i]? = some d)
    (he : l.directories[j]? = some e) : Separate (placeOf d) (placeOf e) := by
  have apart := List.pairwise_map.1 l.separate
  obtain ⟨hi, rfl⟩ := List.getElem?_eq_some_iff.1 hd
  obtain ⟨hj, rfl⟩ := List.getElem?_eq_some_iff.1 he
  rcases Nat.lt_or_gt_of_ne other with before | after
  · exact List.pairwise_iff_getElem.1 apart i j hi hj before
  · exact Std.Symm.symm _ _ (List.pairwise_iff_getElem.1 apart j i hj hi after)

/-- What a turn is for one of the passes: its next operation, or a change that does not concern
it. -/
inductive Moves (l : Layout) (d : String) : Pass α → FileTree → Pass α → FileTree → Prop where
  | own (operation : Operation) (next : operation.Answer → Pass α) (t : FileTree) :
      Moves l d (.step operation next) t (next (operation.run t).1) (operation.run t).2
  | waits (p : Pass α) {t u : FileTree} (meanwhile : l.Beside d t u) : Moves l d p t p u

theorem Moves.runs {p q : Pass α} {t u v : FileTree} {result : α} (h : Moves l d p t q u)
    (rest : q.Runs (l.Beside d) u result v) : p.Runs (l.Beside d) t result v := by
  cases h with
  | own operation next t => exact .step rest
  | waits p meanwhile => exact .beside meanwhile rest

theorem Tended.moves (h : Tended l pool) (turn : Turn pool later) {p : Pass α}
    (hd : l.directories[i]? = some d) (hp : pool.passes[i]? = some p) :
    ∃ q, later.passes[i]? = some q ∧ Moves l d p pool.tree q later.tree := by
  cases turn with
  | @take passes t j operation next here =>
      obtain ⟨hj, _⟩ := List.getElem?_eq_some_iff.1 here
      have directory := List.getElem?_eq_getElem (h.aligned ▸ hj)
      by_cases same : j = i
      · subst same
        rw [here] at hp
        cases hp
        exact ⟨_, List.getElem?_set_self hj, .own operation next t⟩
      · refine ⟨p, (List.getElem?_set_ne same).trans hp, .waits p ?_⟩
        cases h.within j _ _ directory here with
        | step fine rest =>
            have effect := effect_run (List.mem_of_getElem? directory) h.fits fine
            exact effect.beside (separate_of_ne (Ne.symm same) hd directory)

theorem Tended.turn (h : Tended l pool) (turn : Turn pool later) : Tended l later := by
  cases turn with
  | @take passes t j operation next here =>
      obtain ⟨hj, _⟩ := List.getElem?_eq_some_iff.1 here
      have directory := List.getElem?_eq_getElem (h.aligned ▸ hj)
      cases h.within j _ _ directory here with
      | step fine rest =>
          have effect := effect_run (List.mem_of_getElem? directory) h.fits fine
          refine ⟨fun i d p hd hp => ?_, ?_, effect.fits⟩
          · by_cases same : j = i
            · subst same
              rw [List.getElem?_set_self hj] at hp
              rw [directory] at hd
              cases hp
              cases hd
              exact rest _
            · rw [List.getElem?_set_ne same] at hp
              exact h.within i d p hd hp
          · rw [List.length_set]
            exact h.aligned

theorem Tended.schedule (h : Tended l start) (schedule : Schedule start final) :
    Tended l final := by
  induction schedule with
  | refl => exact h
  | tail _ turn ih => exact ih.turn turn

/-- What happens in turns is, for each pass, the pass among others. -/
theorem Tended.runs (h : Tended l start) (schedule : Schedule start final) {p : Pass α} {result : α}
    (hd : l.directories[i]? = some d) (hp : start.passes[i]? = some p)
    (complete : final.passes[i]? = some (.done result)) :
    p.Runs (l.Beside d) start.tree result final.tree := by
  induction schedule using Relation.ReflTransGen.head_induction_on generalizing p with
  | refl =>
      rw [hp] at complete
      cases complete
      exact .done result _
  | head turn _ ih =>
      obtain ⟨q, hq, moves⟩ := h.moves turn hd hp
      exact moves.runs (ih (h.turn turn) hq)

end Separate

end Generation

end FirmwareGlue
