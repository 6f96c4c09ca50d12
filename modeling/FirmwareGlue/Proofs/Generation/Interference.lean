import FirmwareGlue.Proofs.Generation.Pass

/-!
# Passes among others

While a pass is carried out, others may change the tree between two of its operations. Here it is
said what becomes of the pass when all that is known about the others is a relation between the tree
before and after what they do. A pass that is carried out in one go is the case in which nobody else
does anything. What a pass itself may do to the tree is bounded by the operations that it can come
to ask for.
-/

namespace FirmwareGlue

open Storage

namespace Pass

variable {α β : Type} {others : FileTree → FileTree → Prop}

/-- A pass is carried out to its end, and others change the tree meanwhile. -/
inductive Runs (others : FileTree → FileTree → Prop) : Pass α → FileTree → α → FileTree → Prop where
  | done (result : α) (t : FileTree) : Runs others (done result) t result t
  | step {operation : Operation} {next : operation.Answer → Pass α} {t u : FileTree} {result : α}
      (rest : Runs others (next (operation.run t).1) (operation.run t).2 result u) :
      Runs others (step operation next) t result u
  | beside {p : Pass α} {t between u : FileTree} {result : α} (meanwhile : others t between)
      (rest : Runs others p between result u) : Runs others p t result u

namespace Runs

variable {p : Pass α} {t u : FileTree} {result : α}

/-- Nobody has to do anything. -/
theorem perform (others : FileTree → FileTree → Prop) (p : Pass α) (t : FileTree) :
    Runs others p t (p.perform t).1 (p.perform t).2 := by
  induction p generalizing t with
  | done result => exact .done result t
  | step operation next ih => exact .step (ih _ _)

/-- A pass that consists of two is carried out one after the other. -/
theorem of_bind {f : α → Pass β} {result : β} (run : Runs others (p.bind f) t result u) :
    ∃ first between, Runs others p t first between ∧ Runs others (f first) between result u := by
  generalize whole : p.bind f = q at run
  induction run generalizing p with
  | done result t =>
      cases p with
      | done first =>
          have same : f first = .done result := whole
          exact ⟨first, t, .done first t, same ▸ .done result t⟩
      | step operation next => cases whole
  | @step own goesOn t u result rest ih =>
      cases p with
      | done first =>
          have same : f first = .step own goesOn := whole
          exact ⟨first, t, .done first t, same ▸ .step rest⟩
      | step operation next =>
          cases whole
          obtain ⟨first, between, before, after⟩ := ih rfl
          exact ⟨first, between, .step before, after⟩
  | beside meanwhile rest ih =>
      obtain ⟨first, between, before, after⟩ := ih whole
      exact ⟨first, between, .beside meanwhile before, after⟩

section Stable

variable {holds : FileTree → Prop} (stable : ∀ t u, holds t → others t u → holds u)

include stable

/-- What others keep holds still when a pass ends. -/
theorem of_done {answer : α} (run : Runs others (.done answer) t result u) (here : holds t) :
    result = answer ∧ holds u := by
  generalize whole : Pass.done answer = q at run
  induction run with
  | done result t =>
      cases whole
      exact ⟨rfl, here⟩
  | step => cases whole
  | beside meanwhile rest ih => exact ih (stable _ _ here meanwhile) whole

/-- What others keep holds still when the next operation is carried out. -/
theorem of_step {operation : Operation} {next : operation.Answer → Pass α}
    (run : Runs others (.step operation next) t result u) (here : holds t) :
    ∃ between, holds between ∧
      Runs others (next (operation.run between).1) (operation.run between).2 result u := by
  generalize whole : Pass.step operation next = q at run
  induction run with
  | done result t => cases whole
  | step rest =>
      cases whole
      exact ⟨_, here, rest⟩
  | beside meanwhile rest ih => exact ih (stable _ _ here meanwhile) whole

end Stable

end Runs

/-- A pass asks only for operations that are allowed, whatever the answers. -/
inductive Within (allowed : Operation → Prop) : Pass α → Prop where
  | done (result : α) : Within allowed (done result)
  | step {operation : Operation} {next : operation.Answer → Pass α} (fine : allowed operation)
      (rest : ∀ answer, Within allowed (next answer)) : Within allowed (step operation next)

theorem Within.mono {allowed more : Operation → Prop} {p : Pass α} (h : Within allowed p)
    (weaker : ∀ operation, allowed operation → more operation) : Within more p := by
  induction h with
  | done result => exact .done result
  | step fine rest ih => exact .step (weaker _ fine) ih

theorem Within.bind {allowed : Operation → Prop} {p : Pass α} {f : α → Pass β}
    (first : Within allowed p) (second : ∀ result, Within allowed (f result)) :
    Within allowed (p.bind f) := by
  induction first with
  | done result => exact second result
  | step fine rest ih => exact .step fine ih

end Pass

end FirmwareGlue
