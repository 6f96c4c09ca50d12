import FirmwareGlue.Proofs.Library.Order
import FirmwareGlue.Proofs.Persistence

/-!
# What the order of construction asks of a workspace

The order is made from the answers that a workspace gives to some references: those that the module
and the instances it reaches declare. Another workspace that gives the same answers to them has the
same order, whatever else is registered in it, and however many modules that is. An instance that is
reached has been answered for, so the dependencies among instances never differ; only the search for
them can come to a reference that nothing is registered for.
-/

namespace FirmwareGlue

open Library

/-- Another workspace answers everything that is asked for a module as the first one does, but for
questions whose lack of an answer is an error that may be lifted. -/
structure Workspace.Continues (liftable : Error → Prop) (ws other : Workspace) (v : View) :
    Prop where
  modules : ∀ owner, Owner ws v owner → ∀ r ∈ owner.libraryInstances,
    Persists liftable (Reach.instanceOf ws owner r) (Reach.instanceOf other owner r)
  packages : ∀ owner, Owner ws v owner → ∀ r ∈ owner.packages,
    Persists liftable (ws.requirePackage r) (other.requirePackage r)

namespace Workspace.Continues

variable {liftable : Error → Prop} {ws other : Workspace} {v owner : View} {nodes : List Module}
  {m : Module} {r : Reach}

theorem follow (h : ws.Continues liftable other v) (own : Owner ws v owner) (r : Reach) :
    Persists liftable (r.follow ws owner) (r.follow other owner) := by
  rw [Reach.follow_eq, Reach.follow_eq]
  exact (Persists.mapM (h.modules owner own)).bind fun _ _ => .refl _ _

theorem step (h : ws.Continues liftable other v) (sound : Reach.Sound ws v r) :
    Persists liftable (r.step ws v) (r.step other v) := by
  rw [Reach.step, Reach.step]
  split
  next => exact .refl _ _
  next m rest waiting =>
    have member : m ∈ r.instances := by simp [Reach.instances, waiting]
    exact h.follow (.reached (sound.reached m member)) _

/-- What has been collected is reached in the first workspace, so each round asks what it is known
to be answered alike. -/
theorem rounds (h : ws.Continues liftable other v) (n : Nat) (steady : Reach.Steady ws v r) :
    Persists liftable (r.rounds ws v n) (r.rounds other v n) := by
  induction n generalizing r with
  | zero => exact .refl _ _
  | succ n ih =>
      rw [Reach.rounds, Reach.rounds]
      exact (h.step steady.sound).bind fun next stepped => ih (Reach.step_ok steady stepped).1

theorem reachable (h : ws.Continues liftable other v) :
    Persists liftable (reachable ws v) (reachable other v) := by
  -- The workspaces may differ in size, so both are given rounds enough for either.
  rw [reachable_eq (Nat.le_max_left ws.modules.entries.size other.modules.entries.size),
    reachable_eq (Nat.le_max_right ws.modules.entries.size other.modules.entries.size)]
  refine (h.follow .itself {}).bind fun direct followed => ?_
  exact (h.rounds _ (steady_direct followed).1).bind fun _ _ => .refl _ _

/-- A reference of a collected instance is answered, and so both workspaces answer it alike. -/
theorem placeOf_eq (h : ws.Continues liftable other v) (collection : IsCollection ws v nodes)
    (member : m ∈ nodes) {x : Reference} (listed : x ∈ (v.scopedTo m).libraryInstances) :
    placeOf other nodes x = placeOf ws nodes x := by
  have own : Owner ws v (v.scopedTo m) := .reached ((collection.mem_iff m).1 member)
  obtain ⟨target, found⟩ := collection.resolves _ own x listed
  have answered := h.modules _ own x listed
  rw [Reach.instanceOf_ok_iff.2 found] at answered
  rw [placeOf, placeOf, found, Reach.instanceOf_ok_iff.1 answered.ok]

theorem dependencies_eq (h : ws.Continues liftable other v)
    (collection : IsCollection ws v nodes) :
    dependencies other v nodes = dependencies ws v nodes := by
  refine mapM_congr fun entry member => ?_
  have collected : entry.1 ∈ nodes := List.fst_mem_of_mem_zipIdx member
  rw [targetsOf, targetsOf, mapM_congr fun x listed => h.placeOf_eq collection collected listed]

theorem libraryOrder (h : ws.Continues liftable other v) :
    Persists liftable (LibraryOrder.ofView ws v) (LibraryOrder.ofView other v) := by
  refine h.reachable.bind fun nodes collected => ?_
  rw [h.dependencies_eq (reachable_ok collected)]
  exact .refl _ _

end Workspace.Continues

end FirmwareGlue
