import FirmwareGlue.Library.Order
import FirmwareGlue.Proofs.Workspace.Lookup
import Mathlib.Logic.Relation

/-!
# Links and dependencies among library instances

The relations that the order of construction is about, said without the algorithm: which instances
a module reaches, whose references are followed on the way, and which instance depends on which. An
instance depends on those it links, itself included, and on the others that produce a library class
it consumes. Everything is read for the architecture of the module.

Every instance that is reached was found by a lookup, so it is known by its GUID and version.
-/

namespace FirmwareGlue.Library

variable {ws : Workspace} {v owner : View} {a b m : Module} {r : Reference}

/-- An instance links another one: a reference of it is to the other. -/
def Links (ws : Workspace) (v : View) (a b : Module) : Prop :=
  ∃ r ∈ (v.scopedTo a).libraryInstances, ws.module? r = some b

/-- The instances that a module reaches through references. -/
inductive Reaches (ws : Workspace) (v : View) : Module → Prop where
  | direct {r : Reference} {m : Module} (listed : r ∈ v.libraryInstances)
      (found : ws.module? r = some m) : Reaches ws v m
  | step {a b : Module} (reached : Reaches ws v a) (linked : Links ws v a b) : Reaches ws v b

/-- The modules whose references are followed: the module itself and what it reaches. -/
inductive Owner (ws : Workspace) (v : View) : View → Prop where
  | itself : Owner ws v v
  | reached {m : Module} (h : Reaches ws v m) : Owner ws v (v.scopedTo m)

/-- Every reference that is followed is to a registered module. -/
def LinksResolve (ws : Workspace) (v : View) : Prop :=
  ∀ owner, Owner ws v owner → ∀ r ∈ owner.libraryInstances, ∃ m, ws.module? r = some m

/-- An instance consumes a library class that another one produces. -/
def Uses (v : View) (a b : Module) : Prop :=
  ∃ name ∈ (v.scopedTo a).libraryClasses .consumed,
    name ∈ (v.scopedTo b).libraryClasses .produced

/-- An instance has to be constructed after another one. Only a link makes it depend on itself. -/
def DependsOn (ws : Workspace) (v : View) (a b : Module) : Prop :=
  Links ws v a b ∨ a ≠ b ∧ Uses v a b

/-- A dependency among the instances that a module reaches. -/
def Dependency (ws : Workspace) (v : View) (a b : Module) : Prop :=
  Reaches ws v a ∧ Reaches ws v b ∧ DependsOn ws v a b

theorem Reaches.of_owner (own : Owner ws v owner) (listed : r ∈ owner.libraryInstances)
    (found : ws.module? r = some m) : Reaches ws v m := by
  cases own with
  | itself => exact .direct listed found
  | reached h => exact .step h ⟨r, listed, found⟩

/-- The own reference of an instance that is reached is to that instance. -/
theorem Reaches.found (h : Reaches ws v m) : ws.module? m.identity.reference = some m := by
  cases h with
  | direct _ found => exact Workspace.module?_reference found
  | step _ linked =>
      obtain ⟨_, _, found⟩ := linked
      exact Workspace.module?_reference found

theorem Reaches.eq_of_version (ha : Reaches ws v a) (hb : Reaches ws v b)
    (guid : a.identity.guid = b.identity.guid)
    (version : a.identity.version = b.identity.version) : a = b :=
  Workspace.eq_of_module? ha.found hb.found guid version

theorem Reaches.eq_of_identity (ha : Reaches ws v a) (hb : Reaches ws v b)
    (same : a.identity = b.identity) : a = b :=
  ha.eq_of_version hb (by rw [same]) (by rw [same])

end FirmwareGlue.Library
