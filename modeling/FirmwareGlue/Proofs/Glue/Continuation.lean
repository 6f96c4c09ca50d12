import FirmwareGlue.Proofs.Capability.Collection
import FirmwareGlue.Proofs.Glue.Rendering
import FirmwareGlue.Proofs.Library.Continuation

/-!
# What rendering asks of a workspace

Rendering looks into the workspace in four places: for the headers of packages, for those of library
classes, for library instances, and for the declarations of keywords. All it asks for are packages
and instances that the module or an instance it reaches refers to for the architecture. Where
another workspace answers these questions as the first one does, the module is rendered to the same
files or fails with the same error. An answer that is lacking and comes later can only lift the
errors that say that it is lacking.
-/

namespace FirmwareGlue

open Library

variable {liftable : Error → Prop} {ws other : Workspace} {v : View} {r : Reference}

namespace CapabilitySet

/-- The packages of a set are those of the instances and of the module itself. -/
theorem mem_packages_ofOrder {order : LibraryOrder} : r ∈ (ofOrder v order).packages ↔
    (∃ m ∈ order.instances, r ∈ (v.scopedTo m).packages) ∨ r ∈ v.packages := by
  rw [packages_ofOrder, FirstSeen.mem_ofList, sources, List.flatMap_append, List.mem_append,
    List.mem_flatMap, List.flatMap_singleton]
  rfl

end CapabilitySet

namespace Workspace

variable {α : Type} {packages : List Reference}

/-- A search goes on in the same way as long as the packages are found alike. -/
theorem persists_search (answer : Package → Option α)
    (each : ∀ r ∈ packages, Persists liftable (ws.requirePackage r) (other.requirePackage r)) :
    Persists liftable (ws.search answer packages) (other.search answer packages) := by
  induction packages with
  | nil => exact .refl _ _
  | cons r rest ih =>
      rw [List.forall_mem_cons] at each
      rw [search, search]
      refine each.1.bind fun p _ => ?_
      cases answer p with
      | none => exact ih each.2
      | some found => exact .refl _ _

theorem persists_searchOr (answer : Package → Option α) (absent : Error)
    (each : ∀ r ∈ packages, Persists liftable (ws.requirePackage r) (other.requirePackage r)) :
    Persists liftable (ws.searchOr answer packages absent)
      (other.searchOr answer packages absent) :=
  (persists_search answer each).bind fun _ _ => .refl _ _

namespace Continues

theorem includes (h : ws.Continues liftable other v) :
    Persists liftable (Glue.includes ws v) (Glue.includes other v) := by
  have own := h.packages v .itself
  have types : Persists liftable (v.packages.mapM fun r => ws.packageHeader r v.type)
      (v.packages.mapM fun r => other.packageHeader r v.type) :=
    .mapM fun r listed => (own r listed).bind fun _ _ => .refl _ _
  have classes (names : List String) :
      Persists liftable (names.mapM (Glue.requireClassHeader ws v.packages))
        (names.mapM (Glue.requireClassHeader other v.packages)) := by
    refine .mapM fun name _ => ?_
    rw [Glue.requireClassHeader_eq, Glue.requireClassHeader_eq]
    exact persists_searchOr _ _ own
  exact types.bind fun _ _ => (classes _).bind fun _ _ => .refl _ _

theorem header (h : ws.Continues liftable other v) (fragment : String) :
    Persists liftable (Header.ofView ws v fragment) (Header.ofView other v fragment) :=
  h.includes.bind fun _ _ => .refl _ _

/-- The packages in which keywords are looked for are those of the module and its instances. -/
theorem resolve (h : ws.Continues liftable other v) {order : LibraryOrder}
    (ordered : LibraryOrder.ofView ws v = .ok order) :
    Persists liftable ((CapabilitySet.ofOrder v order).resolve ws)
      ((CapabilitySet.ofOrder v order).resolve other) := by
  have made := isConstructionOrder_of_ok ordered
  have each : ∀ r ∈ (CapabilitySet.ofOrder v order).packages,
      Persists liftable (ws.requirePackage r) (other.requirePackage r) := by
    intro r listed
    rcases CapabilitySet.mem_packages_ofOrder.1 listed with ⟨m, member, listed⟩ | listed
    · exact h.packages _ (.reached ((made.mem_iff m).1 member)) r listed
    · exact h.packages v .itself r listed
  rw [CapabilitySet.resolve_eq, CapabilitySet.resolve_eq]
  refine Persists.bind (.mapM fun request _ => ?_) fun _ _ => .refl _ _
  rw [CapabilitySet.global, CapabilitySet.global, CapabilitySet.requireDeclaration_eq,
    CapabilitySet.requireDeclaration_eq]
  exact (persists_searchOr _ _ each).bind fun _ _ => .refl _ _

theorem source (h : ws.Continues liftable other v) (config : Config) (fragment : String) :
    Persists liftable (Source.ofView ws v config fragment)
      (Source.ofView other v config fragment) :=
  h.libraryOrder.bind fun _ ordered => (h.resolve ordered).bind fun _ _ => .refl _ _

theorem rendering (h : ws.Continues liftable other v) (config : Config)
    (fragments : PcdFragments) :
    Persists liftable (Rendering.ofView ws config v fragments)
      (Rendering.ofView other config v fragments) := by
  refine (h.header fragments.header).bind fun _ _ => ?_
  refine Persists.bind ?_ fun _ _ => .refl _ _
  rw [Rendering.sourceOf, Rendering.sourceOf]
  split
  next => exact .refl _ _
  next => exact h.source config fragments.source

end Continues

end Workspace

end FirmwareGlue
