import FirmwareGlue.Proofs.Library.Graph

/-!
# The order of construction is right

The order is made in three steps: the instances are collected, their dependencies are noted by
places in the collection, and the places are sorted by a walk. The dependencies that are noted are
exactly those among the collected instances, so what the walk does with places it does with
instances: an order lists what the module reaches, each instance once and after everything it
depends on; and there is no order exactly if some instance depends on itself, directly or through
others, in which case such a cycle is named.
-/

namespace FirmwareGlue

namespace Library

variable {ws : Workspace} {v : View} {nodes : List Module} {a b m : Module}

/-- An order is made by sorting the places of the collected instances. -/
theorem ofView_eq (h : reachable ws v = .ok nodes) :
    ∃ targets, IsGraph ws v nodes targets ∧
      LibraryOrder.ofView ws v =
        (sortNodes nodes.length targets).mapError (haltError nodes) >>= fun places =>
          .ok ⟨places.filterMap fun i => nodes[i]?⟩ := by
  obtain ⟨rows, hrows, graph⟩ := (reachable_ok h).dependencies_ok
  exact ⟨_, graph, by simp only [LibraryOrder.ofView, h, hrows, ok_bind]⟩

/-- An order of construction: everything that a module reaches, each instance once and after those
it depends on. -/
structure IsConstructionOrder (ws : Workspace) (v : View) (instances : List Module) : Prop where
  nodup : instances.Nodup
  mem_iff : ∀ m, m ∈ instances ↔ Reaches ws v m
  ordered : ∀ a b, Dependency ws v a b → Precedes instances b a

/-- Sorted places of collected instances are an order of construction. -/
theorem IsGraph.isConstructionOrder {targets : Nat → List Nat} {places : List Nat}
    (graph : IsGraph ws v nodes targets) (collection : IsCollection ws v nodes)
    (sorted : sortNodes nodes.length targets = .ok places) :
    IsConstructionOrder ws v (places.filterMap fun i => nodes[i]?) := by
  obtain ⟨nodup, all, ordered⟩ := sortNodes_ok graph.inside sorted
  refine ⟨collection.nodup_filterMap nodup, ?_, ?_⟩
  · intro m
    rw [List.mem_filterMap, ← collection.mem_iff, List.mem_iff_getElem?]
    constructor
    · rintro ⟨i, _, here⟩
      exact ⟨i, here⟩
    · rintro ⟨i, here⟩
      exact ⟨i, (all i).2 (List.getElem?_eq_some_iff.1 here).1, here⟩
  · rintro a b ⟨reachedA, reachedB, depends⟩
    obtain ⟨i, here⟩ := List.mem_iff_getElem?.1 ((collection.mem_iff a).2 reachedA)
    obtain ⟨j, there⟩ := List.mem_iff_getElem?.1 ((collection.mem_iff b).2 reachedB)
    have target : j ∈ targets i := (graph i j).2 ⟨a, b, here, there, depends⟩
    have member : i ∈ places := (all i).2 (List.getElem?_eq_some_iff.1 here).1
    exact (ordered.precedes member target).filterMap there here

namespace IsConstructionOrder

variable {instances : List Module}

/-- What an instance depends on through others is constructed before it as well. -/
theorem precedes (order : IsConstructionOrder ws v instances)
    (h : Relation.TransGen (Dependency ws v) a b) : Precedes instances b a := by
  induction h with
  | single first => exact order.ordered _ _ first
  | tail _ last ih => exact (order.ordered _ _ last).trans order.nodup ih

theorem acyclic (order : IsConstructionOrder ws v instances) (a : Module) :
    ¬ Relation.TransGen (Dependency ws v) a a := by
  intro h
  exact Precedes.irrefl order.nodup (order.precedes h)

end IsConstructionOrder

/-- The first instance of a cycle depends on itself. -/
theorem IsDependencyCycle.transGen {cycle : List Module} (h : IsDependencyCycle ws v cycle) :
    ∃ a, Relation.TransGen (Dependency ws v) a a := by
  obtain ⟨first, inner, rfl, _, chain⟩ := h
  have pairs := (chain.imp fun _ _ => Relation.TransGen.single).pairwise
  rw [List.cons_append, List.pairwise_cons] at pairs
  exact ⟨first, pairs.1 first (by simp)⟩

theorem isConstructionOrder_of_ok {order : LibraryOrder}
    (h : LibraryOrder.ofView ws v = .ok order) :
    IsConstructionOrder ws v order.instances := by
  obtain ⟨nodes, collected⟩ : ∃ nodes, reachable ws v = .ok nodes := by
    rw [LibraryOrder.ofView, bind_ok_iff] at h
    obtain ⟨nodes, collected, _⟩ := h
    exact ⟨nodes, collected⟩
  obtain ⟨targets, graph, sorts⟩ := ofView_eq collected
  rw [sorts, bind_ok_iff] at h
  obtain ⟨places, sorted, made⟩ := h
  cases made
  match result : sortNodes nodes.length targets with
  | .ok _ =>
      rw [result] at sorted
      cases sorted
      exact graph.isConstructionOrder (reachable_ok collected) result
  | .error _ =>
      rw [result] at sorted
      cases sorted

/-- There is no order only if a reference leads nowhere, or along a cycle, which is named. -/
theorem ofView_error {e : Error} (h : LibraryOrder.ofView ws v = .error e) :
    Dangling ws v e ∨ LinksResolve ws v ∧
      ∃ cycle, IsDependencyCycle ws v cycle ∧ e = .cyclicDependency (cycle.map Module.name) := by
  match collected : reachable ws v with
  | .error other =>
      rw [LibraryOrder.ofView, collected] at h
      cases h
      exact .inl (reachable_error collected)
  | .ok nodes =>
      have collection := reachable_ok collected
      obtain ⟨targets, graph, sorts⟩ := ofView_eq collected
      rw [sorts] at h
      match result : sortNodes nodes.length targets with
      | .ok _ =>
          rw [result] at h
          cases h
      | .error halt =>
          obtain ⟨places, rfl, cycle⟩ := sortNodes_error graph.inside result
          rw [result] at h
          cases h
          refine .inr ⟨collection.resolves, _, graph.isDependencyCycle collection cycle, ?_⟩
          rw [haltError, namesAt, List.map_filterMap]

/-- There is an order exactly if every reference leads somewhere and nothing depends on itself. -/
theorem exists_ofView_iff : (∃ order, LibraryOrder.ofView ws v = .ok order) ↔
    LinksResolve ws v ∧ ∀ a, ¬ Relation.TransGen (Dependency ws v) a a := by
  constructor
  · rintro ⟨order, h⟩
    refine ⟨?_, (isConstructionOrder_of_ok h).acyclic⟩
    rw [LibraryOrder.ofView, bind_ok_iff] at h
    obtain ⟨nodes, collected, _⟩ := h
    exact (reachable_ok collected).resolves
  · rintro ⟨resolves, acyclic⟩
    rw [exists_ok_iff]
    intro e h
    rcases ofView_error h with dangling | ⟨_, cycle, isCycle, _⟩
    · exact dangling.not_resolves resolves
    · obtain ⟨a, onCycle⟩ := isCycle.transGen
      exact acyclic a onCycle

end Library

namespace LibraryOrder

open Library

variable {ws : Workspace} {v : View}

/-- An order of construction lists exactly what the module reaches, each instance once and no two
with one GUID and version. Whatever an instance links or uses, itself or through others, is
constructed before it and destroyed after it. -/
theorem ofView_ordered {order : LibraryOrder} (h : ofView ws v = .ok order) :
    (∀ m, m ∈ order.instances ↔ Reaches ws v m) ∧
      order.instances.Nodup ∧
      (order.instances.Pairwise fun a b =>
        ¬ (a.identity.guid = b.identity.guid ∧ a.identity.version = b.identity.version)) ∧
      (∀ a ∈ order.instances, ∀ b ∈ order.instances, a ≠ b → Links ws v a b ∨ Uses v a b →
        Precedes order.instances b a ∧ Precedes order.destruction a b) ∧
      (∀ a b, Relation.TransGen (Dependency ws v) a b →
        Precedes order.instances b a ∧ Precedes order.destruction a b) := by
  have made := isConstructionOrder_of_ok h
  refine ⟨made.mem_iff, made.nodup, ?_, ?_, ?_⟩
  · apply made.nodup.imp_of_mem
    rintro a b ha hb different ⟨guid, version⟩
    have reachedA := (made.mem_iff a).1 ha
    have reachedB := (made.mem_iff b).1 hb
    exact different (reachedA.eq_of_version reachedB guid version)
  · intro a ha b hb different related
    have depends : DependsOn ws v a b := related.imp_right fun uses => ⟨different, uses⟩
    have first := made.ordered a b ⟨(made.mem_iff a).1 ha, (made.mem_iff b).1 hb, depends⟩
    exact ⟨first, first.reverse⟩
  · intro a b related
    have first := made.precedes related
    exact ⟨first, first.reverse⟩

/-- A library instance with a GUID of equal bytes, for small workspaces. -/
def sampleInstance (name : String) (byte : UInt8) (links : List UInt8) (uses : List ClassUse) :
    Module where
  identity := ⟨name, ⟨Vector.replicate 16 byte⟩, "1.0"⟩
  type := .base
  isLibrary := true
  libraryClasses := uses.map fun use => ⟨use, .every⟩
  libraryInstances := links.map fun byte => ⟨⟨⟨Vector.replicate 16 byte⟩, none⟩, .every⟩

/-- A module that links the instances with some GUIDs. -/
def sampleView (links : List UInt8) : View :=
  ⟨sampleInstance "Driver" 0 links [], .x64⟩

/-- Two instances that link a third one; the first also uses a class of the second. -/
def diamond : Workspace :=
  [sampleInstance "Debug" 1 [3] [⟨"Print", .consumed⟩],
    sampleInstance "Print" 2 [3] [⟨"Print", .produced⟩, ⟨"Print", .consumed⟩],
    sampleInstance "Base" 3 [] []].foldl Workspace.addModule .empty

theorem diamond_ordered : ∃ order, ofView diamond (sampleView [1, 2]) = .ok order ∧
    order.names = ["Base", "Print", "Debug"] ∧
    ∀ m, m ∈ order.instances ↔ Reaches diamond (sampleView [1, 2]) m :=
  ⟨_, rfl, rfl, (ofView_ordered rfl).1⟩

/-- When every reference leads somewhere, a cycle is reported exactly if there is one, and then the
names are those along it. A class that an instance both consumes and produces is harmless. -/
theorem ofView_cyclic_iff (resolves : LinksResolve ws v) :
    ((∃ names, ofView ws v = .error (.cyclicDependency names)) ↔
        ∃ a, Relation.TransGen (Dependency ws v) a a) ∧
      (∀ names, ofView ws v = .error (.cyclicDependency names) →
        ∃ cycle, IsDependencyCycle ws v cycle ∧ names = cycle.map Module.name ∧
          2 ≤ names.length) ∧
      ((∀ a b, Reaches ws v a → Reaches ws v b → Links ws v a b ∨ Uses v a b →
          a = b ∧ ¬ Links ws v a b) →
        ∃ order, ofView ws v = .ok order) := by
  have reported : ∀ e, ofView ws v = .error e →
      ∃ cycle, IsDependencyCycle ws v cycle ∧ e = .cyclicDependency (cycle.map Module.name) := by
    intro e h
    rcases ofView_error h with dangling | ⟨_, cycle⟩
    · exact absurd resolves dangling.not_resolves
    · exact cycle
  refine ⟨⟨?_, ?_⟩, ?_, ?_⟩
  · rintro ⟨names, h⟩
    obtain ⟨cycle, isCycle, _⟩ := reported _ h
    exact isCycle.transGen
  · rintro ⟨a, onCycle⟩
    match h : ofView ws v with
    | .ok order => exact absurd onCycle ((isConstructionOrder_of_ok h).acyclic a)
    | .error e =>
        obtain ⟨cycle, _, rfl⟩ := reported e h
        exact ⟨_, rfl⟩
  · intro names h
    obtain ⟨cycle, isCycle, same⟩ := reported _ h
    cases same
    refine ⟨cycle, isCycle, rfl, ?_⟩
    obtain ⟨first, inner, rfl, _⟩ := isCycle
    simp
  · intro harmless
    rw [exists_ofView_iff]
    refine ⟨resolves, ?_⟩
    intro a onCycle
    obtain ⟨b, ⟨reachedA, reachedB, depends⟩, _⟩ := Relation.TransGen.head'_iff.1 onCycle
    rcases depends with link | ⟨different, uses⟩
    · exact (harmless a b reachedA reachedB (.inl link)).2 link
    · exact different (harmless a b reachedA reachedB (.inr uses)).1

/-- An instance on no cycle that links the first of two which link each other. -/
def loop : Workspace :=
  [sampleInstance "Start" 1 [2] [], sampleInstance "Ping" 2 [3] [],
    sampleInstance "Pong" 3 [2] []].foldl Workspace.addModule .empty

theorem loop_cyclic :
    ofView loop (sampleView [1]) = .error (.cyclicDependency ["Ping", "Pong", "Ping"]) ∧
      ∃ a, Relation.TransGen (Dependency loop (sampleView [1])) a a := by
  refine ⟨rfl, ?_⟩
  have resolves : LinksResolve loop (sampleView [1]) := exists_reachable_iff.1 ⟨_, rfl⟩
  exact (ofView_cyclic_iff resolves).1.1 ⟨_, rfl⟩

end LibraryOrder

end FirmwareGlue
