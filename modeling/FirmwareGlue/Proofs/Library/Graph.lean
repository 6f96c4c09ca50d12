import FirmwareGlue.Proofs.Library.Reach
import FirmwareGlue.Proofs.Library.Walk
import Mathlib.Data.List.GetD

/-!
# Dependencies by places

The dependencies among the collected instances are noted as numbers: for each place in the
collection, the places of what the instance there depends on. The numbers say neither more nor less
than the dependencies themselves, so a cycle of places is a cycle of instances.
-/

namespace FirmwareGlue.Library

variable {ws : Workspace} {v : View} {nodes : List Module} {a b m : Module}

/-- The instances along a cycle of dependencies; the first one stands again at the end. -/
def IsDependencyCycle (ws : Workspace) (v : View) (cycle : List Module) : Prop :=
  ∃ first inner, cycle = first :: inner ++ [first] ∧ (first :: inner).Nodup ∧
    cycle.IsChain (Dependency ws v)

/-- Numbers stand for the dependencies among some instances: a target of a place is the place of
something that the instance there depends on. -/
def IsGraph (ws : Workspace) (v : View) (nodes : List Module) (targets : Nat → List Nat) : Prop :=
  ∀ i j, j ∈ targets i ↔
    ∃ a b, nodes[i]? = some a ∧ nodes[j]? = some b ∧ DependsOn ws v a b

theorem IsCollection.reaches_of_getElem? (collection : IsCollection ws v nodes) {i : Nat}
    (h : nodes[i]? = some m) : Reaches ws v m :=
  (collection.mem_iff m).1 (List.mem_of_getElem? h)

/-- Different places are those of different instances. -/
theorem IsCollection.nodup_filterMap (collection : IsCollection ws v nodes) {places : List Nat}
    (nodup : places.Nodup) : (places.filterMap fun i => nodes[i]?).Nodup := by
  apply nodup.filterMap
  intro i j m hi hj
  have bound : i < nodes.length := (List.getElem?_eq_some_iff.1 hi).1
  exact (List.getElem?_inj bound collection.nodup).1 (hi.trans hj.symm)

/-- An instance is found among the collected ones at the place where it stands. -/
theorem IsCollection.findIdx?_eq (collection : IsCollection ws v nodes) {i : Nat}
    (h : nodes[i]? = some m) :
    nodes.findIdx? (fun other => other.identity = m.identity) = some i := by
  obtain ⟨bound, rfl⟩ := List.getElem?_eq_some_iff.1 h
  rw [List.findIdx?_eq_some_iff_getElem]
  refine ⟨bound, by simp, ?_⟩
  intro j hji same
  have reached := (collection.mem_iff _).1 (List.getElem_mem (Nat.lt_trans hji bound))
  have equal := reached.eq_of_identity (collection.reaches_of_getElem? h) (of_decide_eq_true same)
  exact absurd ((collection.nodup.getElem_inj_iff).1 equal) (by omega)

/-- A reference of a collected instance is to one that is collected, and found at its place. -/
theorem IsCollection.exists_placeOf (collection : IsCollection ws v nodes) (member : a ∈ nodes)
    {r : Reference} (listed : r ∈ (v.scopedTo a).libraryInstances) :
    ∃ place b, ws.module? r = some b ∧ placeOf ws nodes r = .ok place ∧
      nodes[place]? = some b := by
  have reached := (collection.mem_iff a).1 member
  obtain ⟨b, found⟩ := collection.resolves _ (.reached reached) r listed
  have target := (collection.mem_iff b).2 (.step reached ⟨r, listed, found⟩)
  obtain ⟨place, there⟩ := List.mem_iff_getElem?.1 target
  refine ⟨place, b, found, ?_, there⟩
  simp [placeOf, found, bind, Option.bind, collection.findIdx?_eq there]

theorem IsCollection.placeOf_ok_iff (collection : IsCollection ws v nodes) (member : a ∈ nodes)
    {r : Reference} (listed : r ∈ (v.scopedTo a).libraryInstances) {j : Nat} :
    placeOf ws nodes r = .ok j ↔ ∃ b, nodes[j]? = some b ∧ ws.module? r = some b := by
  obtain ⟨i, b, found, place, hi⟩ := collection.exists_placeOf member listed
  rw [place, found]
  constructor
  · intro h
    cases h
    exact ⟨b, hi, rfl⟩
  · rintro ⟨c, hj, same⟩
    cases same
    have bound := (List.getElem?_eq_some_iff.1 hi).1
    rw [(List.getElem?_inj bound collection.nodup).1 (hi.trans hj.symm)]

theorem mem_producers_iff {className : String} {j : Nat} :
    j ∈ producers v nodes className ↔
      ∃ b, nodes[j]? = some b ∧ className ∈ (v.scopedTo b).libraryClasses .produced := by
  simp only [producers, List.mem_flatMap, List.mem_map, List.mem_filter, decide_eq_true_eq,
    Prod.exists, List.mk_mem_zipIdx_iff_getElem?]
  constructor
  · rintro ⟨b, _, there, name, ⟨produced, rfl⟩, rfl⟩
    exact ⟨b, there, produced⟩
  · rintro ⟨b, there, produced⟩
    exact ⟨b, j, there, className, ⟨produced, rfl⟩, rfl⟩

/-- The targets of a place are the places of what the instance there depends on. -/
theorem IsCollection.targetsOf_ok (collection : IsCollection ws v nodes) {i : Nat}
    (here : nodes[i]? = some a) :
    ∃ targets, targetsOf ws v nodes i a = .ok targets ∧
      ∀ j, j ∈ targets ↔ ∃ b, nodes[j]? = some b ∧ DependsOn ws v a b := by
  have member := List.mem_of_getElem? here
  have bound := (List.getElem?_eq_some_iff.1 here).1
  have placed : ∀ r ∈ (v.scopedTo a).libraryInstances, ∃ j, placeOf ws nodes r = .ok j := by
    intro r listed
    obtain ⟨j, _, _, place, _⟩ := collection.exists_placeOf member listed
    exact ⟨j, place⟩
  obtain ⟨linked, hlinked⟩ := exists_mapM_ok_iff.2 placed
  refine ⟨_, by rw [targetsOf, hlinked]; rfl, ?_⟩
  intro j
  -- A class dependency is one on another place, and so on another instance.
  have apart : ∀ b, nodes[j]? = some b → (j ≠ i ↔ a ≠ b) := by
    intro b there
    rw [not_iff_not]
    constructor
    · rintro rfl
      exact Option.some.inj (here.symm.trans there)
    · rintro rfl
      exact ((List.getElem?_inj bound collection.nodup).1 (here.trans there.symm)).symm
  have links : j ∈ linked ↔ ∃ b, nodes[j]? = some b ∧ Links ws v a b := by
    rw [mem_results_iff hlinked]
    constructor
    · rintro ⟨r, listed, place⟩
      obtain ⟨b, there, found⟩ := (collection.placeOf_ok_iff member listed).1 place
      exact ⟨b, there, r, listed, found⟩
    · rintro ⟨b, there, r, listed, found⟩
      exact ⟨r, listed, (collection.placeOf_ok_iff member listed).2 ⟨b, there, found⟩⟩
  simp only [FirstSeen.mem_ofList, List.mem_append, List.mem_filter, List.mem_flatMap,
    mem_producers_iff, links, decide_eq_true_eq]
  constructor
  · rintro (⟨b, there, link⟩ | ⟨⟨name, consumed, b, there, produced⟩, other⟩)
    · exact ⟨b, there, .inl link⟩
    · exact ⟨b, there, .inr ⟨(apart b there).1 other, name, consumed, produced⟩⟩
  · rintro ⟨b, there, link | ⟨other, name, consumed, produced⟩⟩
    · exact .inl ⟨b, there, link⟩
    · exact .inr ⟨⟨name, consumed, b, there, produced⟩, (apart b there).2 other⟩

/-- The dependencies among collected instances are all noted. -/
theorem IsCollection.dependencies_ok (collection : IsCollection ws v nodes) :
    ∃ rows, dependencies ws v nodes = .ok rows ∧
      IsGraph ws v nodes (fun i => rows.getD i []) := by
  have each : ∀ entry ∈ nodes.zipIdx, ∃ row, targetsOf ws v nodes entry.2 entry.1 = .ok row := by
    intro entry member
    obtain ⟨row, h, _⟩ := collection.targetsOf_ok (List.mem_zipIdx_iff_getElem?.1 member)
    exact ⟨row, h⟩
  obtain ⟨rows, hrows⟩ := exists_mapM_ok_iff.2 each
  refine ⟨rows, hrows, ?_⟩
  obtain ⟨size, pointwise⟩ := List.forall₂_iff_get.1 (mapM_ok_iff.1 hrows)
  rw [List.length_zipIdx] at size
  intro i j
  beta_reduce
  by_cases bound : i < nodes.length
  · have here : nodes[i]? = some nodes[i] := List.getElem?_eq_getElem bound
    have row := pointwise i (by simpa using bound) (size ▸ bound)
    simp only [List.get_eq_getElem, List.getElem_zipIdx, Nat.zero_add] at row
    obtain ⟨targets, h, spec⟩ := collection.targetsOf_ok here
    rw [h] at row
    rw [List.getD_eq_getElem _ _ (size ▸ bound), ← Except.ok.inj row, spec j]
    simp [here]
  · rw [List.getD_eq_default _ _ (by omega)]
    simp [List.getElem?_eq_none (Nat.le_of_not_lt bound)]

theorem IsGraph.inside {targets : Nat → List Nat} (graph : IsGraph ws v nodes targets) :
    ∀ i < nodes.length, ∀ j ∈ targets i, j < nodes.length := by
  intro i _ j target
  obtain ⟨_, _, _, there, _⟩ := (graph i j).1 target
  exact (List.getElem?_eq_some_iff.1 there).1

/-- A target of a place is a dependency of the instance there. -/
theorem IsGraph.dependency {targets : Nat → List Nat} (graph : IsGraph ws v nodes targets)
    (collection : IsCollection ws v nodes) {i j : Nat} (target : j ∈ targets i) :
    ∃ a b, nodes[i]? = some a ∧ nodes[j]? = some b ∧ Dependency ws v a b := by
  obtain ⟨a, b, here, there, depends⟩ := (graph i j).1 target
  exact ⟨a, b, here, there, collection.reaches_of_getElem? here,
    collection.reaches_of_getElem? there, depends⟩

theorem isChain_filterMap {α β : Type} {R : α → α → Prop} {S : β → β → Prop} {f : α → Option β}
    {l : List α} (chain : l.IsChain R)
    (mapped : ∀ x y, R x y → ∃ a b, f x = some a ∧ f y = some b ∧ S a b) :
    (l.filterMap f).IsChain S := by
  induction chain with
  | nil => exact .nil
  | singleton x =>
      cases h : f x with
      | none => simp [h]
      | some a => simp [h]
  | cons_cons first _ ih =>
      obtain ⟨a, b, hx, hy, related⟩ := mapped _ _ first
      rw [List.filterMap_cons_some hy] at ih
      rw [List.filterMap_cons_some hx, List.filterMap_cons_some hy]
      exact .cons_cons related ih

/-- A cycle of places is one of instances. -/
theorem IsGraph.isDependencyCycle {targets : Nat → List Nat} {places : List Nat}
    (graph : IsGraph ws v nodes targets) (collection : IsCollection ws v nodes)
    (cycle : IsCycle targets nodes.length places) :
    IsDependencyCycle ws v (places.filterMap fun i => nodes[i]?) := by
  obtain ⟨first, inner, rfl, nodup, inside, chain⟩ := cycle
  have bound : first < nodes.length := inside first (by simp)
  have start : nodes[first]? = some nodes[first] := List.getElem?_eq_getElem bound
  refine ⟨nodes[first], inner.filterMap fun i => nodes[i]?, ?_, ?_, ?_⟩
  · simp [start]
  · rw [← List.filterMap_cons_some start]
    exact collection.nodup_filterMap nodup
  · exact isChain_filterMap chain fun i j target => graph.dependency collection target

end FirmwareGlue.Library
