import FirmwareGlue.Proofs.Library.Breadth
import FirmwareGlue.Proofs.Library.Continuation

/-!
# When the order of construction is the order of meeting

The walk enters the places of the collection in turn. As long as everything that a place depends on
stands in front of it, the walk has left all of that, so it leaves the place at once. Hence a
collection in which whatever is depended on stands first is its own order of construction.

This makes ordering idempotent. When a module lists the instances of its order themselves, and in
this order, all of them are direct: they are collected as listed, nothing is met behind them, and
the dependencies among them are as before. The instances are the same ones, although their places,
and with them the numbers that the walk sees, are different.
-/

namespace FirmwareGlue

namespace Library

variable {ws : Workspace} {v : View} {nodes : List Module} {targets : Nat → List Nat}
  {count place allowance : Nat} {w : Walk}

namespace Walk

/-- The nodes in front of a place have been left in their order, and no other has been met. -/
structure Straight (count place : Nat) (w : Walk) : Prop where
  size : w.marks.length = count
  mark : ∀ n, w.mark n = if n < place then .left else .fresh
  emitted : w.emitted = List.range place

theorem straight_start (count : Nat) : Straight count 0 (start count) where
  size := by simp [start]
  mark := by simp
  emitted := rfl

theorem visitFresh_of_left {visit : Nat → Walk → Except Halt Walk} {nodes : List Nat}
    (left : ∀ n ∈ nodes, w.mark n = .left) : visitFresh visit nodes w = .ok w := by
  induction nodes with
  | nil => rfl
  | cons n rest ih =>
      rw [List.forall_mem_cons] at left
      rw [visitFresh_cons_of_left left.1, ih left.2]

theorem visitFresh_append (visit : Nat → Walk → Except Halt Walk) (first second : List Nat)
    (w : Walk) : visitFresh visit (first ++ second) w =
      visitFresh visit first w >>= visitFresh visit second :=
  List.foldlM_append

namespace Straight

/-- A node whose targets have been left is left as soon as it is entered. -/
theorem visit_eq (straight : Straight count place w) (inside : place < count)
    (earlier : ∀ t ∈ targets place, t < place) :
    visit targets (allowance + 1) place w = .ok ((w.enter place).leave place) := by
  have left : ∀ t ∈ targets place, (w.enter place).mark t = .left := by
    intro t target
    have before := earlier t target
    rw [mark_enter (straight.size ▸ inside), if_neg (Nat.ne_of_lt before), straight.mark,
      if_pos before]
  rw [visit, visitFresh_of_left left, ok_bind]

theorem next (straight : Straight count place w) (inside : place < count) :
    Straight count (place + 1) ((w.enter place).leave place) where
  size := by simp [enter, leave, straight.size]
  mark n := by
    have bound : place < w.marks.length := straight.size ▸ inside
    have still : place < (w.enter place).marks.length := by simpa [enter] using bound
    rw [mark_leave still, mark_enter bound, straight.mark]
    by_cases here : n = place
    · simp [here]
    · rw [if_neg here, if_neg here]
      exact if_congr (by omega) rfl rfl
  emitted := by simp [enter, leave, straight.emitted, List.range_succ]

end Straight

/-- Where all targets of a node stand in front of it, the walk goes straight on. -/
theorem visitFresh_range (earlier : ∀ n < count, ∀ t ∈ targets n, t < n)
    (inside : place ≤ count) :
    ∃ u, visitFresh (visit targets count) (List.range place) (start count) = .ok u ∧
      Straight count place u := by
  induction place with
  | zero => exact ⟨_, rfl, straight_start count⟩
  | succ place ih =>
      obtain ⟨u, walked, straight⟩ := ih (Nat.le_of_succ_le inside)
      -- No node is entered from inside another one, so the allowance only has to be there.
      obtain ⟨allowance, rfl⟩ := Nat.exists_eq_add_of_lt (Nat.zero_lt_of_lt inside)
      have fresh : u.mark place = .fresh := by rw [straight.mark, if_neg (Nat.lt_irrefl _)]
      refine ⟨_, ?_, straight.next inside⟩
      rw [List.range_succ, visitFresh_append, walked, ok_bind, visitFresh_cons_of_fresh fresh,
        Nat.zero_add, straight.visit_eq (by omega) (earlier place inside)]
      rfl

end Walk

theorem sortNodes_of_earlier (earlier : ∀ n < count, ∀ t ∈ targets n, t < n) :
    sortNodes count targets = .ok (List.range count) := by
  obtain ⟨u, walked, straight⟩ := Walk.visitFresh_range earlier (Nat.le_refl count)
  rw [sortNodes, walked, ok_bind, straight.emitted]

theorem filterMap_getElem?_range {α : Type} (l : List α) :
    ((List.range l.length).filterMap fun i => l[i]?) = l := by
  induction l using List.reverseRecOn with
  | nil => rfl
  | append_singleton l last ih =>
      have front : ((List.range l.length).filterMap fun i => (l ++ [last])[i]?) =
          (List.range l.length).filterMap fun i => l[i]? :=
        List.filterMap_congr fun i inside => List.getElem?_append_left (List.mem_range.1 inside)
      rw [List.length_append, List.length_singleton, List.range_succ, List.filterMap_append, front,
        ih]
      simp

/-- A collection in which whatever is depended on stands first is the order of construction. -/
theorem ofView_of_ordered (h : reachable ws v = .ok nodes)
    (ordered : ∀ a b, Dependency ws v a b → Precedes nodes b a) :
    LibraryOrder.ofView ws v = .ok ⟨nodes⟩ := by
  have collection := reachable_ok h
  obtain ⟨targets, graph, sorts⟩ := ofView_eq h
  have earlier : ∀ i < nodes.length, ∀ j ∈ targets i, j < i := by
    intro i inside j target
    obtain ⟨a, b, here, there, depends⟩ := graph.dependency collection target
    obtain ⟨k, l, less, hb, ha⟩ := ordered a b depends
    have boundK : k < nodes.length := (List.getElem?_eq_some_iff.1 hb).1
    have sameB : k = j := (List.getElem?_inj boundK collection.nodup).1 (hb.trans there.symm)
    have sameA : i = l := (List.getElem?_inj inside collection.nodup).1 (here.trans ha.symm)
    omega
  rw [sorts, sortNodes_of_earlier earlier]
  exact congrArg (fun instances => Except.ok (LibraryOrder.mk instances))
    (filterMap_getElem?_range nodes)

end Library

/-- The view of a module that lists some instances, in this order and for every architecture. -/
def View.relinked (v : View) (instances : List Module) : View :=
  let listed := instances.map fun m => ⟨m.identity.reference, .every⟩
  ⟨{ v.subject with libraryInstances := listed }, v.arch⟩

theorem Scoped.onArch_map_every {α β : Type} (arch : Arch) (f : β → α) (list : List β) :
    onArch arch (list.map fun b => ⟨f b, .every⟩) = list.map f := by
  simp [onArch, List.filter_map, Function.comp_def]

@[simp] theorem View.libraryInstances_relinked (v : View) (instances : List Module) :
    (v.relinked instances).libraryInstances = instances.map fun m => m.identity.reference :=
  Scoped.onArch_map_every v.arch _ instances

namespace Library

variable {ws : Workspace} {v : View} {instances : List Module} {m : Module}

namespace IsConstructionOrder

/-- A module that lists the instances of an order links just these. -/
theorem linkedBy_relinked (order : IsConstructionOrder ws v instances) :
    linkedBy ws (v.relinked instances) = instances := by
  have found : ∀ m ∈ instances, ws.module? m.identity.reference = some m :=
    fun m member => ((order.mem_iff m).1 member).found
  rw [linkedBy, View.libraryInstances_relinked, List.filterMap_map]
  exact (List.filterMap_congr found).trans List.filterMap_some

theorem reaches_relinked_iff (order : IsConstructionOrder ws v instances) :
    Reaches ws (v.relinked instances) m ↔ Reaches ws v m := by
  constructor
  · intro h
    induction h with
    | direct listed found =>
        have linked : _ ∈ linkedBy ws (v.relinked instances) :=
          List.mem_filterMap.2 ⟨_, listed, found⟩
        rw [order.linkedBy_relinked] at linked
        exact (order.mem_iff _).1 linked
    | step _ linked ih => exact .step ih linked
  · intro h
    have member := (order.mem_iff m).2 h
    rw [← order.linkedBy_relinked] at member
    exact reaches_of_linkedBy .itself member

/-- An order of construction is one for the module that lists it, too. -/
theorem relinked (order : IsConstructionOrder ws v instances) :
    IsConstructionOrder ws (v.relinked instances) instances where
  nodup := order.nodup
  mem_iff m := (order.mem_iff m).trans order.reaches_relinked_iff.symm
  ordered a b depends :=
    order.ordered a b ⟨order.reaches_relinked_iff.1 depends.1,
      order.reaches_relinked_iff.1 depends.2.1, depends.2.2⟩

theorem linksResolve_relinked (order : IsConstructionOrder ws v instances)
    (resolves : LinksResolve ws v) : LinksResolve ws (v.relinked instances) := by
  intro owner own r listed
  cases own with
  | itself =>
      rw [View.libraryInstances_relinked] at listed
      obtain ⟨m, member, rfl⟩ := List.mem_map.1 listed
      exact ⟨m, ((order.mem_iff m).1 member).found⟩
  | reached reached =>
      exact resolves _ (.reached (order.reaches_relinked_iff.1 reached)) r listed

/-- Behind the instances of an order nothing is met. -/
theorem reachable_relinked (order : IsConstructionOrder ws v instances)
    (resolves : LinksResolve ws v) : reachable ws (v.relinked instances) = .ok instances := by
  obtain ⟨nodes, collected⟩ := exists_reachable_iff.2 (order.linksResolve_relinked resolves)
  have breadth := isBreadthFirst_of_reachable collected
  have behind : ∀ m ∈ nodes.flatMap (fun m => linkedBy ws (v.scopedTo m)), m ∈ instances := by
    intro m member
    obtain ⟨a, collectedA, linked⟩ := List.mem_flatMap.1 member
    have reached := order.reaches_relinked_iff.1 ((breadth.mem_iff a).1 collectedA)
    exact (order.mem_iff m).2 (.step reached (links_iff.2 linked))
  have firsts := breadth.firsts
  rw [← FirstSeen.ofList_eq_firstsBy, order.linkedBy_relinked, FirstSeen.ofList_append,
    FirstSeen.ofList_of_nodup order.nodup] at firsts
  rw [collected, firsts]
  exact congrArg Except.ok (FirstSeen.addAll_of_subset behind)

end IsConstructionOrder

/-- A module that reaches itself depends on itself. -/
theorem Reaches.transGen_subject (itself : Reaches ws v v.subject) (h : Reaches ws v m) :
    Relation.TransGen (Dependency ws v) v.subject m := by
  induction h with
  | direct listed found =>
      exact .single ⟨itself, .direct listed found, .inl ⟨_, listed, found⟩⟩
  | step reached linked ih => exact .tail ih ⟨reached, .step reached linked, .inl linked⟩

theorem IsConstructionOrder.not_reaches_subject (order : IsConstructionOrder ws v instances) :
    ¬ Reaches ws v v.subject := by
  intro itself
  exact order.acyclic _ (itself.transGen_subject itself)

end Library

open Library

namespace Workspace

variable {ws : Workspace} {v : View} {instances : List Module}

/-- The workspace in which the module lists some instances, wherever it is registered. -/
def relinked (ws : Workspace) (v : View) (instances : List Module) : Workspace :=
  ws.modules.toList.foldl
    (fun made m => made.addModule (if m = v.subject then (v.relinked instances).subject else m))
    { packages := ws.packages }

/-- A module is found where it was found before, with its new list. -/
theorem module?_relinked (ws : Workspace) (v : View) (instances : List Module) (r : Reference) :
    (ws.relinked v instances).module? r = (ws.module? r).map fun m =>
      if m = v.subject then (v.relinked instances).subject else m := by
  have modules : (ws.relinked v instances).modules.toList = _ := (foldl_addModule _ _ _).2
  have same : ∀ m : Module, (Identified.identity
      (if m = v.subject then (v.relinked instances).subject else m)).answers r =
        (Identified.identity m).answers r := by
    intro m
    split
    next here => rw [here]; rfl
    next => rfl
  rw [module?, module?, Catalog.find?_eq, Catalog.find?_eq, modules]
  simp only [Catalog.toList, Catalog.empty, List.nil_append, List.find?_map, Function.comp_def,
    same]

/-- The module is not among the instances of its order, so what they are found by is not changed. -/
theorem continues_relinked (order : IsConstructionOrder ws v instances) :
    ws.Continues (fun _ => False) (ws.relinked v instances) (v.relinked instances) where
  modules owner own r listed := by
    rw [Reach.instanceOf, Reach.instanceOf, module?_relinked]
    cases found : ws.module? r with
    | none => exact .refl _ _
    | some m =>
        have reached : Reaches ws v m := order.reaches_relinked_iff.1 (.of_owner own listed found)
        have other : m ≠ v.subject := by
          rintro rfl
          exact order.not_reaches_subject reached
        rw [Option.map_some, if_neg other]
        exact .refl _ _
  packages owner _ r _ := by
    have packages : (ws.relinked v instances).packages = ws.packages := (foldl_addModule _ _ _).1
    rw [requirePackage, requirePackage, package?, package?, packages]
    exact .refl _ _

end Workspace

namespace LibraryOrder

variable {ws : Workspace} {v : View} {order : LibraryOrder}

/-- The order of construction is the order of meeting exactly if in that one whatever is depended on
stands first. A module that lists the instances of its order themselves has the same order again, no
matter whether its registered copies list them too. -/
theorem ofView_stable (h : ofView ws v = .ok order) :
    (∃ nodes, reachable ws v = .ok nodes ∧ IsBreadthFirst ws v nodes) ∧
      (∀ nodes, IsBreadthFirst ws v nodes → (order.instances = nodes ↔
        ∀ a b, Dependency ws v a b → Precedes nodes b a)) ∧
      ofView ws (v.relinked order.instances) = .ok order ∧
      ofView (ws.relinked v order.instances) (v.relinked order.instances) = .ok order := by
  have made := isConstructionOrder_of_ok h
  have resolves : LinksResolve ws v := (exists_ofView_iff.1 ⟨_, h⟩).1
  obtain ⟨met, collected⟩ := exists_reachable_iff.2 resolves
  have breadth := isBreadthFirst_of_reachable collected
  have again : ofView ws (v.relinked order.instances) = .ok order :=
    ofView_of_ordered (made.reachable_relinked resolves) made.relinked.ordered
  refine ⟨⟨met, collected, breadth⟩, ?_, again, ?_⟩
  · intro nodes meeting
    obtain rfl := breadth.eq meeting
    constructor
    · rintro rfl
      exact made.ordered
    · intro ordered
      rw [ofView_of_ordered collected ordered] at h
      cases h
      rfl
  · have persists := (Workspace.continues_relinked made).libraryOrder
    rw [again] at persists
    exact persists.ok

/-- The instances of the diamond are met in another order than they are constructed in, until they
are listed in the latter. -/
theorem diamond_stable : ∃ order, ofView diamond (sampleView [1, 2]) = .ok order ∧
    order.names = ["Base", "Print", "Debug"] ∧
    (∃ nodes, reachable diamond (sampleView [1, 2]) = .ok nodes ∧
      nodes.map Module.name = ["Debug", "Print", "Base"]) ∧
    ofView diamond ((sampleView [1, 2]).relinked order.instances) = .ok order :=
  ⟨_, rfl, rfl, ⟨_, rfl, rfl⟩, (ofView_stable rfl).2.2.1⟩

end LibraryOrder

end FirmwareGlue
