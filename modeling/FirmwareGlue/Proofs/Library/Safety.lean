import FirmwareGlue.Proofs.Library.Order
import FirmwareGlue.Proofs.Library.Trace

/-!
# Nothing is out of place in an order

Dependencies are noted in a pass of their own, which looks up every reference again and could find
no instance for it; and a walk looks up marks, targets and places on its path, which could be
missing. None of this happens. Collecting instances goes on until the references of all of them have
been followed, so each reference is to an instance that is there. The targets noted are places of
instances, each noted once. At every look of the walk the path is made of the nodes that are entered
and not left, so a cycle is found to begin where its node stands on the path; and what is left has
been emitted after its targets.
-/

namespace FirmwareGlue.Library

variable {ws : Workspace} {v : View} {nodes : List Module} {m : Module} {rows : List (List Nat)}

/-- Rows of places note the dependencies of some instances, and only places of these. -/
structure RowsFit (ws : Workspace) (v : View) (nodes : List Module) (rows : List (List Nat)) :
    Prop where
  /-- Every reference of every instance is to an instance that is there. -/
  resolves : ∀ m ∈ nodes, ∀ r ∈ (v.scopedTo m).libraryInstances, ∃ place target,
    ws.module? r = some target ∧ placeOf ws nodes r = .ok place ∧ nodes[place]? = some target
  size : rows.length = nodes.length
  within : ∀ row ∈ rows, ∀ place ∈ row, place < nodes.length
  nodup : ∀ row ∈ rows, row.Nodup

theorem nodup_of_targetsOf {place : Nat} {row : List Nat}
    (h : targetsOf ws v nodes place m = .ok row) : row.Nodup := by
  obtain ⟨linked, _, made⟩ := bind_ok_iff.1 h
  cases made
  exact FirstSeen.nodup_addAll .nil _

theorem IsCollection.rowsFit (collection : IsCollection ws v nodes)
    (made : dependencies ws v nodes = .ok rows) : RowsFit ws v nodes rows where
  resolves := fun _ member _ listed => collection.exists_placeOf member listed
  size := by
    have size := (mapM_ok_iff.1 made).length_eq
    rw [List.length_zipIdx] at size
    exact size.symm
  within := by
    intro row member place noted
    obtain ⟨entry, listed, targets⟩ := (mem_results_iff made).1 member
    obtain ⟨same, h, spec⟩ := collection.targetsOf_ok (List.mem_zipIdx_iff_getElem?.1 listed)
    obtain rfl : same = row := Except.ok.inj (h.symm.trans targets)
    obtain ⟨b, there, _⟩ := (spec place).1 noted
    exact (List.getElem?_eq_some_iff.1 there).1
  nodup := by
    intro row member
    obtain ⟨entry, _, targets⟩ := (mem_results_iff made).1 member
    exact nodup_of_targetsOf targets

variable {targets : Nat → List Nat} {count allowance : Nat} {look : Look}

/-- What a walk may rely on when it looks at a node. -/
structure Look.Safe (targets : Nat → List Nat) (count : Nat) (look : Look) : Prop where
  /-- There is a mark for each node, and what is looked at is a node; so are the nodes on the path,
  the emitted ones, and the targets that are looked at next. -/
  size : look.walk.marks.length = count
  bound : look.node < count
  within : ∀ n ∈ look.walk.path ++ look.walk.emitted ++ targets look.node, n < count
  /-- The path is made of the visits under way, one inside of the other, -/
  path : look.walk.path = look.inside
  linked : (look.node :: look.walk.path).IsChain fun a b => a ∈ targets b
  /-- and these are the nodes that are entered and not left, each once. -/
  nodup : look.walk.path.Nodup
  entered_iff : ∀ n, look.walk.mark n = .entered ↔ n ∈ look.walk.path
  /-- What is left has been emitted, after its targets, which are left as well. -/
  left_iff : ∀ n, look.walk.mark n = .left ↔ n ∈ look.walk.emitted
  settled : ∀ n, look.walk.mark n = .left → ∀ t ∈ targets n,
    look.walk.mark t = .left ∧ Precedes look.walk.emitted t n
  /-- An entered node stands somewhere on the path, and the cycle is the path from there on. -/
  closes : look.mark = .entered → ∃ place < look.walk.path.length,
    look.walk.path.reverse.idxOf? look.node = some place ∧
      look.walk.cycleTo look.node = look.walk.path.reverse.drop place ++ [look.node]

theorem Look.Orderly.safe (h : look.Orderly targets count)
    (within : ∀ n < count, ∀ t ∈ targets n, t < count) : look.Safe targets count where
  size := h.sound.size
  bound := h.bound
  within := by
    intro n member
    simp only [List.mem_append] at member
    rcases member with (onPath | emitted) | target
    · exact h.sound.lt_of_path onPath
    · exact h.sound.lt_of_emitted emitted
    · exact within look.node h.bound n target
  path := h.path
  linked := List.isChain_cons.2 ⟨h.path ▸ h.target, h.sound.linked⟩
  nodup := h.sound.path_nodup
  entered_iff := h.sound.entered_iff
  left_iff := h.sound.left_iff
  settled := by
    intro n left t target
    have before := h.sound.ordered.precedes ((h.sound.left_iff n).1 left) target
    exact ⟨(h.sound.left_iff t).2 before.mem_left, before⟩
  closes := by
    intro entered
    obtain ⟨place, found, cycle⟩ := h.exists_place entered
    refine ⟨place, ?_, found, cycle⟩
    have inRange := (List.idxOf?_eq_some_iff.1 found).1
    rwa [List.length_reverse] at inRange

/-- The walk that sorts the nodes below `count` keeps to these. -/
structure WalkFits (count : Nat) (targets : Nat → List Nat) : Prop where
  /-- Every look is safe: those at starts and at targets, whether the node is visited or not. -/
  looks : ∀ allowance ≥ count, ∀ look ∈ sortLooks allowance count targets,
    look.Safe targets count
  sorted : ∀ places, sortNodes count targets = .ok places → ∀ place ∈ places, place < count
  /-- A walk stops only at an entered node, and what it reports is the path from there on. -/
  stopped : ∀ halt, sortNodes count targets = .error halt →
    ∃ look ∈ sortLooks count count targets, look.mark = .entered ∧
      halt = .cycle (look.walk.cycleTo look.node) ∧
      ∀ place ∈ look.walk.cycleTo look.node, place < count

theorem walkFits (within : ∀ n < count, ∀ t ∈ targets n, t < count) : WalkFits count targets where
  looks := fun _ enough look member =>
    ((sortLooks_watched within enough).orderly look member).safe within
  sorted := fun _ h place => ((sortNodes_ok within h).2.1 place).1
  stopped := by
    intro halt stops
    obtain ⟨look, member, entered, same⟩ := (sortNodes_error_iff within).1 stops
    refine ⟨look, member, entered, same, ?_⟩
    obtain ⟨places, reported, cycle⟩ := sortNodes_error within stops
    obtain rfl : look.walk.cycleTo look.node = places := Halt.cycle.inj (same.symm.trans reported)
    obtain ⟨_, _, _, _, inRange, _⟩ := cycle
    exact inRange

end FirmwareGlue.Library

namespace FirmwareGlue.LibraryOrder

open Library

variable {ws : Workspace} {v : View} {nodes : List Module}

/-- Once the instances of a module are collected, noting their dependencies does not fail, and the
walk through these finds everything it looks up. -/
theorem ofView_safe (collected : reachable ws v = .ok nodes) :
    ∃ rows, dependencies ws v nodes = .ok rows ∧ RowsFit ws v nodes rows ∧
      WalkFits nodes.length fun place => rows.getD place [] := by
  have collection := reachable_ok collected
  obtain ⟨rows, made, graph⟩ := collection.dependencies_ok
  exact ⟨rows, made, collection.rowsFit made, walkFits graph.inside⟩

/-- Also where links go round in circles. -/
theorem loop_safe : ∃ nodes rows, reachable loop (sampleView [1]) = .ok nodes ∧
    nodes.map Module.name = ["Start", "Ping", "Pong"] ∧
    dependencies loop (sampleView [1]) nodes = .ok rows ∧ rows = [[1], [2], [1]] ∧
    RowsFit loop (sampleView [1]) nodes rows ∧
    WalkFits nodes.length fun place => rows.getD place [] := by
  obtain ⟨nodes, collected⟩ : ∃ nodes, reachable loop (sampleView [1]) = .ok nodes := ⟨_, rfl⟩
  obtain ⟨rows, made, fits⟩ := ofView_safe collected
  cases collected
  exact ⟨_, rows, rfl, rfl, made, (Except.ok.inj made).symm, fits⟩

end FirmwareGlue.LibraryOrder
