import FirmwareGlue.Proofs.FirstPlaces
import FirmwareGlue.Proofs.Library.Reach

/-!
# The order in which library instances are met

Instances are collected breadth first: the module's own references are followed in order, and then
those of each collected instance in turn. So the collection is the list of all instances that are
linked, first by the module and then by the collected instances in their order, each at its first
place. The collection stands on both sides of this equation, and what carries it through the rounds
is that it holds of the expanded instances at any time.
-/

namespace FirmwareGlue.Library

open FirstSeen (addAll ofList)

variable {ws : Workspace} {v owner : View} {a b m : Module} {nodes linked : List Module}

def linkedBy (ws : Workspace) (owner : View) : List Module :=
  owner.libraryInstances.filterMap ws.module?

theorem links_iff : Links ws v a b ↔ b ∈ linkedBy ws (v.scopedTo a) :=
  List.mem_filterMap.symm

theorem reaches_of_linkedBy (own : Owner ws v owner) (linked : m ∈ linkedBy ws owner) :
    Reaches ws v m := by
  obtain ⟨r, listed, found⟩ := List.mem_filterMap.1 linked
  exact .of_owner own listed found

/-- The order in which a module meets the instances that it reaches. -/
structure IsBreadthFirst (ws : Workspace) (v : View) (nodes : List Module) : Prop where
  mem_iff : ∀ m, m ∈ nodes ↔ Reaches ws v m
  firsts : nodes = FirstSeen.firstsBy id
    (linkedBy ws v ++ nodes.flatMap fun m => linkedBy ws (v.scopedTo m))

namespace Reach

variable {r s : Reach}

theorem instances_add (sound : Sound ws v r) (reached : Reaches ws v m) :
    (r.add m).instances = FirstSeen.add r.instances m := by
  have known : (r.instances.any fun other => other.identity = m.identity) = true ↔
      m ∈ r.instances := by
    rw [List.any_eq_true]
    constructor
    · rintro ⟨other, member, same⟩
      have equal := (sound.reached other member).eq_of_identity reached (of_decide_eq_true same)
      exact equal ▸ member
    · intro member
      exact ⟨m, member, by simp⟩
  rw [add, FirstSeen.add]
  by_cases member : m ∈ r.instances
  · rw [if_pos (known.2 member), if_pos member]
  · rw [if_neg (known.not.2 member), if_neg member, instances, instances, List.append_assoc]

theorem instances_foldl_add (reached : ∀ m ∈ linked, Reaches ws v m) (sound : Sound ws v r) :
    (linked.foldl add r).instances = addAll r.instances linked := by
  induction linked generalizing r with
  | nil => rfl
  | cons m rest ih =>
      rw [List.forall_mem_cons] at reached
      rw [List.foldl_cons, ih reached.2 (add_spec sound reached.1).1,
        instances_add sound reached.1]
      rfl

/-- What a module links is collected behind what was collected before. -/
theorem instances_follow (own : Owner ws v owner) (sound : Sound ws v r)
    (h : follow ws owner r = .ok s) : s.instances = addAll r.instances (linkedBy ws owner) := by
  rw [follow_eq, bind_ok_iff] at h
  obtain ⟨linked, read, made⟩ := h
  cases made
  obtain rfl : linkedBy ws owner = linked := filterMap_of_mapM (fun _ _ => instanceOf_ok_iff) read
  exact instances_foldl_add (fun m member => reaches_of_linkedBy own member) sound

/-- Collected is what the module and the expanded instances link, each at its first place. -/
def InOrder (ws : Workspace) (v : View) (r : Reach) : Prop :=
  r.instances =
    ofList (linkedBy ws v ++ r.expanded.flatMap fun m => linkedBy ws (v.scopedTo m))

theorem step_inOrder (sound : Sound ws v r) (inOrder : InOrder ws v r)
    (h : r.step ws v = .ok s) : InOrder ws v s := by
  rw [step] at h
  split at h
  next => exact Except.ok.inj h ▸ inOrder
  next m rest waiting =>
    let opened : Reach := ⟨r.expanded ++ [m], rest⟩
    have same : opened.instances = r.instances := by simp [opened, instances, waiting]
    have member : m ∈ r.instances := by simp [instances, waiting]
    have soundOpened : Sound ws v opened := ⟨same ▸ sound.reached, same ▸ sound.nodup⟩
    have own : Owner ws v (v.scopedTo m) := .reached (sound.reached m member)
    have expanded : s.expanded = r.expanded ++ [m] := (follow_ok own soundOpened h).2.1.expanded
    rw [InOrder, instances_follow own soundOpened h, same, inOrder, expanded, List.flatMap_append,
      List.flatMap_singleton, ← List.append_assoc, FirstSeen.ofList_append _ (linkedBy ws _)]

theorem rounds_inOrder (n : Nat) (steady : Steady ws v r) (inOrder : InOrder ws v r)
    (h : r.rounds ws v n = .ok s) : InOrder ws v s := by
  induction n generalizing r with
  | zero => exact Except.ok.inj h ▸ inOrder
  | succ n ih =>
      rw [rounds, bind_ok_iff] at h
      obtain ⟨next, stepped, rest⟩ := h
      exact ih (step_ok steady stepped).1 (step_inOrder steady.sound inOrder stepped) rest

end Reach

/-- The collection is in the order in which the instances are met. -/
theorem isBreadthFirst_of_reachable (h : reachable ws v = .ok nodes) :
    IsBreadthFirst ws v nodes := by
  refine ⟨(reachable_ok h).mem_iff, ?_⟩
  rw [reachable, bind_ok_iff] at h
  obtain ⟨direct, hdirect, h⟩ := h
  rw [bind_ok_iff] at h
  obtain ⟨all, hall, made⟩ := h
  cases made
  obtain ⟨steady, nothing⟩ := steady_direct hdirect
  have start : Reach.InOrder ws v direct := by
    have empty : Reach.Sound ws v {} := ⟨by simp [Reach.instances], by simp [Reach.instances]⟩
    rw [Reach.InOrder, Reach.instances_follow .itself empty hdirect, nothing, List.flatMap_nil,
      List.append_nil]
    rfl
  have done := (steady_rounds hdirect hall).2
  have last := Reach.rounds_inOrder _ steady start hall
  have whole : all.expanded = all.instances := by rw [Reach.instances, done, List.append_nil]
  rw [Reach.InOrder, whole] at last
  rw [← FirstSeen.ofList_eq_firstsBy]
  exact last

namespace IsBreadthFirst

variable {front instances : List Module}

theorem nodup (h : IsBreadthFirst ws v nodes) : nodes.Nodup := by
  have kept := FirstSeen.nodup_map_firstsBy id
    (linkedBy ws v ++ nodes.flatMap fun m => linkedBy ws (v.scopedTo m))
  rwa [List.map_id, ← h.firsts] at kept

/-- What some of the instances at the front lead to stands at the front as well. -/
theorem met_prefix (h : IsBreadthFirst ws v nodes) (begins : front <+: nodes) :
    FirstSeen.firstsBy id
      (linkedBy ws v ++ front.flatMap fun m => linkedBy ws (v.scopedTo m)) <+: nodes := by
  obtain ⟨rest, rfl⟩ := begins
  have firsts := h.firsts
  rw [List.flatMap_append, ← List.append_assoc] at firsts
  have kept := FirstSeen.firstsBy_isPrefix id
    (linkedBy ws v ++ front.flatMap fun m => linkedBy ws (v.scopedTo m))
    (rest.flatMap fun m => linkedBy ws (v.scopedTo m))
  rwa [← firsts] at kept

/-- Instances at the front that are not all lead to one more: otherwise nothing else would be
reached. -/
theorem length_lt (h : IsBreadthFirst ws v nodes) (begins : front <+: nodes)
    (short : front.length < nodes.length) :
    front.length < (FirstSeen.firstsBy id
      (linkedBy ws v ++ front.flatMap fun m => linkedBy ws (v.scopedTo m))).length := by
  by_contra full
  have inside :=
    List.prefix_of_prefix_length_le (h.met_prefix begins) begins (Nat.le_of_not_lt full)
  have met : ∀ {m}, m ∈ linkedBy ws v ++ front.flatMap (fun m => linkedBy ws (v.scopedTo m)) →
      m ∈ front :=
    fun linked => inside.subset (FirstSeen.mem_firstsBy_id.2 linked)
  have closed : ∀ {m}, Reaches ws v m → m ∈ front := by
    intro m reached
    induction reached with
    | direct listed found =>
        exact met (List.mem_append_left _ (List.mem_filterMap.2 ⟨_, listed, found⟩))
    | step _ linked ih =>
        exact met (List.mem_append_right _ (List.mem_flatMap.2 ⟨_, ih, links_iff.1 linked⟩))
  have few := (h.nodup.subperm fun m member => closed ((h.mem_iff m).1 member)).length_le
  exact Nat.not_lt.2 few short

theorem isPrefix (h : IsBreadthFirst ws v nodes) (other : IsBreadthFirst ws v instances)
    (k : Nat) (inside : k ≤ nodes.length) : nodes.take k <+: instances := by
  induction k with
  | zero => exact List.nil_prefix
  | succ k ih =>
      -- What the instances at the front lead to is a longer front of both lists.
      have begins := List.take_prefix k nodes
      have size : (nodes.take k).length = k := List.length_take_of_le (Nat.le_of_succ_le inside)
      have more := h.length_lt begins (by omega)
      have here := List.prefix_of_prefix_length_le (List.take_prefix (k + 1) nodes)
        (h.met_prefix begins) (by rw [List.length_take_of_le inside]; omega)
      exact here.trans (other.met_prefix (ih (Nat.le_of_succ_le inside)))

/-- The order in which instances are met is determined by what is linked. -/
theorem eq (h : IsBreadthFirst ws v nodes) (other : IsBreadthFirst ws v instances) :
    nodes = instances := by
  have first := h.isPrefix other _ (Nat.le_refl _)
  have second := other.isPrefix h _ (Nat.le_refl _)
  rw [List.take_length] at first second
  exact first.eq_of_length_le second.length_le

end IsBreadthFirst

end FirmwareGlue.Library
