import FirmwareGlue.Proofs.FirstError
import FirmwareGlue.Proofs.Library.Dependency
import Mathlib.Data.List.Perm.Subperm

/-!
# The collection of library instances

The collection holds each instance that the module reaches once, and ends. What carries this through
the rounds is that everything collected is reached, that nothing is collected twice, and that the
references of every expanded instance lead to collected ones. Each round expands one instance, and
no more are collected than are registered, so after as many rounds as there are modules nothing
waits any more; then the collection is closed under references. The only error is a reference to no
registered module, of the module itself or of an instance it reaches.
-/

namespace FirmwareGlue.Library

variable {ws : Workspace} {v owner : View} {m : Module} {r s : Reach} {e : Error}

/-- An error about a reference that is followed and is to no registered module. -/
def Dangling (ws : Workspace) (v : View) (e : Error) : Prop :=
  ∃ owner, Owner ws v owner ∧ ∃ x ∈ owner.libraryInstances,
    ws.module? x = none ∧ e = .libraryInstanceNotFound x (some owner.name)

theorem Dangling.not_resolves (h : Dangling ws v e) : ¬ LinksResolve ws v := by
  intro resolves
  obtain ⟨owner, own, x, listed, missing, _⟩ := h
  obtain ⟨m, found⟩ := resolves owner own x listed
  rw [missing] at found
  cases found

namespace Reach

/-- Everything collected is reached, and nothing is collected twice. -/
structure Sound (ws : Workspace) (v : View) (r : Reach) : Prop where
  reached : ∀ m ∈ r.instances, Reaches ws v m
  nodup : r.instances.Nodup

/-- Collecting keeps what was collected, and expands nothing. -/
structure Grows (r s : Reach) : Prop where
  expanded : s.expanded = r.expanded
  instances : r.instances <+: s.instances

/-- Every reference of a module is to a collected instance. -/
def Collected (ws : Workspace) (owner : View) (r : Reach) : Prop :=
  ∀ x ∈ owner.libraryInstances, ∃ m ∈ r.instances, ws.module? x = some m

/-- What holds after each round: besides, the references of the module and of all expanded
instances have been followed. -/
structure Steady (ws : Workspace) (v : View) (r : Reach) : Prop where
  sound : Sound ws v r
  direct : Collected ws v r
  closed : ∀ m ∈ r.expanded, Collected ws (v.scopedTo m) r

theorem Grows.refl (r : Reach) : Grows r r := ⟨rfl, List.prefix_refl _⟩

theorem Grows.trans {t : Reach} (first : Grows r s) (second : Grows s t) : Grows r t :=
  ⟨second.expanded.trans first.expanded, first.instances.trans second.instances⟩

theorem Collected.grow (h : Collected ws owner r) (grows : Grows r s) :
    Collected ws owner s := by
  intro x listed
  obtain ⟨m, member, found⟩ := h x listed
  exact ⟨m, grows.instances.subset member, found⟩

theorem Sound.length_le (sound : Sound ws v r) :
    r.instances.length ≤ ws.modules.entries.size := by
  have registered : r.instances ⊆ ws.modules.toList := fun m member =>
    Workspace.mem_of_module? (sound.reached m member).found
  exact (List.subperm_of_subset sound.nodup registered).length_le

/-- An instance that is reached is collected, unless it is there already. -/
theorem add_spec (sound : Sound ws v r) (reached : Reaches ws v m) :
    Sound ws v (r.add m) ∧ Grows r (r.add m) ∧ m ∈ (r.add m).instances := by
  by_cases known : r.instances.any fun other => other.identity = m.identity
  · rw [add, if_pos known]
    obtain ⟨other, member, same⟩ := List.any_eq_true.1 known
    have : other = m :=
      (sound.reached other member).eq_of_identity reached (of_decide_eq_true same)
    exact ⟨sound, .refl r, this ▸ member⟩
  · rw [add, if_neg known]
    have added : Reach.instances { r with waiting := r.waiting ++ [m] } = r.instances ++ [m] := by
      simp [instances]
    have fresh : m ∉ r.instances := by
      intro member
      exact known (List.any_eq_true.2 ⟨m, member, by simp⟩)
    refine ⟨⟨?_, ?_⟩, ⟨rfl, ?_⟩, ?_⟩
    · rw [added]
      intro other member
      rcases List.mem_append.1 member with member | member
      · exact sound.reached other member
      · rw [List.mem_singleton.1 member]
        exact reached
    · rw [added]
      exact List.nodup_append.2 ⟨sound.nodup, by simp, by grind⟩
    · rw [added]
      exact List.prefix_append _ _
    · simp [added]

def instanceOf (ws : Workspace) (owner : View) (x : Reference) : Except Error Module :=
  match ws.module? x with
  | some m => .ok m
  | none => .error (.libraryInstanceNotFound x (some owner.name))

theorem instanceOf_ok_iff {x : Reference} :
    instanceOf ws owner x = .ok m ↔ ws.module? x = some m := by
  cases h : ws.module? x with
  | none => simp [instanceOf, h]
  | some found => simp [instanceOf, h]

theorem instanceOf_error_iff {x : Reference} : instanceOf ws owner x = .error e ↔
    ws.module? x = none ∧ e = .libraryInstanceNotFound x (some owner.name) := by
  cases h : ws.module? x with
  | none => simp [instanceOf, h, eq_comm]
  | some found => simp [instanceOf, h]

theorem follow_eq : follow ws owner r =
    owner.libraryInstances.mapM (instanceOf ws owner) >>= fun linked =>
      .ok (linked.foldl add r) := by
  rw [← foldlM_eq_mapM, follow]
  congr 1
  funext r x
  cases h : ws.module? x with
  | none => simp [instanceOf, h, bind, Except.bind]
  | some found => simp [instanceOf, h, bind, Except.bind]

/-- Instances that are reached are collected one after another. -/
theorem foldl_add_spec {linked : List Module} (reached : ∀ m ∈ linked, Reaches ws v m)
    (sound : Sound ws v r) :
    Sound ws v (linked.foldl add r) ∧ Grows r (linked.foldl add r) ∧
      ∀ m ∈ linked, m ∈ (linked.foldl add r).instances := by
  induction linked generalizing r with
  | nil => exact ⟨sound, .refl r, by simp⟩
  | cons m rest ih =>
      obtain ⟨soundAdd, growsAdd, member⟩ := add_spec sound (reached m List.mem_cons_self)
      obtain ⟨soundLast, growsLast, collected⟩ :=
        ih (fun n h => reached n (List.mem_cons_of_mem m h)) soundAdd
      refine ⟨soundLast, growsAdd.trans growsLast, ?_⟩
      intro n hn
      rcases List.mem_cons.1 hn with rfl | hn
      · exact growsLast.instances.subset member
      · exact collected n hn

theorem follow_ok (own : Owner ws v owner) (sound : Sound ws v r)
    (h : follow ws owner r = .ok s) :
    Sound ws v s ∧ Grows r s ∧ Collected ws owner s := by
  rw [follow_eq, bind_ok_iff] at h
  obtain ⟨linked, hlinked, h⟩ := h
  cases h
  have reached : ∀ m ∈ linked, Reaches ws v m := by
    intro m member
    obtain ⟨x, listed, found⟩ := (mem_results_iff hlinked).1 member
    exact .of_owner own listed (instanceOf_ok_iff.1 found)
  obtain ⟨soundLast, grows, collected⟩ := foldl_add_spec reached sound
  refine ⟨soundLast, grows, ?_⟩
  intro x listed
  obtain ⟨m, found⟩ := exists_mapM_ok_iff.1 ⟨linked, hlinked⟩ x listed
  exact ⟨m, collected m ((mem_results_iff hlinked).2 ⟨x, listed, found⟩),
    instanceOf_ok_iff.1 found⟩

theorem follow_error (own : Owner ws v owner) (h : follow ws owner r = .error e) :
    Dangling ws v e := by
  rw [follow_eq, bind_error_iff] at h
  rcases h with h | ⟨_, _, h⟩
  · obtain ⟨x, listed, failure⟩ := (mapM_error_iff.1 h).exists_mem
    obtain ⟨missing, rfl⟩ := instanceOf_error_iff.1 failure
    exact ⟨owner, own, x, listed, missing, rfl⟩
  · cases h

/-- A round expands the instance that has waited longest. -/
theorem step_ok (steady : Steady ws v r) (h : r.step ws v = .ok s) :
    Steady ws v s ∧ (r.waiting = [] ∧ s = r ∨ s.expanded.length = r.expanded.length + 1) := by
  rw [step] at h
  split at h
  next nothing =>
    cases h
    exact ⟨steady, .inl ⟨nothing, rfl⟩⟩
  next m rest waiting =>
    let opened : Reach := ⟨r.expanded ++ [m], rest⟩
    have same : opened.instances = r.instances := by simp [opened, instances, waiting]
    have member : m ∈ r.instances := by simp [instances, waiting]
    have sound : Sound ws v opened := ⟨same ▸ steady.sound.reached, same ▸ steady.sound.nodup⟩
    obtain ⟨soundLast, grows, collected⟩ :=
      follow_ok (.reached (steady.sound.reached m member)) sound h
    have kept : ∀ owner, Collected ws owner r → Collected ws owner s := by
      intro owner before
      exact Collected.grow (r := opened) (by rw [Collected, same]; exact before) grows
    refine ⟨⟨soundLast, kept v steady.direct, ?_⟩, .inr ?_⟩
    · intro n hn
      rw [grows.expanded] at hn
      rcases List.mem_append.1 hn with hn | hn
      · exact kept _ (steady.closed n hn)
      · rw [List.mem_singleton.1 hn]
        exact collected
    · simp [grows.expanded, opened]

theorem step_error (sound : Sound ws v r) (h : r.step ws v = .error e) : Dangling ws v e := by
  rw [step] at h
  split at h
  next => cases h
  next m rest waiting =>
    have member : m ∈ r.instances := by simp [instances, waiting]
    exact follow_error (.reached (sound.reached m member)) h

theorem rounds_of_done (n : Nat) (done : r.waiting = []) : r.rounds ws v n = .ok r := by
  induction n with
  | zero => rfl
  | succ n ih =>
      have still : r.step ws v = .ok r := by rw [step, done]
      rw [rounds, still]
      exact ih

theorem rounds_add (first later : Nat) (r : Reach) :
    r.rounds ws v (first + later) = r.rounds ws v first >>= rounds ws v later := by
  induction first generalizing r with
  | zero =>
      rw [Nat.zero_add]
      rfl
  | succ n ih =>
      rw [Nat.succ_add, rounds, rounds, bind_assoc]
      exact congrArg (bind _) (funext ih)

/-- After some rounds nothing waits any more, or each of them has expanded an instance. -/
theorem rounds_ok (n : Nat) (steady : Steady ws v r) (h : r.rounds ws v n = .ok s) :
    Steady ws v s ∧ (s.waiting = [] ∨ s.expanded.length = r.expanded.length + n) := by
  induction n generalizing r with
  | zero =>
      cases h
      exact ⟨steady, .inr rfl⟩
  | succ n ih =>
      rw [rounds, bind_ok_iff] at h
      obtain ⟨next, hstep, hrest⟩ := h
      obtain ⟨steadyNext, ⟨done, rfl⟩ | more⟩ := step_ok steady hstep
      · rw [rounds_of_done n done] at hrest
        cases hrest
        exact ⟨steady, .inl done⟩
      · obtain ⟨steadyLast, done | count⟩ := ih steadyNext hrest
        · exact ⟨steadyLast, .inl done⟩
        · exact ⟨steadyLast, .inr (by omega)⟩

theorem rounds_error (n : Nat) (steady : Steady ws v r) (h : r.rounds ws v n = .error e) :
    Dangling ws v e := by
  induction n generalizing r with
  | zero => cases h
  | succ n ih =>
      rw [rounds, bind_error_iff] at h
      rcases h with h | ⟨next, hstep, hrest⟩
      · exact step_error steady.sound h
      · exact ih (step_ok steady hstep).1 hrest

/-- Nothing waits after as many rounds as there are modules: one more instance would be expanded
than are registered. -/
theorem waiting_eq_nil (steady : Steady ws v s)
    (h : s.waiting = [] ∨ s.expanded.length = ws.modules.entries.size) : s.waiting = [] := by
  rcases h with h | full
  · exact h
  · have bound := steady.sound.length_le
    rw [instances, List.length_append, full] at bound
    exact List.length_eq_zero_iff.1 (by omega)

/-- A collection that is closed under references has everything that is reached. -/
theorem mem_instances_of_reaches (steady : Steady ws v s) (done : s.waiting = [])
    (h : Reaches ws v m) : m ∈ s.instances := by
  have found : ∀ {owner x m}, Collected ws owner s → x ∈ owner.libraryInstances →
      ws.module? x = some m → m ∈ s.instances := by
    intro owner x m collected listed found
    obtain ⟨n, member, found'⟩ := collected x listed
    rw [found] at found'
    exact Option.some.inj found' ▸ member
  induction h with
  | direct listed lookup => exact found steady.direct listed lookup
  | step _ linked ih =>
      obtain ⟨x, listed, lookup⟩ := linked
      rw [instances, done, List.append_nil] at ih
      exact found (steady.closed _ ih) listed lookup

end Reach

/-- Some instances are all that a module reaches, each once, and no reference leads elsewhere. -/
structure IsCollection (ws : Workspace) (v : View) (nodes : List Module) : Prop where
  nodup : nodes.Nodup
  mem_iff : ∀ m, m ∈ nodes ↔ Reaches ws v m
  resolves : LinksResolve ws v

theorem steady_direct {direct : Reach} (h : Reach.follow ws v {} = .ok direct) :
    Reach.Steady ws v direct ∧ direct.expanded = [] := by
  have sound : Reach.Sound ws v {} := ⟨by simp [Reach.instances], by simp [Reach.instances]⟩
  obtain ⟨soundDirect, grows, collected⟩ := Reach.follow_ok .itself sound h
  have start : direct.expanded = [] := grows.expanded
  refine ⟨⟨soundDirect, collected, ?_⟩, start⟩
  rw [start]
  simp

/-- After as many rounds as there are modules the collection is complete. -/
theorem steady_rounds {direct all : Reach} (hdirect : Reach.follow ws v {} = .ok direct)
    (hall : direct.rounds ws v ws.modules.entries.size = .ok all) :
    Reach.Steady ws v all ∧ all.waiting = [] := by
  obtain ⟨steady, start⟩ := steady_direct hdirect
  obtain ⟨steadyLast, count⟩ := Reach.rounds_ok _ steady hall
  rw [start, List.length_nil, Nat.zero_add] at count
  exact ⟨steadyLast, Reach.waiting_eq_nil steadyLast count⟩

/-- When every reference is to a registered module, the collection is what the module reaches. -/
theorem reachable_ok {nodes : List Module} (h : reachable ws v = .ok nodes) :
    IsCollection ws v nodes := by
  rw [reachable, bind_ok_iff] at h
  obtain ⟨direct, hdirect, h⟩ := h
  rw [bind_ok_iff] at h
  obtain ⟨all, hall, h⟩ := h
  cases h
  obtain ⟨steadyLast, done⟩ := steady_rounds hdirect hall
  refine ⟨steadyLast.sound.nodup, ?_, ?_⟩
  · intro m
    exact ⟨steadyLast.sound.reached m, Reach.mem_instances_of_reaches steadyLast done⟩
  · intro owner own x listed
    have collected : Reach.Collected ws owner all := by
      cases own with
      | itself => exact steadyLast.direct
      | reached reached =>
          have member := Reach.mem_instances_of_reaches steadyLast done reached
          rw [Reach.instances, done, List.append_nil] at member
          exact steadyLast.closed _ member
    obtain ⟨m, _, found⟩ := collected x listed
    exact ⟨m, found⟩

theorem reachable_error (h : reachable ws v = .error e) : Dangling ws v e := by
  rw [reachable, bind_error_iff] at h
  rcases h with h | ⟨direct, hdirect, h⟩
  · exact Reach.follow_error .itself h
  · rw [bind_error_iff] at h
    rcases h with h | ⟨_, _, h⟩
    · exact Reach.rounds_error _ (steady_direct hdirect).1 h
    · cases h

/-- More rounds than there are modules change nothing: what is left to expand has been expanded. -/
theorem reachable_eq {n : Nat} (enough : ws.modules.entries.size ≤ n) :
    reachable ws v = Reach.follow ws v {} >>= fun direct =>
      direct.rounds ws v n >>= fun all => .ok all.instances := by
  obtain ⟨more, rfl⟩ := Nat.exists_eq_add_of_le enough
  rw [reachable]
  cases hdirect : Reach.follow ws v {} with
  | error e => rfl
  | ok direct =>
      rw [ok_bind, ok_bind, Reach.rounds_add]
      cases hall : direct.rounds ws v ws.modules.entries.size with
      | error e => rfl
      | ok all =>
          have done := (steady_rounds hdirect hall).2
          rw [ok_bind, ok_bind, Reach.rounds_of_done more done, ok_bind]

/-- The collection succeeds exactly if every reference is to a registered module. -/
theorem exists_reachable_iff : (∃ nodes, reachable ws v = .ok nodes) ↔ LinksResolve ws v := by
  constructor
  · rintro ⟨nodes, h⟩
    exact (reachable_ok h).resolves
  · intro resolves
    rw [exists_ok_iff]
    intro e h
    exact (reachable_error h).not_resolves resolves

end FirmwareGlue.Library
