import FirmwareGlue.Proofs.Agreement
import FirmwareGlue.Proofs.Library.Reach
import FirmwareGlue.Proofs.Repetition

/-!
# Modules that look alike

A module can be declared in different ways that look alike to a view for the architecture: with
further declarations that do not apply to it, or with declarations that stand in a list again. A
workspace and its counterpart have the same packages, and modules that look alike at the same
positions. References then lead to counterparts, so the counterparts of the library instances are
met, depend on each other and are ordered as the instances themselves, or there is the same error.
-/

namespace FirmwareGlue

open Library

/-- Two views show the same declarations at their first places, of modules that differ in nothing
but their lists of declarations. -/
structure View.Alike (v other : View) : Prop where
  arch : other.arch = v.arch
  packages : FirstSeen.Same other.packages v.packages
  libraryClasses : ∀ usage, FirstSeen.Same (other.libraryClasses usage) (v.libraryClasses usage)
  libraryInstances : FirstSeen.Same other.libraryInstances v.libraryInstances
  ppis : FirstSeen.Same other.ppis v.ppis
  ppiNotifies : FirstSeen.Same other.ppiNotifies v.ppiNotifies
  protocols : FirstSeen.Same other.protocols v.protocols
  protocolNotifies : FirstSeen.Same other.protocolNotifies v.protocolNotifies
  guids : FirstSeen.Same other.guids v.guids
  entryPoints : other.entryPoints = v.entryPoints
  unloadImages : other.unloadImages = v.unloadImages
  rest : other.subject = { v.subject with
    packages := other.subject.packages
    libraryClasses := other.subject.libraryClasses
    libraryInstances := other.subject.libraryInstances
    ppis := other.subject.ppis
    ppiNotifies := other.subject.ppiNotifies
    protocols := other.subject.protocols
    protocolNotifies := other.subject.protocolNotifies
    guids := other.subject.guids
    entryPoints := other.subject.entryPoints
    unloadImages := other.subject.unloadImages }

namespace View.Alike

variable {v other : View}

theorem identity (h : v.Alike other) : other.subject.identity = v.subject.identity := by
  rw [h.rest]

theorem name (h : v.Alike other) : other.name = v.name := by
  rw [View.name, View.name, Module.name, Module.name, h.identity]

theorem type (h : v.Alike other) : other.type = v.type := by
  rw [View.type, View.type, h.rest]

theorem isLibrary (h : v.Alike other) : other.isLibrary = v.isLibrary := by
  rw [View.isLibrary, View.isLibrary, h.rest]

theorem constructor (h : v.Alike other) : other.constructor = v.constructor := by
  rw [View.constructor, View.constructor, h.rest]

theorem destructor (h : v.Alike other) : other.destructor = v.destructor := by
  rw [View.destructor, View.destructor, h.rest]

end View.Alike

/-- A workspace and its counterpart: the same packages, and at the same positions modules that are
related, which makes them look alike on an architecture. -/
structure Workspace.Counterpart (R : Module → Module → Prop) (arch : Arch) (ws other : Workspace) :
    Prop where
  alike : ∀ m n, R m n → View.Alike ⟨m, arch⟩ ⟨n, arch⟩
  packages : other.packages = ws.packages
  modules : List.Forall₂ R ws.modules.toList other.modules.toList

section

variable {α β : Type} {R : α → β → Prop} {first : List α} {second : List β}

theorem forall₂_find? (h : List.Forall₂ R first second) {p : α → Bool} {q : β → Bool}
    (same : ∀ a b, R a b → p a = q b) : Option.Rel R (first.find? p) (second.find? q) := by
  induction h with
  | nil => exact .none
  | @cons a b _ _ related _ ih =>
      rw [List.find?_cons, List.find?_cons, same a b related]
      cases q b with
      | true => exact .some related
      | false => exact ih

theorem forall₂_any (h : List.Forall₂ R first second) {p : α → Bool} {q : β → Bool}
    (same : ∀ a b, R a b → p a = q b) : first.any p = second.any q := by
  induction h with
  | nil => rfl
  | cons related _ ih => rw [List.any_cons, List.any_cons, same _ _ related, ih]

theorem forall₂_map_eq {γ : Type} (h : List.Forall₂ R first second) {f : α → γ} {g : β → γ}
    (same : ∀ a b, R a b → f a = g b) : first.map f = second.map g := by
  induction h with
  | nil => rfl
  | cons related _ ih => rw [List.map_cons, List.map_cons, same _ _ related, ih]

theorem forall₂_filterMap_eq {γ : Type} (h : List.Forall₂ R first second) {f : α → Option γ}
    {g : β → Option γ} (same : ∀ a b, R a b → f a = g b) :
    first.filterMap f = second.filterMap g := by
  induction h with
  | nil => rfl
  | cons related _ ih => rw [List.filterMap_cons, List.filterMap_cons, same _ _ related, ih]

theorem forall₂_getElem? (h : List.Forall₂ R first second) (i : Nat) :
    Option.Rel R first[i]? second[i]? := by
  induction h generalizing i with
  | nil => exact .none
  | cons related _ ih =>
      cases i with
      | zero => exact .some related
      | succ i => simpa using ih i

theorem forall₂_zipIdx (h : List.Forall₂ R first second) (start : Nat) :
    List.Forall₂ (fun a b => R a.1 b.1 ∧ a.2 = b.2) (first.zipIdx start)
      (second.zipIdx start) := by
  induction h generalizing start with
  | nil => exact .nil
  | cons related _ ih => exact .cons ⟨related, rfl⟩ (ih (start + 1))

end

namespace Library

variable {R : Module → Module → Prop} {ws other : Workspace} {v v' owner owner' : View}
variable {m n : Module} {nodes nodes' : List Module}

theorem requirePackage_counterpart {arch : Arch} (h : ws.Counterpart R arch other) :
    other.requirePackage = ws.requirePackage := by
  funext r
  rw [Workspace.requirePackage, Workspace.requirePackage, Workspace.package?, Workspace.package?,
    h.packages]

/-- A reference is to the counterpart of what it is to. -/
theorem module?_counterpart {arch : Arch} (h : ws.Counterpart R arch other) (r : Reference) :
    Option.Rel R (ws.module? r) (other.module? r) := by
  rw [Workspace.module?, Workspace.module?, Catalog.find?_eq, Catalog.find?_eq]
  apply forall₂_find? h.modules
  intro m n related
  exact congrArg (Identity.answers · r) (h.alike m n related).identity.symm

theorem scopedTo_counterpart (h : ws.Counterpart R v.arch other) (look : v.Alike v')
    (related : R m n) : (v.scopedTo m).Alike (v'.scopedTo n) := by
  rw [View.scopedTo, View.scopedTo, look.arch]
  exact h.alike m n related

namespace Reach

variable {r s : Reach}

/-- The same has been collected, each instance or its counterpart. -/
structure Counterpart (R : Module → Module → Prop) (r s : Reach) : Prop where
  expanded : List.Forall₂ R r.expanded s.expanded
  waiting : List.Forall₂ R r.waiting s.waiting

theorem Counterpart.instances (h : Counterpart R r s) :
    List.Forall₂ R r.instances s.instances :=
  List.rel_append h.expanded h.waiting

theorem add_counterpart {arch : Arch} (h : ws.Counterpart R arch other) (rs : Counterpart R r s)
    (related : R m n) : Counterpart R (r.add m) (s.add n) := by
  have known : (r.instances.any fun x => x.identity = m.identity) =
      s.instances.any fun x => x.identity = n.identity := by
    apply forall₂_any rs.instances
    intro a b hab
    rw [← (h.alike a b hab).identity, ← (h.alike m n related).identity]
  rw [add, add, known]
  split
  · exact rs
  · exact ⟨rs.expanded, List.rel_append rs.waiting (.cons related .nil)⟩

theorem foldl_add_counterpart {arch : Arch} (h : ws.Counterpart R arch other)
    {linked linked' : List Module} (all : List.Forall₂ R linked linked') (rs : Counterpart R r s) :
    Counterpart R (linked.foldl add r) (linked'.foldl add s) := by
  induction all generalizing r s with
  | nil => exact rs
  | cons related _ ih => exact ih (add_counterpart h rs related)

/-- An instance with the identity of a module has been collected. -/
def Known (m : Module) (r : Reach) : Prop := ∃ x ∈ r.instances, x.identity = m.identity

theorem add_of_known (h : Known m r) : r.add m = r := by
  obtain ⟨x, member, same⟩ := h
  exact if_pos (List.any_eq_true.2 ⟨x, member, decide_eq_true same⟩)

theorem known_add_self (m : Module) (r : Reach) : Known m (r.add m) := by
  by_cases h : Known m r
  · rwa [add_of_known h]
  · have fresh : ¬ r.instances.any fun x => x.identity = m.identity := by
      intro known
      obtain ⟨x, member, same⟩ := List.any_eq_true.1 known
      exact h ⟨x, member, of_decide_eq_true same⟩
    rw [add, if_neg fresh]
    exact ⟨m, by simp [instances], rfl⟩

theorem Known.add (h : Known m r) (n : Module) : Known m (r.add n) := by
  obtain ⟨x, member, same⟩ := h
  refine ⟨x, ?_, same⟩
  rw [Reach.add]
  split
  · exact member
  · rcases List.mem_append.1 member with old | old
    · exact List.mem_append_left _ old
    · exact List.mem_append_right _ (List.mem_append_left _ old)

theorem known_foldl_add {linked : List Module} (member : m ∈ linked) (r : Reach) :
    Known m (linked.foldl Reach.add r) := by
  induction linked using List.reverseRecOn with
  | nil => cases member
  | append_singleton linked n ih =>
      rw [List.foldl_append]
      rcases List.mem_append.1 member with member | member
      · exact (ih member).add n
      · rw [List.mem_singleton.1 member]
        exact known_add_self n _

/-- Collecting an instance again changes nothing. -/
theorem foldl_add_ofList (linked : List Module) (r : Reach) :
    (FirstSeen.ofList linked).foldl add r = linked.foldl add r := by
  apply FirstSeen.of_ofList fun linked => linked.foldl add r
  · intro linked m member
    rw [List.foldl_append]
    exact add_of_known (known_foldl_add member r)
  · intro first second m same
    rw [List.foldl_append, List.foldl_append, same]

theorem instanceOf_counterpart (h : ws.Counterpart R owner.arch other) (look : owner.Alike owner')
    (x : Reference) : Agree R (instanceOf ws owner x) (instanceOf other owner' x) := by
  have found := module?_counterpart h x
  rw [instanceOf, instanceOf, look.name]
  generalize ws.module? x = here at found ⊢
  generalize other.module? x = there at found ⊢
  cases found with
  | none => exact .error _
  | some related => exact .ok related

theorem follow_counterpart (h : ws.Counterpart R owner.arch other) (look : owner.Alike owner')
    (rs : Counterpart R r s) :
    Agree (Counterpart R) (r.follow ws owner) (s.follow other owner') := by
  have linked : Agree (List.Forall₂ R) (owner.libraryInstances.mapM (instanceOf ws owner))
      (owner.libraryInstances.mapM (instanceOf other owner')) :=
    .mapM (List.forall₂_same.2 fun x _ => instanceOf_counterpart h look x)
  have once : s.follow other owner' =
      owner.libraryInstances.mapM (instanceOf other owner') >>= fun linked =>
        .ok (linked.foldl add s) := by
    rw [follow_eq]
    exact look.libraryInstances.mapM_bind _ fun linked => by rw [foldl_add_ofList]
  rw [follow_eq, once]
  exact linked.bind fun _ _ all => .ok (foldl_add_counterpart h all rs)

theorem step_counterpart (h : ws.Counterpart R v.arch other) (look : v.Alike v')
    (rs : Counterpart R r s) : Agree (Counterpart R) (r.step ws v) (s.step other v') := by
  obtain ⟨expanded, waiting⟩ := r
  obtain ⟨expanded', waiting'⟩ := s
  obtain ⟨before, after⟩ := rs
  cases after with
  | nil => exact .ok ⟨before, .nil⟩
  | cons related rest =>
      exact follow_counterpart h (scopedTo_counterpart h look related)
        ⟨List.rel_append before (.cons related .nil), rest⟩

theorem rounds_counterpart (h : ws.Counterpart R v.arch other) (look : v.Alike v') (count : Nat)
    (rs : Counterpart R r s) :
    Agree (Counterpart R) (r.rounds ws v count) (s.rounds other v' count) := by
  induction count generalizing r s with
  | zero => exact .ok rs
  | succ count ih => exact (step_counterpart h look rs).bind fun _ _ next => ih next

end Reach

theorem reachable_counterpart (h : ws.Counterpart R v.arch other) (look : v.Alike v') :
    Agree (List.Forall₂ R) (reachable ws v) (reachable other v') := by
  have count : other.modules.entries.size = ws.modules.entries.size := h.modules.length_eq.symm
  rw [reachable, reachable, count]
  refine (Reach.follow_counterpart h look ⟨.nil, .nil⟩).bind fun direct direct' started => ?_
  exact (Reach.rounds_counterpart h look _ started).bind fun _ _ all => .ok all.instances

theorem identities_counterpart {arch : Arch} (h : ws.Counterpart R arch other)
    (all : List.Forall₂ R nodes nodes') :
    nodes'.map Module.identity = nodes.map Module.identity :=
  (forall₂_map_eq all fun m n related => (h.alike m n related).identity.symm).symm

theorem placeOf_counterpart {arch : Arch} (h : ws.Counterpart R arch other)
    (all : List.Forall₂ R nodes nodes') : placeOf other nodes' = placeOf ws nodes := by
  have place (nodes : List Module) (m : Module) :
      nodes.findIdx? (fun x => x.identity = m.identity) =
        (nodes.map Module.identity).findIdx? (· = m.identity) := by
    rw [List.findIdx?_map]
    rfl
  funext r
  have found := module?_counterpart h r
  rw [placeOf, placeOf]
  generalize ws.module? r = here at found ⊢
  generalize other.module? r = there at found ⊢
  cases found with
  | none => rfl
  | @some m n related =>
      have identity : n.identity = m.identity := (h.alike m n related).identity
      simp only [Option.bind_eq_bind, Option.bind_some, place, identity,
        identities_counterpart h all]

theorem producers_counterpart (h : ws.Counterpart R v.arch other) (look : v.Alike v')
    (all : List.Forall₂ R nodes nodes') (className : String) :
    FirstSeen.Same (producers v' nodes' className) (producers v nodes className) := by
  apply FirstSeen.Same.symm
  apply FirstSeen.Same.flatMap_forall₂ (forall₂_zipIdx all 0)
  rintro ⟨m, place⟩ ⟨n, _⟩ ⟨related, rfl⟩
  have classes := (scopedTo_counterpart h look related).libraryClasses .produced
  exact (classes.symm.filter _).map _

theorem targetsOf_counterpart (h : ws.Counterpart R v.arch other) (look : v.Alike v')
    (all : List.Forall₂ R nodes nodes') (place : Nat) (related : R m n) :
    targetsOf other v' nodes' place n = targetsOf ws v nodes place m := by
  have own := scopedTo_counterpart h look related
  have producing : FirstSeen.Same
      (((v'.scopedTo n).libraryClasses .consumed).flatMap (producers v' nodes'))
      (((v.scopedTo m).libraryClasses .consumed).flatMap (producers v nodes)) := by
    refine .trans (.flatMap_forall₂ (List.forall₂_same.2 fun _ _ => rfl) ?_)
      ((own.libraryClasses .consumed).flatMap _)
    rintro name _ rfl
    exact producers_counterpart h look all name
  rw [targetsOf, targetsOf, placeOf_counterpart h all]
  dsimp only
  rw [own.libraryInstances.mapM_bind]
  · congr 1
    funext linked
    exact congrArg Except.ok ((FirstSeen.Same.refl linked).append (producing.filter _))
  · intro linked
    exact congrArg Except.ok (FirstSeen.Same.append (FirstSeen.ofList_ofList linked) (.refl _))

/-- Counterparts stand at the same places, and depend on the same places. -/
theorem dependencies_counterpart (h : ws.Counterpart R v.arch other) (look : v.Alike v')
    (all : List.Forall₂ R nodes nodes') :
    dependencies other v' nodes' = dependencies ws v nodes := by
  have rows : Agree (List.Forall₂ Eq) (dependencies ws v nodes) (dependencies other v' nodes') := by
    apply Agree.mapM
    refine (forall₂_zipIdx all 0).imp ?_
    rintro ⟨m, place⟩ ⟨n, _⟩ ⟨related, rfl⟩
    rw [targetsOf_counterpart h look all place related]
    exact .refl _
  rw [List.forall₂_eq_eq_eq] at rows
  exact rows.eq.symm

theorem haltError_counterpart {arch : Arch} (h : ws.Counterpart R arch other)
    (all : List.Forall₂ R nodes nodes') : haltError nodes' = haltError nodes := by
  have named (nodes : List Module) (places : List Nat) : namesAt nodes places =
      places.filterMap fun i => ((nodes.map Module.identity).map Identity.name)[i]? := by
    simp only [namesAt, List.getElem?_map, Option.map_map]
    rfl
  funext halt
  cases halt with
  | cycle places => rw [haltError, haltError, named, named, identities_counterpart h all]
  | depth => rfl

end Library

/-- The counterparts of the instances are ordered as the instances. -/
theorem LibraryOrder.ofView_counterpart {R : Module → Module → Prop} {ws other : Workspace}
    {v v' : View} (h : ws.Counterpart R v.arch other) (look : v.Alike v') :
    Agree (fun order order' => List.Forall₂ R order.instances order'.instances)
      (ofView ws v) (ofView other v') := by
  refine (reachable_counterpart h look).bind fun nodes nodes' all => ?_
  rw [dependencies_counterpart h look all, haltError_counterpart h all, all.length_eq]
  refine (Agree.refl _).bind fun targets _ same => ?_
  subst same
  refine (Agree.refl _).bind fun places _ same => ?_
  subst same
  refine .ok (List.rel_filterMap (R := Eq) ?_ (List.forall₂_eq_eq_eq ▸ rfl))
  rintro i _ rfl
  exact forall₂_getElem? all i

end FirmwareGlue
