import FirmwareGlue.Capability.Set
import FirmwareGlue.Proofs.FirstPlaces

/-!
# What a capability set is collected from

A capability set is collected from the library instances in the order of construction, and from the
module last. Of each kind of capability it has the keywords that any of them declares or is notified
of on the architecture of the module, each at its first place, and the same is true of the packages.
So the order of a set is the order of construction: what an instance brings stands before whatever
only later ones bring, and the packages of libraries are searched before those that only the module
lists.
-/

namespace FirmwareGlue

namespace Scoped

variable {α : Type}

theorem onArch_append (arch : Arch) (first second : List (Scoped α)) :
    onArch arch (first ++ second) = onArch arch first ++ onArch arch second := by
  rw [onArch, List.filter_append, List.map_append]
  rfl

theorem mem_onArch {arch : Arch} {list : List (Scoped α)} {x : α} :
    x ∈ onArch arch list ↔ ∃ entry ∈ list, entry.arches.includes arch = true ∧ entry.value = x := by
  simp only [onArch, List.mem_map, List.mem_filter, and_assoc]

end Scoped

/-- The capabilities of a kind that a module declares: the plain ones, and then those it is notified
of. -/
def Module.capabilities (m : Module) : CapabilityKind → List (Scoped String)
  | .ppi => m.ppis ++ m.ppiNotifies
  | .protocol => m.protocols ++ m.protocolNotifies
  | .guid => m.guids

namespace FirstSeen

variable {α β : Type} [DecidableEq α]

/-- A collection that grows by what each of some sources gives. -/
theorem foldl_addAll (given : β → List α) (sources : List β) (seen : List α) :
    sources.foldl (fun seen source => addAll seen (given source)) seen =
      addAll seen (sources.flatMap given) := by
  induction sources generalizing seen with
  | nil => rfl
  | cons source rest ih => rw [List.foldl_cons, ih, List.flatMap_cons, addAll_append]

/-- What is collected from some sources in turn: everything that any of them gives, once, at the
place where it is given first. -/
structure Collected (sources : List β) (given : β → List α) (list : List α) : Prop where
  firsts : list = firstsBy id (sources.flatMap given)
  mem_iff : ∀ x, x ∈ list ↔ ∃ source ∈ sources, x ∈ given source
  nodup : list.Nodup
  /-- What earlier sources give stands before what only later ones give. -/
  ordered : ∀ before after, sources = before ++ after →
    ∀ source ∈ before, ∀ x ∈ given source, ∀ later ∈ after, ∀ y ∈ given later,
      (∀ earlier ∈ before, y ∉ given earlier) → Precedes list x y

theorem collected_ofList (sources : List β) (given : β → List α) :
    Collected sources given (ofList (sources.flatMap given)) where
  firsts := ofList_eq_firstsBy _
  mem_iff x := by rw [mem_ofList, List.mem_flatMap]
  nodup := nodup_addAll List.nodup_nil _
  ordered := by
    rintro before after rfl source early x givenX later late y givenY new
    rw [ofList_eq_firstsBy, List.flatMap_append]
    refine precedes_firstsBy (List.mem_flatMap_of_mem early givenX)
      (List.mem_flatMap_of_mem late givenY) ?_
    rw [List.mem_flatMap]
    rintro ⟨earlier, member, given⟩
    exact new earlier member given

end FirstSeen

namespace CapabilitySet

open FirstSeen

variable {v : View} {order : LibraryOrder}

/-- The modules that a set is collected from, in order. -/
def sources (v : View) (order : LibraryOrder) : List Module := order.instances ++ [v.subject]

section Part

variable {α : Type} [DecidableEq α] (part : CapabilitySet → List α) (given : View → List α)

/-- A part of a set that grows by what each module gives. -/
theorem foldl_absorb (grows : ∀ set v, part (absorb set v) = addAll (part set) (given v))
    (v : View) (instances : List Module) (set : CapabilitySet) :
    part (instances.foldl (fun set m => set.absorb (v.scopedTo m)) set) =
      addAll (part set) (instances.flatMap fun m => given (v.scopedTo m)) := by
  rw [← foldl_addAll]
  induction instances generalizing set with
  | nil => rfl
  | cons m rest ih => rw [List.foldl_cons, List.foldl_cons, ih, grows]

/-- A part that no hook is in is collected from the modules alone. -/
theorem part_ofOrder (grows : ∀ set v, part (absorb set v) = addAll (part set) (given v))
    (bare : ∀ constructors destructors,
      part { constructors := constructors, destructors := destructors } = []) :
    part (ofOrder v order) = ofList ((sources v order).flatMap fun m => given (v.scopedTo m)) := by
  rw [ofOrder, grows, foldl_absorb part given grows, bare, ← addAll_append, sources,
    List.flatMap_append, List.flatMap_singleton]
  rfl

end Part

theorem keywords_absorb (kind : CapabilityKind) (set : CapabilitySet) (v : View) :
    (set.absorb v).keywords kind =
      addAll (set.keywords kind) (Scoped.onArch v.arch (v.subject.capabilities kind)) := by
  cases kind with
  | ppi =>
      rw [Module.capabilities, Scoped.onArch_append]
      rfl
  | protocol =>
      rw [Module.capabilities, Scoped.onArch_append]
      rfl
  | guid => rfl

/-- The keywords of a kind are collected from what the modules declare. -/
theorem keywords_ofOrder (v : View) (order : LibraryOrder) (kind : CapabilityKind) :
    (ofOrder v order).keywords kind =
      ofList ((sources v order).flatMap fun m => Scoped.onArch v.arch (m.capabilities kind)) :=
  part_ofOrder (keywords · kind) (fun v => Scoped.onArch v.arch (v.subject.capabilities kind))
    (keywords_absorb kind) fun _ _ => by cases kind <;> rfl

theorem packages_ofOrder : (ofOrder v order).packages =
    ofList ((sources v order).flatMap fun m => Scoped.onArch v.arch m.packages) :=
  part_ofOrder packages View.packages (fun _ _ => rfl) fun _ _ => rfl

/-- The keywords of each kind, and the packages, are collected at their first places from the
library instances in the order of construction and then from the module. So a keyword is in a set
exactly if the module or a library instance declares it or is notified of it on the architecture,
and what an instance brings stands before what only later ones bring. -/
theorem ofOrder_collected (v : View) (order : LibraryOrder) :
    (∀ kind, Collected (sources v order) (fun m => Scoped.onArch v.arch (m.capabilities kind))
        ((ofOrder v order).keywords kind)) ∧
      Collected (sources v order) (fun m => Scoped.onArch v.arch m.packages)
        (ofOrder v order).packages ∧
      (∀ kind keyword, keyword ∈ (ofOrder v order).keywords kind ↔
        ∃ m, (m ∈ order.instances ∨ m = v.subject) ∧ ∃ entry ∈ m.capabilities kind,
          entry.arches.includes v.arch = true ∧ entry.value = keyword) ∧
      (∀ library ∈ order.instances, ∀ r ∈ Scoped.onArch v.arch library.packages,
        ∀ own ∈ Scoped.onArch v.arch v.subject.packages,
          (∀ m ∈ order.instances, own ∉ Scoped.onArch v.arch m.packages) →
            Precedes (ofOrder v order).packages r own) := by
  have keywords := keywords_ofOrder v order
  have packages := collected_ofList (sources v order) fun m => Scoped.onArch v.arch m.packages
  rw [← packages_ofOrder] at packages
  refine ⟨?_, packages, ?_, ?_⟩
  · intro kind
    rw [keywords]
    exact collected_ofList _ _
  · intro kind keyword
    simp only [keywords, mem_ofList, List.mem_flatMap, sources, List.mem_append,
      List.mem_singleton, Scoped.mem_onArch]
  · intro library member r listed own listedOwn new
    exact packages.ordered order.instances [v.subject] rfl library member r listed v.subject
      List.mem_cons_self own listedOwn new

/-- The reference to any version of a package with a GUID of equal bytes. -/
def samplePackage (byte : UInt8) : Reference := ⟨⟨Vector.replicate 16 byte⟩, none⟩

/-- A library instance with two protocols, and a third one on another architecture. -/
def pathLibrary : Module where
  identity := ⟨"PathLib", ⟨Vector.replicate 16 1⟩, "1.0"⟩
  type := .base
  isLibrary := true
  packages := [⟨samplePackage 8, .every⟩]
  protocols := [⟨"DevicePath", .every⟩, ⟨"Legacy", .ofList [.ipf]⟩, ⟨"LoadedImage", .every⟩]

/-- A driver that links it, and is notified of a protocol that the instance declares. -/
def pathDriver : View where
  subject :=
    { identity := ⟨"Driver", ⟨Vector.replicate 16 0⟩, "1.0"⟩
      type := .dxeDriver
      packages := [⟨samplePackage 9, .every⟩, ⟨samplePackage 8, .every⟩]
      protocols := [⟨"BlockIo", .every⟩, ⟨"DevicePath", .every⟩]
      protocolNotifies := [⟨"LoadedImage", .every⟩] }
  arch := .x64

theorem pathDriver_collected :
    (ofOrder pathDriver ⟨[pathLibrary]⟩).protocols = ["DevicePath", "LoadedImage", "BlockIo"] ∧
      Precedes (ofOrder pathDriver ⟨[pathLibrary]⟩).packages (samplePackage 8)
        (samplePackage 9) := by
  refine ⟨by decide, ?_⟩
  exact (ofOrder_collected pathDriver ⟨[pathLibrary]⟩).2.2.2 pathLibrary (by decide) _ (by decide) _
    (by decide) (by decide)

end CapabilitySet

end FirmwareGlue
