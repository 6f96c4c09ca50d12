import FirmwareGlue.Proofs.Capability.FirstSymbols
import FirmwareGlue.Proofs.Glue.Functions
import FirmwareGlue.Proofs.Library.Counterpart
import Mathlib.Data.List.Nodup

/-!
# The GUID globals of a module

The keywords that a module pulls in are resolved one after another, and the source defines what they
resolve to behind the module's own identifier. Resolution is said to agree with a reference that
knows of no search and no collection: of what the keywords resolve to, in their order, it has the
entries whose symbol has not occurred before.
-/

namespace FirmwareGlue

open Code Resolution

theorem Resolution.eq_of_ofKind {r s : Resolution} (same : ∀ kind, r.ofKind kind = s.ofKind kind) :
    r = s := by
  obtain ⟨protocols, ppis, guids⟩ := r
  obtain rfl : protocols = s.protocols := same .protocol
  obtain rfl : ppis = s.ppis := same .ppi
  obtain rfl : guids = s.guids := same .guid
  rfl

namespace CapabilitySet

variable {ws : Workspace} {set : CapabilitySet} {resolution : Resolution}
variable {entries : List (CapabilityKind × ResolvedGuid)}

theorem requests_eq (set : CapabilitySet) : set.requests =
    set.protocols.map (.protocol, ·) ++ set.ppis.map (.ppi, ·) ++ set.guids.map (.guid, ·) := by
  simp [requests, CapabilityKind.emissionOrder, keywords]

theorem mapM_global_ok_iff : set.requests.mapM (global ws set.packages) = .ok entries ↔
    List.Forall₂ (Resolves ws set.packages) set.requests entries := by
  rw [mapM_ok_iff]
  simp only [global_ok_iff]

/-- The keywords come kind after kind. -/
theorem requests_ordered (set : CapabilitySet) :
    set.requests.Pairwise fun a b => a.1.place ≤ b.1.place := by
  have alike (kind : CapabilityKind) (list : List String) :
      (list.map (kind, ·)).Pairwise fun a b => a.1.place ≤ b.1.place :=
    List.pairwise_map.2 (List.pairwise_of_forall fun _ _ => Nat.le_refl _)
  have guidLast (kind : CapabilityKind) : kind.place ≤ CapabilityKind.guid.place := by
    cases kind <;> decide
  rw [requests_eq, List.pairwise_append, List.pairwise_append]
  refine ⟨⟨alike _ _, alike _ _, ?_⟩, alike _ _, ?_⟩
  · intro a first b _
    obtain ⟨_, _, rfl⟩ := List.mem_map.1 first
    exact Nat.zero_le _
  · intro a _ b last
    obtain ⟨_, _, rfl⟩ := List.mem_map.1 last
    exact guidLast a.1

/-- What the keywords resolve to comes in the order of their kinds. -/
theorem ordered_of_resolves
    (each : List.Forall₂ (Resolves ws set.packages) set.requests entries) :
    entries.Pairwise fun a b => a.1.place ≤ b.1.place := by
  have kind : ∀ request entry, Resolves ws set.packages request entry →
      request.1.place = entry.1.place := by
    rintro request entry ⟨d, _, rfl⟩
    rfl
  have places : (entries.map fun entry => entry.1.place).Pairwise (· ≤ ·) := by
    rw [← forall₂_map_eq each kind, List.pairwise_map]
    exact requests_ordered set
  rwa [List.pairwise_map] at places

/-- A resolution by the reference: the keywords resolve one by one, and of what they resolve to,
the entries are kept whose symbol has not occurred before, each of them for the kind of its
keyword. -/
def HasResolution (ws : Workspace) (set : CapabilitySet) (resolution : Resolution) : Prop :=
  ∃ entries, List.Forall₂ (Resolves ws set.packages) set.requests entries ∧
    resolution.toList = (firstOfSymbol entries).map Prod.snd ∧
    ∀ kind, resolution.ofKind kind =
      ((firstOfSymbol entries).filter fun entry => entry.1 = kind).map Prod.snd

theorem resolve_ok_iff : set.resolve ws = .ok resolution ↔ HasResolution ws set resolution := by
  simp only [resolve_eq, bind_ok_iff, mapM_global_ok_iff, Except.ok.injEq]
  constructor
  · rintro ⟨entries, each, rfl⟩
    exact ⟨entries, each, toList_collect (ordered_of_resolves each), ofKind_collect entries⟩
  · rintro ⟨entries, each, _, kinds⟩
    refine ⟨entries, each, ?_⟩
    have same (kind : CapabilityKind) :
        (collect entries).ofKind kind = resolution.ofKind kind := by
      rw [ofKind_collect, kinds]
    exact eq_of_ofKind same

/-- The symbol of every keyword is there once, whatever its kind. -/
theorem symbol_once (resolved : set.resolve ws = .ok resolution)
    {request : CapabilityKind × String} (listed : request ∈ set.requests) :
    ∃ d, ws.FirstAnswer (declarationIn request) set.packages d ∧
      (resolution.toList.map ResolvedGuid.symbol).count d.symbol = 1 := by
  obtain ⟨d, first⟩ := exists_resolve_iff.1 ⟨resolution, resolved⟩ request listed
  obtain ⟨entries, each, all, _⟩ := resolve_ok_iff.1 resolved
  have member : (request.1, ⟨request.2, d.symbol, d.guid⟩) ∈ entries :=
    (mem_results_iff (mapM_global_ok_iff.2 each)).2
      ⟨request, listed, global_ok_iff.2 ⟨d, first, rfl⟩⟩
  have symbols : resolution.toList.map ResolvedGuid.symbol = symbolsOf (firstOfSymbol entries) := by
    rw [all, List.map_map]
    rfl
  refine ⟨d, first, ?_⟩
  rw [symbols]
  apply List.count_eq_one_of_mem (nodup_symbolsOf_firstOfSymbol entries)
  rw [mem_symbolsOf_firstOfSymbol]
  exact List.mem_map_of_mem (f := fun entry => entry.2.symbol) member

/-- A set fails to resolve exactly if a package is missing before one declares some keyword, or
none of the packages does. -/
theorem exists_resolve_error_iff : (∃ e, set.resolve ws = .error e) ↔
    ∃ request ∈ set.requests,
      (∃ e, ws.FirstMissing (declarationIn request) set.packages e) ∨
        ∀ r ∈ set.packages, ws.Silent (declarationIn request) r := by
  have undeclared (request : CapabilityKind × String) :
      ¬ Declared ws set.packages request ↔
        (∃ e, ws.FirstMissing (declarationIn request) set.packages e) ∨
          ∀ r ∈ set.packages, ws.Silent (declarationIn request) r := by
    rw [not_declared_iff]
    simp only [Undeclared, exists_or, exists_and_left, exists_eq, and_true]
  have fails : (∃ e, set.resolve ws = .error e) ↔
      ¬ ∃ resolution, set.resolve ws = .ok resolution := by
    simp only [exists_ok_iff, not_forall, not_not]
  rw [fails, exists_resolve_iff]
  simp only [not_forall, ← undeclared, exists_prop]

end CapabilitySet

namespace Code

@[simp] def Item.isGuidGlobal : Item → Bool
  | guidGlobal _ _ => true
  | _ => false

/-- The text of a module's own identifier, with the empty line that follows. -/
def callerText (type : String) (own : Guid) : String :=
  "GLOBAL_REMOVE_IF_UNREFERENCED " ++ type ++ " gEfiCallerIdGuid = \x7b" ++ own.initializer
    ++ "\x7d;\n\n"

def globalText (g : ResolvedGuid) : String :=
  "GLOBAL_REMOVE_IF_UNREFERENCED EFI_GUID " ++ g.symbol ++ " = \x7b " ++ g.guid.initializer
    ++ " \x7d;\n"

theorem itemsText_callerId (type : String) (own : Guid) :
    itemsText [.callerId type own, .blank] = callerText type own := by
  have close : "\x7d;\n" ++ "\n" = "\x7d;\n\n" := rfl
  rw [itemsText_cons, itemsText_blank, Item.text, String.append_assoc, close]
  rfl

theorem itemsText_guidGlobals (globals : List ResolvedGuid) :
    itemsText (globals.map fun g => .guidGlobal g.symbol g.guid) =
      concat (globals.map globalText) := by
  rw [itemsText, List.map_map]
  rfl

end Code

/-- A source has the GUID globals of a module behind the module's own identifier, and no other
ones. -/
structure Source.DefinesGlobals (source : Source) (type : String) (own : Guid)
    (globals : List ResolvedGuid) : Prop where
  items : ∃ before after,
    source.items = before ++ [.callerId type own, .blank] ++
      globals.map (fun g => .guidGlobal g.symbol g.guid) ++ after ∧
    ∀ item ∈ before ++ after, item.isGuidGlobal = false
  text : ∃ front back,
    source.text = front ++ callerText type own ++ concat (globals.map globalText) ++ back

namespace Glue

variable {items : List Item}

/-- Some items have no global of a GUID. -/
def NoGlobal (items : List Item) : Prop :=
  ∀ item ∈ items, item.isGuidGlobal = false

theorem NoGlobal.append {more : List Item} (first : NoGlobal items) (second : NoGlobal more) :
    NoGlobal (items ++ more) :=
  List.forall_mem_append.2 ⟨first, second⟩

end Glue

open Glue

/-- The text of a source is cut where its items are. -/
theorem Source.definesGlobals_of_split {source : Source} {type : String} {own : Guid}
    {globals : List ResolvedGuid} {before after : List Item}
    (split : source.items = before ++ [.callerId type own, .blank] ++
      globals.map (fun g => .guidGlobal g.symbol g.guid) ++ after)
    (first : NoGlobal before) (last : NoGlobal after) :
    source.DefinesGlobals type own globals where
  items := ⟨before, after, split, first.append last⟩
  text := by
    refine ⟨notice sourceName ++ "#include <AutoGen.h>\n\n" ++ itemsText before,
      itemsText after ++ source.fragment, ?_⟩
    rw [Source.text, split]
    simp only [itemsText_append, itemsText_callerId, itemsText_guidGlobals, String.append_assoc]

/-- The GUID globals of a rendered source are what the keywords of the module resolve to. -/
theorem Rendering.definesGlobals {ws : Workspace} {config : Config} {v : View}
    {fragments : PcdFragments} {r : Rendering} (rendered : ofView ws config v fragments = .ok r)
    (image : v.isLibrary = false) :
    ∃ order resolution, LibraryOrder.ofView ws v = .ok order ∧
      (CapabilitySet.ofOrder v order).resolve ws = .ok resolution ∧
      r.source.DefinesGlobals v.type.shape.callerIdType v.subject.identity.guid
        resolution.toList := by
  obtain ⟨order, resolution, model, entries, ordered, resolved, modelMade, entriesMade, items⟩ :=
    source_made rendered image
  refine ⟨order, resolution, ordered, resolved, ?_⟩
  obtain ⟨close, listed, blank⟩ : ∃ close, guidItems resolution =
      resolution.toList.map (fun g => .guidGlobal g.symbol g.guid) ++ close ∧ NoGlobal close := by
    simp only [guidItems]
    split
    case isTrue empty => exact ⟨[], by simpa using empty, by simp [NoGlobal]⟩
    case isFalse => exact ⟨[.blank], rfl, by simp [NoGlobal]⟩
  have split : r.source.items = (model ++ lifecycleItems v.type.shape (.ofOrder v order)) ++
      [.callerId v.type.shape.callerIdType v.subject.identity.guid, .blank] ++
      resolution.toList.map (fun g => .guidGlobal g.symbol g.guid) ++
      (close ++ libraryItems v.type.shape (.ofOrder v order) ++ entries) := by
    rw [items, listed]
    simp only [List.append_assoc]
  have table : NoGlobal model :=
    forall_driverModelItems modelMade rfl (fun _ _ => rfl) (fun _ _ => rfl) (fun _ => rfl)
  have lifecycle : NoGlobal (lifecycleItems v.type.shape (.ofOrder v order)) :=
    forall_lifecycleItems (p := (·.isGuidGlobal = false)) rfl (fun _ => rfl) (fun _ => rfl)
      (fun _ _ => rfl) _ _
  have libraries : NoGlobal (libraryItems v.type.shape (.ofOrder v order)) :=
    forall_libraryItems (fun _ _ => rfl) (fun _ _ => rfl) _ _
  have dispatchers : NoGlobal entries :=
    forall_entryItems rfl (fun _ _ => rfl) (fun _ _ _ => rfl) (fun _ _ => rfl) (fun _ _ _ => rfl)
      entriesMade
  exact Source.definesGlobals_of_split split (table.append lifecycle)
    ((blank.append libraries).append dispatchers)

/-- What it means to resolve the keywords of a set in a workspace: the result is that of the
reference, in which every symbol is there once, and the error is that of the first keyword without
a declaration. -/
structure CapabilitySet.ResolutionMeaning (ws : Workspace) (set : CapabilitySet) : Prop where
  order : set.requests =
    set.protocols.map (.protocol, ·) ++ set.ppis.map (.ppi, ·) ++ set.guids.map (.guid, ·)
  success : ∀ resolution, set.resolve ws = .ok resolution ↔ set.HasResolution ws resolution
  once : ∀ resolution, set.resolve ws = .ok resolution → ∀ request ∈ set.requests,
    ∃ d, ws.FirstAnswer (declarationIn request) set.packages d ∧
      (resolution.toList.map ResolvedGuid.symbol).count d.symbol = 1
  failure : ∀ e, set.resolve ws = .error e ↔ set.FirstUndeclared ws e
  fails : (∃ e, set.resolve ws = .error e) ↔ ∃ request ∈ set.requests,
    (∃ e, ws.FirstMissing (declarationIn request) set.packages e) ∨
      ∀ r ∈ set.packages, ws.Silent (declarationIn request) r

/-- Resolution agrees with the reference, and the GUID globals of a rendered source, which stand
behind the module's own identifier, are the resolved ones of the module in their order. -/
theorem CapabilitySet.resolves_by_reference (set : CapabilitySet) (ws : Workspace) :
    set.ResolutionMeaning ws ∧
      ∀ config v fragments r, Rendering.ofView ws config v fragments = .ok r →
        v.isLibrary = false →
          ∃ order resolution, LibraryOrder.ofView ws v = .ok order ∧
            (ofOrder v order).resolve ws = .ok resolution ∧
            r.source.DefinesGlobals v.type.shape.callerIdType v.subject.identity.guid
              resolution.toList := by
  constructor
  · exact {
      order := requests_eq set
      success := fun _ => resolve_ok_iff
      once := fun _ resolved _ listed => symbol_once resolved listed
      failure := fun _ => resolve_error_iff
      fails := exists_resolve_error_iff }
  · intro config v fragments r rendered image
    exact Rendering.definesGlobals rendered image

/-- A package in which keywords of two kinds share a symbol. -/
def sharingPackage : Package :=
  let guid (byte : UInt8) : Guid := ⟨Vector.replicate 16 byte⟩
  (({ identity := ⟨"Core", guid 8, "1.0"⟩ : Package }.declare .protocol "Bus"
    ⟨"gBus", guid 1⟩).declare .ppi "BusPpi" ⟨"gBus", guid 2⟩).declare .guid "Token"
    ⟨"gToken", guid 3⟩

/-- A driver that asks for all keywords of the package. -/
def sharingDriver : View where
  subject := {
    identity := ⟨"Driver", ⟨Vector.replicate 16 0⟩, "1.0"⟩
    type := .dxeDriver
    packages := [⟨⟨⟨Vector.replicate 16 8⟩, none⟩, .every⟩]
    protocols := [⟨"Bus", .every⟩]
    ppis := [⟨"BusPpi", .every⟩]
    guids := [⟨"Token", .every⟩] }
  arch := .x64

/-- The symbol is defined for the protocol, and the keyword of the other kind adds nothing. -/
theorem CapabilitySet.shared_symbol_defined_once :
    ∃ r order, ∃ resolution : Resolution,
      Rendering.ofView (.addPackage .empty sharingPackage) {} sharingDriver {} = .ok r ∧
      LibraryOrder.ofView (.addPackage .empty sharingPackage) sharingDriver = .ok order ∧
      (ofOrder sharingDriver order).ResolutionMeaning (.addPackage .empty sharingPackage) ∧
      resolution.toList.map ResolvedGuid.keyword = ["Bus", "Token"] ∧
      r.source.DefinesGlobals "EFI_GUID" ⟨Vector.replicate 16 0⟩ resolution.toList := by
  obtain ⟨r, rendered⟩ : ∃ r,
      Rendering.ofView (.addPackage .empty sharingPackage) {} sharingDriver {} = .ok r := by
    rw [exists_ok_iff_isSome]
    decide +kernel
  obtain ⟨order, resolution, ordered, resolved, defined⟩ :=
    (resolves_by_reference {} (.addPackage .empty sharingPackage)).2 _ _ _ r rendered rfl
  have known : (LibraryOrder.ofView (.addPackage .empty sharingPackage) sharingDriver >>= fun o =>
      (ofOrder sharingDriver o).resolve (.addPackage .empty sharingPackage)).toOption.map
        (fun found => found.toList.map ResolvedGuid.keyword) = some ["Bus", "Token"] := by
    decide +kernel
  rw [ordered, ok_bind, resolved] at known
  exact ⟨r, order, resolution, rendered, ordered, (resolves_by_reference _ _).1,
    Option.some.inj known, defined⟩

end FirmwareGlue
