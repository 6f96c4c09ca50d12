import FirmwareGlue.Glue.Rendering
import FirmwareGlue.Proofs.Library.Counterpart
import FirmwareGlue.Proofs.Workspace.Search

/-!
# Rendering modules that look alike

Rendering reads a module and its library instances through views, and collects what it reads at
first places. So a module that looks like another one, in the counterpart of its workspace, is
rendered to the same files, or fails with the same error.
-/

namespace FirmwareGlue

open Library

variable {R : Module → Module → Prop} {ws other : Workspace} {v v' : View}

namespace Workspace

variable {α : Type} {answer : Package → Option α} {first second : List Reference}

theorem search_concat (ws : Workspace) (answer : Package → Option α) (packages : List Reference)
    (r : Reference) :
    ws.search answer (packages ++ [r]) =
      match ws.search answer packages with
      | .ok none => ws.search answer [r]
      | result => result := by
  induction packages with
  | nil => rfl
  | cons p rest ih =>
      rw [List.cons_append]
      rcases silent_or_answers_or_missing ws answer p with silent | ⟨x, answers⟩ | missing
      · rw [search_cons_of_silent silent, search_cons_of_silent silent, ih]
      · rw [search_cons_of_answers answers, search_cons_of_answers answers]
      · rw [search_cons_of_missing missing, search_cons_of_missing missing]

/-- A package that has had no answer has none when it is asked again. -/
theorem search_same (ws : Workspace) (answer : Package → Option α)
    (h : FirstSeen.Same first second) : ws.search answer first = ws.search answer second := by
  apply h.shown
  · intro packages r member
    have said := search_spec ws answer packages
    rw [search_concat]
    cases found : ws.search answer packages with
    | error e => rfl
    | ok result =>
        cases result with
        | some x => rfl
        | none =>
            rw [found] at said
            exact search_cons_of_silent (said r member)
  · intro packages packages' r same
    rw [search_concat, search_concat, same]

theorem search_counterpart {arch : Arch} (h : ws.Counterpart R arch other) :
    other.search answer = ws.search answer := by
  funext packages
  induction packages with
  | nil => rfl
  | cons r rest ih => rw [search, search, requirePackage_counterpart h, ih]

end Workspace

namespace CapabilitySet

theorem absorb_alike (set : CapabilitySet) (look : v.Alike v') : set.absorb v' = set.absorb v := by
  have callbacks : v'.subject.virtualAddressMapCallbacks = v.subject.virtualAddressMapCallbacks ∧
      v'.subject.exitBootServicesCallbacks = v.subject.exitBootServicesCallbacks := by
    rw [look.rest]
    exact ⟨rfl, rfl⟩
  simp only [absorb, (look.ppis.append look.ppiNotifies).addAll,
    (look.protocols.append look.protocolNotifies).addAll, look.guids.addAll, look.packages.addAll,
    callbacks]

theorem foldl_absorb_counterpart (h : ws.Counterpart R v.arch other) (look : v.Alike v')
    {first second : List Module} (all : List.Forall₂ R first second) (set : CapabilitySet) :
    second.foldl (fun set m => set.absorb (v'.scopedTo m)) set =
      first.foldl (fun set m => set.absorb (v.scopedTo m)) set := by
  induction all generalizing set with
  | nil => rfl
  | cons related _ ih =>
      rw [List.foldl_cons, List.foldl_cons, absorb_alike set (scopedTo_counterpart h look related)]
      exact ih _

/-- The counterparts of the instances pull in what the instances do. -/
theorem ofOrder_counterpart (h : ws.Counterpart R v.arch other) (look : v.Alike v')
    {order order' : LibraryOrder} (all : List.Forall₂ R order.instances order'.instances) :
    ofOrder v' order' = ofOrder v order := by
  have hooks {symbolOf : View → Option String} {first second : List Module}
      (all : List.Forall₂ R first second)
      (same : ∀ v v' : View, v.Alike v' → symbolOf v' = symbolOf v) :
      second.filterMap (fun m => hook symbolOf (v'.scopedTo m)) =
        first.filterMap (fun m => hook symbolOf (v.scopedTo m)) := by
    refine (forall₂_filterMap_eq all fun m n related => ?_).symm
    have look := scopedTo_counterpart h look related
    rw [hook, hook, same _ _ look, look.type]
  rw [ofOrder, ofOrder, absorb_alike _ look, LibraryOrder.destruction, LibraryOrder.destruction,
    hooks all fun _ _ look => look.constructor,
    hooks (List.rel_reverse all) fun _ _ look => look.destructor]
  exact congrArg (absorb · v) (foldl_absorb_counterpart h look all _)

theorem resolve_counterpart {arch : Arch} (h : ws.Counterpart R arch other) (set : CapabilitySet) :
    set.resolve other = set.resolve ws := by
  simp only [resolve, requireDeclaration, Workspace.lookup, Workspace.search_counterpart h]

end CapabilitySet

namespace Glue

theorem driverModelItems_alike (look : v.Alike v') (honorPcds : Bool) :
    driverModelItems v' honorPcds = driverModelItems v honorPcds := by
  have same : v'.driverModel = v.driverModel ∧ v'.pcdEnabled = v.pcdEnabled := by
    refine ⟨?_, funext fun name => ?_⟩
    · rw [View.driverModel, View.driverModel, look.rest]
    · rw [View.pcdEnabled, View.pcdEnabled, look.rest]
      rfl
  have presence : present v' honorPcds = present v honorPcds := by
    funext g
    simp only [present, switchedOff, same]
  have entries : rowEntry v' honorPcds = rowEntry v honorPcds := by
    funext row g
    simp only [rowEntry, presence, same]
  simp only [driverModelItems, bindingExterns, bitmask, bindingRows, presence, entries, same]

theorem moduleItems_alike (look : v.Alike v') (config : Config) (set : CapabilitySet)
    (resolution : Resolution) :
    moduleItems v' config set resolution = moduleItems v config set resolution := by
  have entries : entryPointsOf v' config = entryPointsOf v config := by
    rw [entryPointsOf, entryPointsOf, look.type, look.entryPoints, look.unloadImages]
  rw [moduleItems, moduleItems, driverModelItems_alike look, entries, look.type, look.identity]

theorem includes_counterpart (h : ws.Counterpart R v.arch other) (look : v.Alike v') :
    includes other v' = includes ws v := by
  have types : other.packageHeader = ws.packageHeader := by
    funext r type
    rw [Workspace.packageHeader, Workspace.packageHeader, requirePackage_counterpart h]
  have classes : requireClassHeader other v'.packages = requireClassHeader ws v.packages := by
    funext name
    rw [requireClassHeader, requireClassHeader, Workspace.libraryClassHeader,
      Workspace.libraryClassHeader, Workspace.search_counterpart h,
      Workspace.search_same ws _ look.packages]
  have names := (look.libraryClasses .consumed).append (look.libraryClasses .produced)
  rw [includes, includes, types, classes, look.type, look.packages.mapM_bind]
  · congr 1
    funext typeHeaders
    apply names.mapM_bind
    intro classHeaders
    exact congrArg Except.ok (FirstSeen.Same.append (.refl _) (FirstSeen.ofList_ofList _))
  · intro typeHeaders
    dsimp only
    congr 1
    funext classHeaders
    refine congrArg Except.ok (FirstSeen.Same.append ?_ (.refl _))
    exact FirstSeen.Same.filterMap (FirstSeen.ofList_ofList typeHeaders) id

end Glue

theorem Header.ofView_counterpart (h : ws.Counterpart R v.arch other) (look : v.Alike v')
    (fragment : String) : ofView other v' fragment = ofView ws v fragment := by
  have same : Glue.includeGuard v'.subject = Glue.includeGuard v.subject ∧
      v'.subject.specVersions = v.subject.specVersions ∧
      v'.subject.flashMap = v.subject.flashMap := by
    rw [look.rest]
    exact ⟨rfl, rfl, rfl⟩
  simp only [ofView, Glue.includes_counterpart h look, same]

theorem Source.ofView_counterpart (h : ws.Counterpart R v.arch other) (look : v.Alike v')
    (config : Config) (fragment : String) :
    ofView other v' config fragment = ofView ws v config fragment := by
  refine (Agree.eq ?_).symm
  refine (LibraryOrder.ofView_counterpart h look).bind fun order order' all => ?_
  simp only [CapabilitySet.ofOrder_counterpart h look all, CapabilitySet.resolve_counterpart h,
    Glue.moduleItems_alike look]
  exact .refl _

namespace Rendering

/-- A module is rendered like one that looks like it, in a workspace where every module looks like
the one in its place. -/
theorem ofView_counterpart (h : ws.Counterpart R v.arch other) (look : v.Alike v') (config : Config)
    (fragments : PcdFragments) :
    ofView other config v' fragments = ofView ws config v fragments := by
  rw [ofView, ofView, Header.ofView_counterpart h look, sourceOf, sourceOf, look.isLibrary,
    Source.ofView_counterpart h look]

end Rendering

end FirmwareGlue
