import FirmwareGlue.Proofs.Glue.Counterpart
import FirmwareGlue.Proofs.Library.Order

/-!
# Declarations that are repeated

Packages, library classes and instances, keywords, entry points and unload handlers count where they
stand first, with everything that is made of them: the order of construction, the emission of
globals, the includes and the errors. Inserting copies of such declarations behind what they copy,
in a module and in any of the registered ones, therefore changes nothing in what is rendered.
-/

namespace FirmwareGlue

/-- A module with copies of declarations inserted, each behind the declaration that it copies, in
the lists where only the first places count. -/
structure Module.Repeated (m other : Module) : Prop where
  packages : Repeats m.packages other.packages
  libraryClasses : Repeats m.libraryClasses other.libraryClasses
  libraryInstances : Repeats m.libraryInstances other.libraryInstances
  ppis : Repeats m.ppis other.ppis
  ppiNotifies : Repeats m.ppiNotifies other.ppiNotifies
  protocols : Repeats m.protocols other.protocols
  protocolNotifies : Repeats m.protocolNotifies other.protocolNotifies
  guids : Repeats m.guids other.guids
  entryPoints : Repeats m.entryPoints other.entryPoints
  unloadImages : Repeats m.unloadImages other.unloadImages
  rest : other = { m with
    packages := other.packages
    libraryClasses := other.libraryClasses
    libraryInstances := other.libraryInstances
    ppis := other.ppis
    ppiNotifies := other.ppiNotifies
    protocols := other.protocols
    protocolNotifies := other.protocolNotifies
    guids := other.guids
    entryPoints := other.entryPoints
    unloadImages := other.unloadImages }

theorem Module.Repeated.refl (m : Module) : m.Repeated m := by
  constructor
  all_goals first
    | exact .refl
    | rfl

/-- A workspace with copies of declarations inserted in its modules. -/
structure Workspace.Repeated (ws other : Workspace) : Prop where
  packages : other.packages = ws.packages
  modules : List.Forall₂ Module.Repeated ws.modules.toList other.modules.toList

theorem Scoped.onArch_same {α : Type} [DecidableEq α] {first second : List (Scoped α)}
    (h : Repeats first second) (arch : Arch) :
    FirstSeen.Same (onArch arch second) (onArch arch first) :=
  ((FirstSeen.same_of_repeats h).symm.filter _).map _

theorem View.symbols_of_repeats {first second : List String} (h : Repeats first second) :
    symbols second = symbols first :=
  (FirstSeen.same_of_repeats h).symm.filter _

/-- A repeated declaration does not show. -/
theorem Module.Repeated.alike {m other : Module} (h : m.Repeated other) (arch : Arch) :
    View.Alike ⟨m, arch⟩ ⟨other, arch⟩ where
  arch := rfl
  packages := Scoped.onArch_same h.packages arch
  libraryClasses _ := ((Scoped.onArch_same h.libraryClasses arch).filter _).map _
  libraryInstances := Scoped.onArch_same h.libraryInstances arch
  ppis := Scoped.onArch_same h.ppis arch
  ppiNotifies := Scoped.onArch_same h.ppiNotifies arch
  protocols := Scoped.onArch_same h.protocols arch
  protocolNotifies := Scoped.onArch_same h.protocolNotifies arch
  guids := Scoped.onArch_same h.guids arch
  entryPoints := View.symbols_of_repeats h.entryPoints
  unloadImages := View.symbols_of_repeats h.unloadImages
  rest := h.rest

theorem Workspace.Repeated.counterpart {ws other : Workspace} (h : ws.Repeated other)
    (arch : Arch) : ws.Counterpart Module.Repeated arch other where
  alike _ _ repeated := repeated.alike arch
  packages := h.packages
  modules := h.modules

namespace Rendering

/-- Copies of declarations, inserted behind what they copy in a module and in any registered ones,
change neither what the module is rendered to nor the error that it fails with. -/
theorem unchanged_by_repetition {ws other : Workspace} {m repeated : Module} (arch : Arch)
    (config : Config) (fragments : PcdFragments) (registered : ws.Repeated other)
    (own : m.Repeated repeated) :
    ofView other config ⟨repeated, arch⟩ fragments = ofView ws config ⟨m, arch⟩ fragments :=
  ofView_counterpart (registered.counterpart arch) (own.alike arch) config fragments

/-- A PEI module that links some instances and has some entry points. -/
def samplePeim (links : List UInt8) (entries : List String) : Module :=
  { LibraryOrder.sampleInstance "Sample" 0 links [] with
    type := .peim
    isLibrary := false
    entryPoints := entries }

/-- Two instances; the first uses a library class, and the second produces the listed ones. -/
def classPair (produced : List ClassUse) : Workspace :=
  [LibraryOrder.sampleInstance "Debug" 1 [] [⟨"Print", .consumed⟩],
    LibraryOrder.sampleInstance "Print" 2 [] produced].foldl Workspace.addModule .empty

theorem samplePeim_repeated :
    (samplePeim [1, 2] ["Start"]).Repeated (samplePeim [1, 2, 1] ["Start", "Start"]) := by
  constructor
  case libraryInstances => exact .again _ _
  case entryPoints => exact .again _ _
  all_goals first
    | exact .refl
    | rfl

theorem classPair_repeated : (classPair [⟨"Print", .produced⟩]).Repeated
    (classPair [⟨"Print", .produced⟩, ⟨"Print", .produced⟩]) where
  packages := rfl
  modules := by
    refine .cons (.refl _) (.cons ?_ .nil)
    constructor
    case libraryClasses => exact .again _ _
    all_goals first
      | exact .refl
      | rfl

theorem samplePeim_unchanged :
    (classPair [⟨"Print", .produced⟩]).Repeated
        (classPair [⟨"Print", .produced⟩, ⟨"Print", .produced⟩]) ∧
      (samplePeim [1, 2] ["Start"]).Repeated (samplePeim [1, 2, 1] ["Start", "Start"]) ∧
      (∃ r, ofView (classPair [⟨"Print", .produced⟩]) {} ⟨samplePeim [1, 2] ["Start"], .x64⟩ {} =
        .ok r) ∧
      ofView (classPair [⟨"Print", .produced⟩, ⟨"Print", .produced⟩]) {}
          ⟨samplePeim [1, 2, 1] ["Start", "Start"], .x64⟩ {} =
        ofView (classPair [⟨"Print", .produced⟩]) {} ⟨samplePeim [1, 2] ["Start"], .x64⟩ {} := by
  refine ⟨classPair_repeated, samplePeim_repeated, ?_,
    unchanged_by_repetition .x64 {} {} classPair_repeated samplePeim_repeated⟩
  rw [exists_ok_iff_isSome]
  decide +kernel

end Rendering

end FirmwareGlue
