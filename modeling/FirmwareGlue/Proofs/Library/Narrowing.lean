import FirmwareGlue.Proofs.Library.Counterpart

/-!
# Narrowing to an architecture

Narrowing a module to an architecture erases the declarations that do not apply to it, and lets the
remaining ones apply to every architecture. A view for the architecture shows the same before and
after, so the narrowed workspace is a counterpart of the workspace: its modules are met, depend on
each other and are ordered as before; only the modules themselves are narrowed.
-/

namespace FirmwareGlue

namespace Scoped

variable {α : Type}

/-- The declarations that apply to an architecture, with nothing said on where they apply. -/
def narrow (arch : Arch) (list : List (Scoped α)) : List (Scoped α) :=
  (list.filter fun entry => entry.arches.includes arch).map fun entry =>
    { entry with arches := .every }

theorem onArch_narrow (arch : Arch) (list : List (Scoped α)) :
    onArch arch (narrow arch list) = onArch arch list := by
  simp [onArch, narrow, List.filter_map, Function.comp_def]

theorem same_narrow [DecidableEq α] (arch : Arch) (list : List (Scoped α)) :
    FirstSeen.Same (onArch arch (narrow arch list)) (onArch arch list) := by
  rw [onArch_narrow]
  exact .refl _

end Scoped

/-- A module with the declarations that apply to an architecture only. -/
def Module.narrow (arch : Arch) (m : Module) : Module :=
  { m with
    packages := Scoped.narrow arch m.packages
    libraryClasses := Scoped.narrow arch m.libraryClasses
    libraryInstances := Scoped.narrow arch m.libraryInstances
    ppis := Scoped.narrow arch m.ppis
    ppiNotifies := Scoped.narrow arch m.ppiNotifies
    protocols := Scoped.narrow arch m.protocols
    protocolNotifies := Scoped.narrow arch m.protocolNotifies
    guids := Scoped.narrow arch m.guids }

/-- A view for the architecture shows the same of a narrowed module. -/
theorem Module.alike_narrow (arch : Arch) (m : Module) :
    View.Alike ⟨m, arch⟩ ⟨m.narrow arch, arch⟩ where
  arch := rfl
  packages := Scoped.same_narrow arch _
  libraryClasses _ := ((Scoped.same_narrow arch _).filter _).map _
  libraryInstances := Scoped.same_narrow arch _
  ppis := Scoped.same_narrow arch _
  ppiNotifies := Scoped.same_narrow arch _
  protocols := Scoped.same_narrow arch _
  protocolNotifies := Scoped.same_narrow arch _
  guids := Scoped.same_narrow arch _
  entryPoints := rfl
  unloadImages := rfl
  rest := rfl

namespace View

variable (v : View)

def narrow : View := ⟨v.subject.narrow v.arch, v.arch⟩

theorem isLibrary_narrow : v.narrow.isLibrary = v.isLibrary := rfl

theorem alike_narrow : v.Alike v.narrow := v.subject.alike_narrow v.arch

end View

namespace Workspace

variable (ws : Workspace) (arch : Arch)

def narrow : Workspace :=
  ws.modules.toList.foldl (fun narrowed m => narrowed.addModule (m.narrow arch))
    { packages := ws.packages }

theorem counterpart_narrow :
    ws.Counterpart (fun m n => m.narrow arch = n) arch (ws.narrow arch) where
  alike := by
    rintro m _ rfl
    exact m.alike_narrow arch
  packages := (foldl_addModule (Module.narrow arch) _ _).1
  modules := by
    have narrowed : (ws.narrow arch).modules.toList = ws.modules.toList.map (Module.narrow arch) :=
      (foldl_addModule (Module.narrow arch) _ _).2
    rw [narrowed, List.forall₂_map_right_iff]
    exact List.forall₂_same.2 fun _ _ => rfl

end Workspace

namespace LibraryOrder

def narrow (arch : Arch) (order : LibraryOrder) : LibraryOrder :=
  ⟨order.instances.map (Module.narrow arch)⟩

theorem ofView_narrow (ws : Workspace) (v : View) :
    ofView (ws.narrow v.arch) v.narrow = (ofView ws v).map (narrow v.arch) := by
  refine ((ofView_counterpart (ws.counterpart_narrow v.arch) v.alike_narrow).imp ?_).eq_map
  intro order narrowed all
  rw [← List.forall₂_map_left_iff, List.forall₂_eq_eq_eq] at all
  rw [narrow, all]

end LibraryOrder

end FirmwareGlue
