import FirmwareGlue.Proofs.Glue.Counterpart
import FirmwareGlue.Proofs.Library.Narrowing

/-!
# Rendering for one architecture

Rendering reads a module and its library instances for the architecture only. So it does not matter
which other declarations there are, nor which other architectures a declaration applies to: after
all modules have been narrowed to the architecture, the module is rendered to the same files or
fails with the same error.
-/

namespace FirmwareGlue

theorem Header.ofView_narrow (ws : Workspace) (v : View) (fragment : String) :
    ofView (ws.narrow v.arch) v.narrow fragment = ofView ws v fragment :=
  ofView_counterpart (ws.counterpart_narrow v.arch) v.alike_narrow fragment

theorem Source.ofView_narrow (ws : Workspace) (v : View) (config : Config) (fragment : String) :
    ofView (ws.narrow v.arch) v.narrow config fragment = ofView ws v config fragment :=
  ofView_counterpart (ws.counterpart_narrow v.arch) v.alike_narrow config fragment

/-- Erasing the declarations that do not apply to an architecture, from a module and from all
registered ones, and letting the remaining ones apply to every architecture, changes neither what
the module is rendered to for the architecture nor the error that it fails with; and the order of
construction has the same instances, narrowed, or there is none for the same reason. -/
theorem Rendering.unchanged_by_narrowing (ws : Workspace) (config : Config) (v : View)
    (fragments : PcdFragments) :
    ofView (ws.narrow v.arch) config v.narrow fragments = ofView ws config v fragments ∧
      LibraryOrder.ofView (ws.narrow v.arch) v.narrow =
        (LibraryOrder.ofView ws v).map (LibraryOrder.narrow v.arch) := by
  refine ⟨?_, LibraryOrder.ofView_narrow ws v⟩
  rw [ofView, ofView, Header.ofView_narrow, sourceOf, sourceOf, View.isLibrary_narrow,
    Source.ofView_narrow]

end FirmwareGlue
