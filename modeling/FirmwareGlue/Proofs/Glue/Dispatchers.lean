import FirmwareGlue.Proofs.Glue.Execution

/-!
# Where the functions of a source stand

What is made for entry points and unload handlers stands at the end of a source. Of what stands
before it, only the dispatchers of library hooks are functions, and nothing is a variable of the
file. So a function that is made for entry points and unload handlers is the one that its name means
in the whole source.
-/

namespace FirmwareGlue

open Code

namespace Glue

/-- Items before those of entry points and unload handlers, which define no function of a name that
is used there, and no variable. -/
structure Preamble (items : List Item) : Prop where
  noFunction : ∀ d ∈ definitions items,
    d.head.name ∉ [entryDispatcher, exitFunction, unloadDispatcher]
  noVariable : ∀ n name, ∀ item ∈ items, valueOf? (n := n) name item = none

namespace Preamble

variable {items more : List Item} {name : String}

theorem of_bare (h : Bare items) : Preamble items where
  noFunction := by simp [h.definitions]
  noVariable _ := valueOf?_bare h

theorem append (first : Preamble items) (second : Preamble more) : Preamble (items ++ more) where
  noFunction := by
    rw [definitions_append]
    exact List.forall_mem_append.2 ⟨first.noFunction, second.noFunction⟩
  noVariable n name := List.forall_mem_append.2 ⟨first.noVariable n name, second.noVariable n name⟩

end Preamble

theorem preamble_libraryItems (shape : Shape) (set : CapabilitySet) :
    Preamble (libraryItems shape set) where
  noFunction := by
    rw [definitions_libraryItems]
    split <;> simp [entryDispatcher, exitFunction, unloadDispatcher]
  noVariable _ _ := forall_libraryItems (fun _ _ => rfl) (fun _ _ => rfl) shape set

end Glue

open Glue

/-- The source of a module ends with what is made for its entry points and unload handlers. -/
theorem Rendering.source_ends {ws : Workspace} {config : Config} {v : View}
    {fragments : PcdFragments} {r : Rendering} (rendered : ofView ws config v fragments = .ok r)
    (image : v.isLibrary = false) :
    ∃ before entries, Preamble before ∧ (entryPointsOf v config).items = .ok entries ∧
      r.source.items = before ++ entries := by
  obtain ⟨order, resolution, model, entries, _, modelMade, entriesMade, items⟩ :=
    source_eq rendered image
  have shown : Bare (model ++ lifecycleItems v.type.shape (.ofOrder v order) ++
      [.callerId v.type.shape.callerIdType v.subject.identity.guid, .blank] ++
      guidItems resolution) :=
    (((bare_driverModelItems modelMade).append (bare_lifecycleItems _ _)).append
      (by simp [Bare])).append (bare_guidItems _)
  exact ⟨_, entries, (Preamble.of_bare shown).append (preamble_libraryItems _ _), entriesMade,
    items⟩

end FirmwareGlue
