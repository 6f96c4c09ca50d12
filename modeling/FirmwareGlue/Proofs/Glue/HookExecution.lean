import FirmwareGlue.Proofs.Glue.Execution
import FirmwareGlue.Proofs.Glue.LibraryDispatch

/-!
# What a dispatcher of library hooks does

A dispatcher of library hooks calls one hook after another, and asserts behind each call that the
hook has reported no error. So if all hooks return without an error, all of them are called, in
their order, and control comes back to the caller of the dispatcher.
-/

namespace FirmwareGlue.Glue

open Code

variable {n : Nat} {program : List Item} {foreign : Foreign n} {inside : LibraryConvention}

def hookCalls (inside : LibraryConvention) (hooks : List LibraryHook) : List Call :=
  hooks.map (hookCall inside)

/-- Some calls, made one after another behind others, return without an error. -/
def Succeeds (foreign : Foreign n) : List Call → List Call → Prop
  | _, [] => True
  | called, c :: later =>
    (∃ s, foreign called c = .returns s ∧ s.failed = false) ∧
      Succeeds foreign (called ++ [c]) later

theorem isSome_update (locals : String → Option (Option (Status n))) (held : Option (Status n)) :
    (Function.update locals "Status" (some held) "Status").isSome := by
  rw [Function.update_self]
  rfl

/-- A hook that returns without an error is called, and its status passes the assertion. -/
theorem hook_leads {m : Machine n} {h : LibraryHook} {s : Status n}
    {locals : String → Option (Option (Status n))} (declared : (locals "Status").isSome)
    (returns : foreign m.called (hookCall inside h) = .returns s) (fine : s.failed = false)
    (rest : List Statement) :
    Leads program foreign (m.push ⟨locals, hookStep inside h ++ rest⟩)
      ({ m with called := m.called ++ [hookCall inside h] }.push
        ⟨Function.update locals "Status" (some (some s)), rest⟩) := by
  refine (Leads.store declared returns _).trans (Leads.step ?_)
  have held : { m with called := m.called ++ [hookCall inside h] }.read
      ⟨Function.update locals "Status" (some (some s)), rest⟩ "Status" = some s :=
    Machine.read_local rfl (Function.update_self "Status" (some (some s)) locals)
  exact (Machine.step_push _).trans (Machine.execute_assert held fine)

/-- Hooks that return without an error are all called. -/
theorem hooks_lead {m : Machine n} {hooks : List LibraryHook}
    {locals : String → Option (Option (Status n))} (declared : (locals "Status").isSome)
    (fine : Succeeds foreign m.called (hookCalls inside hooks)) (rest : List Statement) :
    ∃ locals', Leads program foreign
      (m.push ⟨locals, hooks.flatMap (hookStep inside) ++ rest⟩)
      ({ m with called := m.called ++ hookCalls inside hooks }.push ⟨locals', rest⟩) := by
  induction hooks generalizing m locals with
  | nil =>
      refine ⟨locals, ?_⟩
      rw [hookCalls, List.map_nil, List.append_nil]
      exact .refl
  | cons h later ih =>
      obtain ⟨⟨s, returns, fine⟩, others⟩ := fine
      obtain ⟨locals', leads⟩ :=
        ih (m := { m with called := m.called ++ [hookCall inside h] })
          (isSome_update locals (some s)) others
      refine ⟨locals', ?_⟩
      rw [List.flatMap_cons, List.append_assoc, hookCalls, List.map_cons, List.append_cons]
      exact (hook_leads declared returns fine _).trans leads

/-- A dispatcher of hooks that return without an error calls them all and returns. -/
theorem hookBody_leads {m : Machine n} {hooks : List LibraryHook} {a : Activation n}
    {below : List (Layer n)} (stack : m.stack = .own a :: below)
    (fine : Succeeds foreign m.called (hookCalls inside hooks)) :
    Leads program foreign (m.push ⟨fun _ => none, hookBody inside hooks⟩)
      { m with called := m.called ++ hookCalls inside hooks }.prune := by
  cases hooks with
  | nil =>
      rw [hookCalls, List.map_nil, List.append_nil]
      exact Leads.step (Machine.step_end stack)
  | cons h later =>
      obtain ⟨locals', leads⟩ := hooks_lead (isSome_update (fun _ => none) none) fine []
      have opened : Leads program foreign
          (m.push ⟨fun _ => none, hookBody inside (h :: later)⟩)
          (m.push ⟨Function.update (fun _ => none) "Status" (some none),
            (h :: later).flatMap (hookStep inside) ++ []⟩) := by
        rw [List.append_nil]
        exact .head rfl (Leads.step rfl)
      exact opened.trans (leads.trans (Leads.step (Machine.step_end stack)))

/-- The calls by which a program destroys the libraries, behind others: those of its own dispatcher,
if they return without an error, or that of a dispatcher which another file defines. -/
inductive Destroys (program : List Item) (foreign : Foreign n) (called : List Call) :
    List Call → Prop where
  | own {head : Signature} {hooks : List LibraryHook}
      (defined : definition? program destroyLibraries.callee = some ⟨head, hookBody .dxe hooks⟩)
      (undeclared : declaresFunction program destroyLibraries.callee = false)
      (fine : Succeeds foreign called (hookCalls .dxe hooks)) :
      Destroys program foreign called (hookCalls .dxe hooks)
  | foreign {s : Status n} (undefined : definition? program destroyLibraries.callee = none)
      (returns : foreign called destroyLibraries = .returns s) :
      Destroys program foreign called [destroyLibraries]

/-- The libraries are destroyed, and control comes back. -/
theorem Destroys.leads {m : Machine n} {calls : List Call}
    (h : Destroys program foreign m.called calls) (buffers : m.buffers = fun _ => none)
    (locals : String → Option (Option (Status n))) (rest : List Statement) :
    Leads program foreign (m.push ⟨locals, .act (.perform destroyLibraries) :: rest⟩)
      ({ m with called := m.called ++ calls }.push ⟨locals, rest⟩) := by
  cases h with
  | @own head hooks defined undeclared fine =>
      have entered : (m.push ⟨locals, .act (.perform destroyLibraries) :: rest⟩).step program
          foreign = some (.go ((m.push ⟨locals, rest⟩).push
            ⟨fun _ => none, hookBody .dxe hooks⟩)) := by
        rw [Machine.step_push, Machine.execute_perform_own (by decide) defined undeclared,
          Activation.start_none]
        rfl
      have kept : ({ m with called := m.called ++ hookCalls .dxe hooks }.push
          ⟨locals, rest⟩).prune =
            { m with called := m.called ++ hookCalls .dxe hooks }.push ⟨locals, rest⟩ := by
        simp [Machine.prune, Machine.push, buffers]
      rw [← kept]
      exact .head entered (hookBody_leads (m := m.push ⟨locals, rest⟩) rfl fine)
  | foreign undefined returns =>
      exact Leads.step ((Machine.step_push _).trans
        (Machine.execute_perform (by decide) undefined returns))

end FirmwareGlue.Glue

namespace FirmwareGlue

open Code Glue

/-- A source for the DXE phase destroys its libraries by calling the destructors of the library
instances in the reverse order of construction, if no descriptor has a symbol of the dispatcher's
name. -/
theorem Rendering.destroys {ws : Workspace} {config : Config} {v : View} {fragments : PcdFragments}
    {r : Rendering} (rendered : ofView ws config v fragments = .ok r) (image : v.isLibrary = false)
    (dxe : v.type.shape.convention = .dxe)
    (undeclared : declaresFunction r.source.items destroyLibraries.callee = false) :
    ∃ order, LibraryOrder.ofView ws v = .ok order ∧
      ∀ n (foreign : Foreign n) called,
        Succeeds foreign called (hookCalls .dxe (hooksOf Module.destructor order.destruction)) →
        Destroys r.source.items foreign called
          (hookCalls .dxe (hooksOf Module.destructor order.destruction)) := by
  obtain ⟨order, ordered, _, destructors⟩ := libraryFunctions rendered image
  refine ⟨order, ordered, fun n foreign called fine => ?_⟩
  rw [if_pos dxe, dxe] at destructors
  have defined : definition? r.source.items destroyLibraries.callee =
      some ⟨⟨"VOID", destroyLibraries.callee, LibraryConvention.dxe.parameters⟩,
        hookBody .dxe (hooksOf Module.destructor order.destruction)⟩ := by
    rw [definition?, ← List.head?_filter]
    exact congrArg List.head? destructors
  exact .own defined undeclared fine

end FirmwareGlue
