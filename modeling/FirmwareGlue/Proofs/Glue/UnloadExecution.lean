import FirmwareGlue.Proofs.Glue.EntryExecution

/-!
# What the unload dispatcher of a driver does

With several handlers, one policy calls them all and keeps the first error in a variable, and the
other one returns as soon as a handler reports an error. What one step does is said by
`runStep_leads` for the first policy, where the kept status is the invariant, and by
`stopStep_leads` for the second one. Under both policies the status comes to `unloadStatus` of what
the handlers report, so it does not depend on the policy.
-/

namespace FirmwareGlue.Glue

open Code

section

variable {n : Nat} {program : List Item} {report : List Call → Call → Status n}
  {policy : UnloadPolicy} {handlers : List String}

/-- The status of unload handlers: the first error, or the status of the last handler if none
fails. -/
def unloadStatus (statuses : List (Status n)) : Status n :=
  ((statuses.find? Status.failed).or statuses.getLast?).getD Status.success

/-- The first of some calls, up to and with the one that reports an error. -/
def untilError (report : List Call → Call → Status n) (called calls : List Call) : List Call :=
  calls.take ((reported report called calls).findIdx Status.failed + 1)

/-- What is kept of two statuses, of which the second is reported later. -/
def keepError (kept s : Status n) : Status n :=
  if kept.failed then kept else s

theorem unloadStatus_single (s : Status n) : unloadStatus [s] = s := by
  cases error : s.failed <;> simp [unloadStatus, error]

theorem unloadStatus_cons_of_failed {s : Status n} (error : s.failed = true)
    (later : List (Status n)) : unloadStatus (s :: later) = s := by
  simp [unloadStatus, error]

theorem unloadStatus_cons_of_fine {s : Status n} (fine : s.failed = false) (t : Status n)
    (later : List (Status n)) : unloadStatus (s :: t :: later) = unloadStatus (t :: later) := by
  simp [unloadStatus, fine]

/-- The status that is kept from the first handler on. -/
theorem foldl_keepError (s : Status n) (later : List (Status n)) :
    later.foldl keepError s = unloadStatus (s :: later) := by
  induction later generalizing s with
  | nil => exact (unloadStatus_single s).symm
  | cons t rest ih =>
      rw [List.foldl_cons, ih]
      cases error : s.failed with
      | true =>
          have stays : keepError s t = s := if_pos error
          rw [stays, unloadStatus_cons_of_failed error, unloadStatus_cons_of_failed error]
      | false =>
          have replaced : keepError s t = t := if_neg (by simp [error])
          rw [replaced, unloadStatus_cons_of_fine error]

theorem untilError_cons_of_failed {called : List Call} {c : Call}
    (error : (report called c).failed = true) (later : List Call) :
    untilError report called (c :: later) = [c] := by
  simp [untilError, reported, List.findIdx_cons, error]

theorem untilError_cons_of_fine {called : List Call} {c : Call}
    (fine : (report called c).failed = false) (later : List Call) :
    untilError report called (c :: later) = c :: untilError report (called ++ [c]) later := by
  simp [untilError, reported, List.findIdx_cons, fine]

/-- A program has the unload dispatcher for some handlers under a policy, and declares them. -/
structure Unloads (program : List Item) (policy : UnloadPolicy) (handlers : List String) :
    Prop where
  dispatcher : definition? program unloadDispatcher =
    some ⟨⟨"EFI_STATUS", unloadDispatcher, unloadParameters⟩, unloadBody policy handlers⟩
  declared : ∀ handler ∈ handlers, declaresFunction program handler = true

variable {globals : String → Option (Status n)} {called : List Call}
  {locals : String → Option (Option (Status n))}

variable (program report globals called) in
/-- A later handler is called in any case, and an error that is kept already stays. -/
theorem runStep_leads {kept : Status n} {handler : String}
    (holds : locals "Status" = some (some kept))
    (declared : declaresFunction program handler = true) (rest : List Statement) :
    ∃ updated,
      updated "Status" = some (some (keepError kept (report called (unloadCall handler)))) ∧
      Leads program (returning report) (.alone globals called locals (runStep handler :: rest))
        (.alone globals (called ++ [unloadCall handler]) updated rest) := by
  let m : Machine n := ⟨globals, fun _ => none, called, []⟩
  have held : m.read ⟨locals, rest⟩ "Status" = some kept := Machine.read_local rfl holds
  have decided : holds? (m.read ⟨locals, rest⟩) (.failed "Status") = some kept.failed := by
    simp [holds?, held]
  have chosen := Leads.branch program (returning report) [.perform (unloadCall handler)]
    [.store "Status" (.call (unloadCall handler))] decided
  cases error : kept.failed with
  | true =>
      have stays : keepError kept (report called (unloadCall handler)) = kept := if_pos error
      have other : unloadCall handler ∉ firmwareCalls := by
        simp [unloadCall, forward, callNames, unloadParameters, ParameterList.names,
          firmwareCalls, unreachedAssertion, statusAssertion, jumpBack, imageExit]
      rw [error] at chosen
      refine ⟨locals, by rw [stays, holds], chosen.trans (Leads.step ?_)⟩
      exact (Machine.step_push (m := m) _).trans
        (Machine.execute_perform_declared other declared rfl)
  | false =>
      have replaced : keepError kept (report called (unloadCall handler)) =
          report called (unloadCall handler) := if_neg (by simp [error])
      rw [error] at chosen
      refine ⟨Function.update locals "Status" (some (some _)), ?_,
        chosen.trans (Leads.store_report (by simp [holds]) _ rest)⟩
      rw [replaced, Function.update_self]

variable (program report globals called) in
/-- All later handlers are called, and the first error is kept. -/
theorem runSteps_lead {kept : Status n} {later : List String}
    (holds : locals "Status" = some (some kept))
    (declared : ∀ handler ∈ later, declaresFunction program handler = true)
    (rest : List Statement) :
    ∃ updated,
      updated "Status" =
        some (some ((reported report called (later.map unloadCall)).foldl keepError kept)) ∧
      Leads program (returning report)
        (.alone globals called locals (later.map runStep ++ rest))
        (.alone globals (called ++ later.map unloadCall) updated rest) := by
  induction later generalizing called locals kept with
  | nil => exact ⟨locals, holds, by rw [List.map_nil, List.map_nil, List.append_nil]; exact .refl⟩
  | cons handler more ih =>
      rw [List.forall_mem_cons] at declared
      obtain ⟨next, kept', first⟩ :=
        runStep_leads program report globals called holds declared.1 (more.map runStep ++ rest)
      obtain ⟨updated, kept'', others⟩ := ih _ kept' declared.2
      rw [List.map_cons, List.map_cons, List.append_cons called]
      exact ⟨updated, kept'', first.trans others⟩

variable (program report globals called) in
/-- A handler is called, and the statement that follows returns its status if it is an error. -/
theorem stopStep_leads (declared : (locals "Status").isSome) (handler : String)
    (rest : List Statement) :
    ∃ updated : String → Option (Option (Status n)),
      updated "Status" = some (some (report called (unloadCall handler))) ∧
      Leads program (returning report) (.alone globals called locals (stopStep handler ++ rest))
        (.alone globals (called ++ [unloadCall handler]) updated
          ((if (report called (unloadCall handler)).failed then
            [Statement.act (.give (.symbol "Status"))] else []) ++ rest)) := by
  let s := report called (unloadCall handler)
  let m : Machine n := ⟨globals, fun _ => none, called ++ [unloadCall handler], []⟩
  let updated := Function.update locals "Status" (some (some s))
  have holds : updated "Status" = some (some s) := Function.update_self ..
  have held : m.read ⟨updated, rest⟩ "Status" = some s := Machine.read_local rfl holds
  have decided : holds? (m.read ⟨updated, rest⟩) (.failed "Status") = some s.failed := by
    simp [holds?, held]
  have chosen := Leads.branch program (returning report) [.give (.symbol "Status")] [] decided
  refine ⟨updated, holds, (Leads.store_report declared (unloadCall handler) _).trans ?_⟩
  rw [apply_ite (List.map Statement.act)] at chosen
  exact chosen

/-- What the second policy does from some handler on: handlers are called until one reports an
error, and the status of the last one that was called is returned. -/
def Stops (program : List Item) (report : List Call → Call → Status n)
    (globals : String → Option (Status n)) (called : List Call)
    (locals : String → Option (Option (Status n))) (handlers : List String) : Prop :=
  Executes program (returning report)
    (.alone globals called locals
      (handlers.flatMap stopStep ++ [.blank, .act (.give (.symbol "Status"))]))
    (called ++ untilError report called (handlers.map unloadCall))
    (.returned (some (unloadStatus (reported report called (handlers.map unloadCall)))))

theorem stops_of_failed (declared : (locals "Status").isSome) {handler : String}
    (error : (report called (unloadCall handler)).failed = true) (later : List String) :
    Stops program report globals called locals (handler :: later) := by
  obtain ⟨updated, holds, leads⟩ := stopStep_leads program report globals called declared handler
    (later.flatMap stopStep ++ [.blank, .act (.give (.symbol "Status"))])
  rw [error, if_pos rfl] at leads
  rw [Stops, List.map_cons, untilError_cons_of_failed error, reported,
    unloadStatus_cons_of_failed error, List.flatMap_cons, List.append_assoc]
  exact leads.executes (.give rfl holds _)

/-- Handlers are called until one of them reports an error, which is returned. -/
theorem stops (declared : (locals "Status").isSome) (handler : String) (later : List String) :
    Stops program report globals called locals (handler :: later) := by
  induction later generalizing called locals handler with
  | nil =>
      cases error : (report called (unloadCall handler)).failed with
      | true => exact stops_of_failed declared error []
      | false =>
          obtain ⟨updated, holds, leads⟩ := stopStep_leads program report globals called declared
            handler [.blank, .act (.give (.symbol "Status"))]
          rw [error, if_neg Bool.false_ne_true] at leads
          have last : untilError report (called ++ [unloadCall handler]) [] = [] := rfl
          rw [Stops, List.map_cons, untilError_cons_of_fine error, List.map_nil, last, reported,
            reported, unloadStatus_single]
          have ends : Executes program (returning report)
              (.alone globals (called ++ [unloadCall handler]) updated
                [.blank, .act (.give (.symbol "Status"))]) (called ++ [unloadCall handler])
              (.returned (some (report called (unloadCall handler)))) :=
            .go rfl (.give rfl holds [])
          exact leads.executes ends
  | cons second more ih =>
      cases error : (report called (unloadCall handler)).failed with
      | true => exact stops_of_failed declared error (second :: more)
      | false =>
          obtain ⟨updated, holds, leads⟩ := stopStep_leads program report globals called declared
            handler ((second :: more).flatMap stopStep ++ [.blank, .act (.give (.symbol "Status"))])
          rw [error, if_neg Bool.false_ne_true] at leads
          have later : Stops program report globals (called ++ [unloadCall handler]) updated
              (second :: more) := ih (by simp [holds]) second
          have same : unloadStatus
              (reported report called ((handler :: second :: more).map unloadCall)) =
                unloadStatus (reported report (called ++ [unloadCall handler])
                  ((second :: more).map unloadCall)) := unloadStatus_cons_of_fine error _ _
          rw [Stops, same, List.map_cons, untilError_cons_of_fine error,
            List.append_cons called, List.flatMap_cons, List.append_assoc]
          exact leads.executes later

/-- What the unload dispatcher of a driver does in a program. Either all handlers are called, each
once and in order, or those up to and with the first that reports an error. The status that is
returned is the same under both policies. -/
structure UnloadMeaning (program : List Item) (report : List Call → Call → Status n)
    (policy : UnloadPolicy) (handlers : List String) : Prop where
  runAll : policy = .runAll →
    Runs program (returning report) unloadDispatcher (handlers.map unloadCall)
      (.returned (some (unloadStatus (reported report [] (handlers.map unloadCall)))))
  stopOnError : policy = .stopOnError →
    Runs program (returning report) unloadDispatcher
      (untilError report [] (handlers.map unloadCall))
      (.returned (some (unloadStatus (reported report [] (handlers.map unloadCall)))))

/-- Without handlers, nothing is called. -/
theorem Unloads.runs_none (unloads : Unloads program policy []) :
    Runs program (returning report) unloadDispatcher [] (.returned (some Status.success)) :=
  ⟨_, Machine.start_of_definition unloads.dispatcher, .stop rfl⟩

/-- With one handler, its status is returned. -/
theorem Unloads.runs_single {handler : String} (unloads : Unloads program policy [handler]) :
    Runs program (returning report) unloadDispatcher [unloadCall handler]
      (.returned (some (report [] (unloadCall handler)))) :=
  ⟨_, Machine.start_of_definition unloads.dispatcher, .give_call rfl []⟩

/-- Before several handlers are called, the variable that holds their status is declared. -/
theorem declare_leads (rest : List Statement) :
    Leads program (returning report)
      (.alone globals called (fun _ => none) (.declare "EFI_STATUS" "Status" :: .blank :: rest))
      (.alone globals called (Function.update (fun _ => none) "Status" (some none)) rest) :=
  .head rfl (Leads.step rfl)

/-- The first policy calls all of several handlers. -/
theorem Unloads.runs_all {first second : String} {rest : List String}
    (unloads : Unloads program .runAll (first :: second :: rest)) :
    Runs program (returning report) unloadDispatcher ((first :: second :: rest).map unloadCall)
      (.returned (some (unloadStatus
        (reported report [] ((first :: second :: rest).map unloadCall))))) := by
  let s := report [] (unloadCall first)
  let opened : String → Option (Option (Status n)) :=
    Function.update (fun _ => none) "Status" (some none)
  let locals := Function.update opened "Status" (some (some s))
  let globals : String → Option (Status n) := firstValue? program
  have holds : locals "Status" = some (some s) := Function.update_self ..
  obtain ⟨updated, kept, others⟩ := runSteps_lead program report globals [unloadCall first] holds
    (List.forall_mem_cons.1 unloads.declared).2 [.blank, .act (.give (.symbol "Status"))]
  rw [foldl_keepError] at kept
  have stored (tail : List Statement) : Leads program (returning report)
      (.alone globals [] opened (.act (.store "Status" (.call (unloadCall first))) :: tail))
      (.alone globals [unloadCall first] locals tail) :=
    Leads.store_report (by simp [opened]) _ _
  have leads := (declare_leads _).trans ((stored _).trans others)
  have ends : Executes program (returning report)
      (.alone globals ((first :: second :: rest).map unloadCall) updated
        [.blank, .act (.give (.symbol "Status"))]) ((first :: second :: rest).map unloadCall)
      (.returned (some (unloadStatus
        (reported report [] ((first :: second :: rest).map unloadCall))))) :=
    .go rfl (.give rfl kept [])
  exact ⟨_, Machine.start_of_definition unloads.dispatcher, Leads.executes leads ends⟩

/-- The second policy calls several handlers up to the first error. -/
theorem Unloads.runs_until {first second : String} {rest : List String}
    (unloads : Unloads program .stopOnError (first :: second :: rest)) :
    Runs program (returning report) unloadDispatcher
      (untilError report [] ((first :: second :: rest).map unloadCall))
      (.returned (some (unloadStatus
        (reported report [] ((first :: second :: rest).map unloadCall))))) := by
  have executes : Stops program report (firstValue? program) []
      (Function.update (fun _ => none) "Status" (some none)) (first :: second :: rest) :=
    stops (by simp) first (second :: rest)
  exact ⟨_, Machine.start_of_definition unloads.dispatcher, (declare_leads _).executes executes⟩

theorem Unloads.meaning (unloads : Unloads program policy handlers)
    (report : List Call → Call → Status n) : UnloadMeaning program report policy handlers := by
  match handlers, unloads with
  | [], unloads => exact ⟨fun _ => unloads.runs_none, fun _ => unloads.runs_none⟩
  | [handler], unloads =>
      have status : unloadStatus (reported report [] [unloadCall handler]) =
          report [] (unloadCall handler) := unloadStatus_single _
      constructor
      · intro _
        rw [List.map_singleton, status]
        exact unloads.runs_single
      · intro _
        have whole : untilError report [] [unloadCall handler] = [unloadCall handler] := by
          simp [untilError]
        rw [List.map_singleton, status, whole]
        exact unloads.runs_single
  | _ :: _ :: _, unloads =>
      constructor
      · rintro rfl
        exact unloads.runs_all
      · rintro rfl
        exact unloads.runs_until

end

end FirmwareGlue.Glue

namespace FirmwareGlue

open Code Glue

end FirmwareGlue
