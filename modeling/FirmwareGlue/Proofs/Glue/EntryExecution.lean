import FirmwareGlue.Proofs.Glue.Dispatchers
import FirmwareGlue.Proofs.Glue.HookExecution
import Mathlib.Data.List.Induction

/-!
# What the dispatcher of a driver does

With several entry points, each step of the dispatcher sets the jump buffer, calls an entry point
and hands its status to `ExitDriver`; an entry point that leaves calls `ExitDriver` itself. Either
way `ExitDriver` keeps the better status and jumps back, and the dispatcher goes on behind the step.
What one step does is said by `entry_leads`, whatever is above the dispatcher on the stack; the
whole dispatcher follows by induction on the entry points, with the kept status as what the steps
have in common. With one entry point or none there is nothing to come back to.
-/

namespace FirmwareGlue.Glue

open Code

section

variable {n : Nat} {program : List Item} {foreign : Foreign n} {entries : List String}

def entryCall (entry : String) : Call := forward entry driverParameters

/-- What is kept of two statuses, of which the second is reported later. -/
def keep (kept s : Status n) : Status n :=
  if !s.failed || kept.failed then s else kept

/-- The function through which a driver with several entry points is left. -/
def exitDefinition (entries : List String) : Definition :=
  ⟨⟨"VOID", exitFunction, exitParameters⟩, exitBody entries⟩

/-- A program has the dispatcher of a driver with some entry points, the function through which it
is left, and what this keeps. -/
structure Hosts (program : List Item) (entries : List String) : Prop where
  dispatcher : definition? program entryDispatcher =
    some ⟨⟨"EFI_STATUS", entryDispatcher, driverParameters⟩, driverBody entries⟩
  exit : entries ≠ [] → definition? program exitFunction = some (exitDefinition entries)
  kept : 2 ≤ entries.length → ∀ n, firstValue? program keptStatus = some (Status.loadError (n := n))

/-- The variables of the exit function: its parameter, which holds the status. -/
def exitLocals (s : Status n) (name : String) : Option (Option (Status n)) :=
  if name = "Status" then some (some s) else none

theorem start_exit (entries : List String) (s : Status n) :
    Activation.start (exitDefinition entries) (some s) = ⟨exitLocals s, exitBody entries⟩ := by
  have locals : (Activation.start (exitDefinition entries) (some s)).locals = exitLocals s := by
    funext name
    simp [Activation.start, exitDefinition, exitLocals, exitParameters, ParameterList.names,
      eq_comm]
  exact congrArg (Activation.mk · _) locals

/-- The jump back cuts the stack to where the buffer was set. -/
theorem jump_leads {m : Machine n} {above : List (Layer n)} {target : Activation n}
    {locals : String → Option (Option (Status n))} {rest back : List Statement}
    (stack : m.stack = above ++ [.own target]) (set : m.buffers jumpBuffer = some (1, back)) :
    Leads program foreign (m.push ⟨locals, .act (.perform jumpBack) :: rest⟩)
      { m with
        stack := [.own ⟨fun name => (target.locals name).map fun _ => none, back⟩] }.prune := by
  have cut : (Layer.own ⟨locals, rest⟩ :: m.stack).drop (m.stack.length + 1 - 1) =
      [.own target] := by
    rw [stack]
    simp
  apply Leads.step
  rw [Machine.step_push, Machine.execute_jump, Machine.jump, set, Option.bind_eq_bind,
    Option.bind_some]
  simp only [cut]

/-- The first statement of the exit function keeps the status of the entry point, or what was kept
before. -/
theorem keep_leads {m : Machine n} {kept s : Status n} {rest : List Statement}
    (holds : m.globals keptStatus = some kept) :
    Leads program foreign
      (m.push ⟨exitLocals s, .branch (.either (.succeeded "Status") (.failed keptStatus))
        [.store keptStatus (.symbol "Status")] [] :: rest⟩)
      ({ m with globals := Function.update m.globals keptStatus (some (keep kept s)) }.push
        ⟨exitLocals s, rest⟩) := by
  have readStatus (tasks : List Statement) :
      m.read ⟨exitLocals s, tasks⟩ "Status" = some s := Machine.read_local rfl rfl
  have readKept (tasks : List Statement) :
      m.read ⟨exitLocals s, tasks⟩ keptStatus = some kept := Machine.read_global rfl rfl holds
  have decided : holds? (m.read ⟨exitLocals s, rest⟩)
      (.either (.succeeded "Status") (.failed keptStatus)) = some (!s.failed || kept.failed) := by
    cases h : s.failed <;> simp [holds?, readStatus, readKept, h]
  refine .head ((Machine.step_push _).trans (Machine.execute_branch decided)) ?_
  cases better : (!s.failed || kept.failed) with
  | true =>
      have same : keep kept s = s := if_pos better
      rw [same]
      apply Leads.step
      rw [if_pos rfl]
      show (do m.write ⟨exitLocals s, rest⟩ keptStatus (← m.read ⟨exitLocals s, rest⟩ "Status")) = _
      rw [readStatus, Option.bind_eq_bind, Option.bind_some, Machine.write_global rfl holds]
      rfl
  | false =>
      have same : keep kept s = kept := if_neg (by simp [better])
      have unchanged : Function.update m.globals keptStatus (some kept) = m.globals :=
        Function.update_eq_self_iff.2 holds.symm
      rw [same, unchanged]
      exact .refl

/-- The exit function keeps the better status, and jumps back to the dispatcher. -/
theorem exit_leads (several : 2 ≤ entries.length) {m : Machine n} {kept s : Status n}
    {above : List (Layer n)} {target : Activation n} {back : List Statement}
    (stack : m.stack = above ++ [.own target])
    (holds : m.globals keptStatus = some kept) (set : m.buffers jumpBuffer = some (1, back)) :
    Leads program foreign (m.push (.start (exitDefinition entries) (some s)))
      { m with
        globals := Function.update m.globals keptStatus (some (keep kept s))
        stack := [.own ⟨fun name => (target.locals name).map fun _ => none, back⟩] }.prune := by
  have body : exitBody entries =
      [.branch (.either (.succeeded "Status") (.failed keptStatus))
          [.store keptStatus (.symbol "Status")] [],
        .act (.perform jumpBack), .act assertUnreached] := by
    match entries, several with
    | _ :: _ :: _, _ => rfl
  rw [start_exit, body]
  exact (keep_leads holds).trans (jump_leads stack set)

/-- The machine while the dispatcher is at work and no other function is. -/
def dispatching (globals : String → Option (Status n))
    (buffers : String → Option (Nat × List Statement)) (called : List Call)
    (tasks : List Statement) : Machine n :=
  ⟨globals, buffers, called, [.own ⟨fun _ => none, tasks⟩]⟩

/-- One entry point is called, and however it is left, the dispatcher goes on with what follows. -/
theorem entry_leads (hosts : Hosts program entries) (several : 2 ≤ entries.length)
    (foreign : Foreign n) {globals : String → Option (Status n)} {kept : Status n}
    (holds : globals keptStatus = some kept) (buffers : String → Option (Nat × List Statement))
    (called : List Call) (entry : String) (rest : List Statement) :
    ∃ buffers', Leads program foreign
      (dispatching globals buffers called (driverStep entry ++ rest))
      (dispatching
        (Function.update globals keptStatus
          (some (keep kept (foreign called (entryCall entry)).status)))
        buffers' (called ++ [entryCall entry]) rest) := by
  have exit : definition? program exitFunction = some (exitDefinition entries) :=
    hosts.exit (by rintro rfl; cases several)
  let marked := Function.update buffers jumpBuffer (some (1, Statement.blank :: rest))
  have set : marked jumpBuffer = some (1, .blank :: rest) := Function.update_self ..
  have mark : Leads program foreign
      (dispatching globals buffers called (driverStep entry ++ rest))
      (dispatching globals marked called (.act (.pass exitFunction (entryCall entry)) ::
        .act assertUnreached :: .blank :: rest)) := Leads.step rfl
  let below : Layer n := .own ⟨fun _ => none, .act assertUnreached :: .blank :: rest⟩
  -- Whether the entry point returns or leaves, the exit function comes to run above the dispatcher.
  obtain ⟨above, leave⟩ : ∃ above : List (Layer n), Leads program foreign
      (dispatching globals marked called (.act (.pass exitFunction (entryCall entry)) ::
        .act assertUnreached :: .blank :: rest))
      (Machine.push ⟨globals, marked, called ++ [entryCall entry], above ++ [below]⟩
        (.start (exitDefinition entries)
          (some (foreign called (entryCall entry)).status))) := by
    match reaction : foreign called (entryCall entry) with
    | .returns s =>
        refine ⟨[], Leads.step ?_⟩
        exact (Machine.execute_pass reaction).trans (Machine.enter_of_definition exit)
    | .leaves s =>
        refine ⟨[.foreign], Leads.step ?_⟩
        exact (Machine.execute_pass_left reaction).trans (Machine.enter_of_definition exit)
  exact ⟨_, mark.trans (leave.trans ((exit_leads several rfl holds set).trans (Leads.step rfl)))⟩

/-- The statuses that entry points report when they are called one after another. -/
def reports (foreign : Foreign n) : List Call → List String → List (Status n)
  | _, [] => []
  | called, entry :: rest =>
    (foreign called (entryCall entry)).status ::
      reports foreign (called ++ [entryCall entry]) rest

/-- The status of several entry points: that of the last success, or of the last one if none
succeeds. -/
def combined (statuses : List (Status n)) : Status n :=
  ((statuses.filter fun s => !s.failed).getLast?.or statuses.getLast?).getD Status.success

/-- All entry points are called, whatever the earlier ones do. -/
theorem entries_leads (hosts : Hosts program entries) (several : 2 ≤ entries.length)
    (foreign : Foreign n) {globals : String → Option (Status n)} {kept : Status n}
    (holds : globals keptStatus = some kept) (buffers : String → Option (Nat × List Statement))
    (called : List Call) (remaining : List String) (rest : List Statement) :
    ∃ globals' buffers',
      globals' keptStatus = some ((reports foreign called remaining).foldl keep kept) ∧
      Leads program foreign
        (dispatching globals buffers called (remaining.flatMap driverStep ++ rest))
        (dispatching globals' buffers' (called ++ remaining.map entryCall) rest) := by
  induction remaining generalizing globals buffers called kept with
  | nil => exact ⟨globals, buffers, holds, by rw [List.map_nil, List.append_nil]; exact .refl⟩
  | cons entry later ih =>
      rw [List.flatMap_cons, List.append_assoc, List.map_cons, List.append_cons]
      obtain ⟨next, first⟩ := entry_leads hosts several foreign holds buffers called entry
        (later.flatMap driverStep ++ rest)
      obtain ⟨globals', buffers', holds', others⟩ :=
        ih (Function.update_self keptStatus _ globals) next (called ++ [entryCall entry])
      exact ⟨globals', buffers', holds', first.trans others⟩

/-- What is kept after several reports, if an error was kept before. -/
theorem foldl_keep {kept : Status n} (error : kept.failed = true) (statuses : List (Status n)) :
    statuses.foldl keep kept =
      ((statuses.filter fun s => !s.failed).getLast?.or statuses.getLast?).getD kept := by
  induction statuses using List.reverseRecOn with
  | nil => rfl
  | append_singleton before s ih =>
      rw [List.foldl_append, ih, List.filter_append, List.foldl_cons, List.foldl_nil,
        List.getLast?_concat]
      cases failed : s.failed with
      | false => simp [keep, failed]
      | true =>
          have dropped : [s].filter (fun s => !s.failed) = [] := by simp [failed]
          rw [dropped, List.append_nil]
          cases last : (before.filter fun s => !s.failed).getLast? with
          | some t =>
              have fine : t.failed = false := by
                simpa using (List.mem_filter.1 (List.mem_of_getLast? last)).2
              simp [keep, failed, fine]
          | none =>
              have earlier : ∀ t ∈ before, t.failed = true := by
                simpa using List.getLast?_eq_none_iff.1 last
              have kept' : (before.getLast?.getD kept).failed = true := by
                cases h : before.getLast? with
                | none => exact error
                | some t => exact earlier t (List.mem_of_getLast? h)
              simp [keep, kept']

/-- The dispatcher is called from outside. -/
theorem Hosts.start (hosts : Hosts program entries) :
    Machine.start (n := n) program entryDispatcher =
      some (dispatching (firstValue? program) (fun _ => none) [] (driverBody entries)) := by
  rw [Machine.start, hosts.dispatcher, Option.bind_eq_bind, Option.bind_some,
    Activation.start_none]
  rfl

/-- Without entry points, nothing is called. -/
theorem Hosts.runs_none (hosts : Hosts program []) :
    Runs program foreign entryDispatcher [] (.returned (some Status.success)) :=
  ⟨_, hosts.start, .stop rfl⟩

/-- With one entry point, its status is returned. -/
theorem Hosts.runs_single {entry : String} {s : Status n} (hosts : Hosts program [entry])
    (returns : foreign [] (entryCall entry) = .returns s) :
    Runs program foreign entryDispatcher [entryCall entry] (.returned (some s)) := by
  exact ⟨_, hosts.start, .stop (Machine.execute_give_call returns)⟩

/-- With several entry points, all are called, and their statuses combined. -/
theorem Hosts.runs_several (hosts : Hosts program entries) (several : 2 ≤ entries.length) :
    Runs program foreign entryDispatcher (entries.map entryCall)
      (.returned (some (combined (reports foreign [] entries)))) := by
  have body : driverBody entries =
      entries.flatMap driverStep ++ [.act (.give (.symbol keptStatus))] := by
    match entries, several with
    | _ :: _ :: _, _ => rfl
  obtain ⟨globals, buffers, holds, leads⟩ :=
    entries_leads hosts several foreign (hosts.kept several n) (fun _ => none) [] entries
      [.act (.give (.symbol keptStatus))]
  rw [foldl_keep Status.failed_loadError] at holds
  have nonempty : entries ≠ [] := by
    rintro rfl
    cases several
  have result : ((((reports foreign [] entries).filter fun s => !s.failed).getLast?.or
      (reports foreign [] entries).getLast?).getD Status.loadError) =
        combined (reports foreign [] entries) := by
    match entries, nonempty with
    | entry :: rest, _ => simp [combined, reports, List.getLast?_cons]
  refine ⟨_, hosts.start, ?_⟩
  rw [body]
  rw [result] at holds
  have value : (Machine.mk globals buffers (entries.map entryCall) []).read ⟨fun _ => none, []⟩
      keptStatus = some (combined (reports foreign [] entries)) :=
    Machine.read_global rfl rfl holds
  exact leads.executes (.stop ((Machine.step_push _).trans (Machine.execute_give value)))

/-- With one entry point that leaves, control goes to the exit function. -/
theorem Hosts.leads_exit {entry : String} {s : Status n} (hosts : Hosts program [entry])
    (leaves : foreign [] (entryCall entry) = .leaves s) :
    Leads program foreign
      (dispatching (firstValue? program) (fun _ => none) [] (driverBody [entry]))
      (Machine.push ⟨firstValue? program, fun _ => none, [entryCall entry],
          [.foreign, .own ⟨fun _ => none, []⟩]⟩
        (.start (exitDefinition [entry]) (some s))) := by
  apply Leads.step
  exact (Machine.execute_give_call_left leaves).trans
    (Machine.enter_of_definition (hosts.exit (by simp)))

/-- The exit function of a driver with one entry point ends the image. If there is an error, it has
the libraries destroyed first. -/
theorem exit_single {m : Machine n} {s : Status n} {entry : String} :
    (s.failed = false →
      Executes program foreign (m.push (.start (exitDefinition [entry]) (some s))) m.called
        (.exited s)) ∧
    (s.failed = true → m.buffers = (fun _ => none) →
      ∀ calls, Destroys program foreign m.called calls →
        Executes program foreign (m.push (.start (exitDefinition [entry]) (some s)))
          (m.called ++ calls) (.exited s)) := by
  have readStatus (called : List Call) (tasks : List Statement) :
      { m with called := called }.read ⟨exitLocals s, tasks⟩ "Status" = some s :=
    Machine.read_local rfl rfl
  have exits (called : List Call) : Executes program foreign
      ({ m with called := called }.push ⟨exitLocals s, [.act (.perform imageExit)]⟩) called
      (.exited s) :=
    .stop ((Machine.step_push _).trans (Machine.execute_exit (readStatus called [])))
  have decided : holds? (m.read ⟨exitLocals s, [.act (.perform imageExit)]⟩) (.failed "Status") =
      some s.failed := by
    simp [holds?, readStatus m.called]
  have branch : (m.push ⟨exitLocals s, exitBody [entry]⟩).step program foreign =
      m.resume ⟨exitLocals s, (if s.failed then [.perform destroyLibraries] else []).map .act ++
        [.act (.perform imageExit)]⟩ :=
    (Machine.step_push _).trans (Machine.execute_branch decided)
  rw [start_exit]
  constructor
  · intro fine
    rw [fine] at branch
    exact .go branch (exits m.called)
  · intro error unset calls destroys
    rw [error] at branch
    exact .go branch ((destroys.leads unset _ _).executes (exits _))

/-- What the dispatcher of a driver does in a program: it calls every entry point once and in order,
and returns the status of the last success, or of the last entry point if none succeeds. -/
structure DriverMeaning (program : List Item) (foreign : Foreign n)
    (entries : List String) : Prop where
  none : entries = [] →
    Runs program foreign entryDispatcher [] (.returned (some Status.success))
  single : ∀ entry s, entries = [entry] → foreign [] (entryCall entry) = .returns s →
    Runs program foreign entryDispatcher [entryCall entry] (.returned (some s))
  several : 2 ≤ entries.length →
    Runs program foreign entryDispatcher (entries.map entryCall)
      (.returned (some (combined (reports foreign [] entries))))
  /-- A single entry point that leaves is not come back to: the image exits with its status, if
  that is an error after the libraries have been destroyed. -/
  leaving : ∀ entry s, entries = [entry] → foreign [] (entryCall entry) = .leaves s →
    (∃ first m, Machine.start program entryDispatcher = some first ∧
      Leads program foreign first m ∧ m.called = [entryCall entry] ∧
      m.stack.head? = some (.own (.start (exitDefinition entries) (some s)))) ∧
    (s.failed = false →
      Runs program foreign entryDispatcher [entryCall entry] (.exited s)) ∧
    (s.failed = true → ∀ calls, Destroys program foreign [entryCall entry] calls →
      Runs program foreign entryDispatcher (entryCall entry :: calls) (.exited s))

theorem Hosts.meaning (hosts : Hosts program entries) :
    DriverMeaning program foreign entries where
  none := by
    rintro rfl
    exact hosts.runs_none
  single := by
    rintro entry s rfl returns
    exact hosts.runs_single returns
  several := hosts.runs_several
  leaving := by
    rintro entry s rfl leaves
    have exit := hosts.leads_exit leaves
    refine ⟨⟨_, _, hosts.start, exit, rfl, rfl⟩, ?_, ?_⟩
    · intro fine
      exact ⟨_, hosts.start, exit.executes (exit_single.1 fine)⟩
    · intro error calls destroys
      exact ⟨_, hosts.start, exit.executes (exit_single.2 error rfl calls destroys)⟩

end

/-- What is made for the entry points and unload handlers of a driver or application. -/
theorem items_driver {e : EntryPoints}
    (driver : e.type.shape = .driver ∨ e.type.shape = .smmDriver) :
    ∃ start, Bare start ∧
      e.items = .ok (start ++ driverItems e.entries ++ unloadItems e.policy e.unloads) := by
  rcases driver with shape | shape
  · refine ⟨[.constant ⟨true, .uint32, 1, "_gUefiDriverRevision", 0⟩, .blank], by simp [Bare], ?_⟩
    rw [EntryPoints.items, shape]
  · refine ⟨[], by simp [Bare], ?_⟩
    rw [EntryPoints.items, shape]
    rfl

end FirmwareGlue.Glue

namespace FirmwareGlue

open Code Glue

end FirmwareGlue
