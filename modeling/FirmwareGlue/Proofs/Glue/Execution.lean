import FirmwareGlue.Proofs.Glue.Functions
import Mathlib.Logic.Function.Basic
import Mathlib.Logic.Relation

/-!
# The meaning of generated functions

Generated functions are executed step by step on a machine with a stack. What other files define is
foreign: a foreign function returns a status, or leaves through `ExitDriver` with one, and which of
these it does may depend on all foreign calls before. `SetJump` keeps where its function stands and
how high the stack is; `LongJump` cuts the stack back to that height and goes on there as after a
return that is not the first. A buffer whose function has been left is void, and what a jump leaves
in local variables cannot be relied on.

A machine without a next step has no meaning: an assertion fails, a variable is read that holds
nothing, or control comes back to a function that has handed it on for good.
-/

namespace FirmwareGlue.Glue

open Code

/-- A status: a native word, here of `n + 1` bits. -/
abbrev Status (n : Nat) := BitVec (n + 1)

namespace Status

variable {n : Nat}

/-- Errors are the statuses with the highest bit. -/
def failed (s : Status n) : Bool := s.msb

def success : Status n := 0#(n + 1)

/-- `EFI_LOAD_ERROR`, the first of the errors. -/
def loadError : Status n := BitVec.intMin (n + 1) ||| 1#(n + 1)

/-- The status that a constant stands for. -/
def ofName? (name : String) : Option (Status n) :=
  if name = "EFI_SUCCESS" then some success
  else if name = "EFI_LOAD_ERROR" then some loadError
  else none

@[simp] theorem failed_loadError : (loadError : Status n).failed = true := by
  simp [failed, loadError, BitVec.msb_or, BitVec.msb_intMin]

end Status

/-- What a foreign function does when it is called. -/
inductive Reaction (n : Nat) where
  | returns (s : Status n)
  /-- It calls `ExitDriver`, and is not come back to. -/
  | leaves (s : Status n)

def Reaction.status {n : Nat} : Reaction n → Status n
  | returns s => s
  | leaves s => s

/-- What foreign functions do, given the foreign calls before. -/
abbrev Foreign (n : Nat) := List Call → Call → Reaction n

/-- Foreign functions that return, with the status that each reports given the calls before. -/
def returning {n : Nat} (report : List Call → Call → Status n) : Foreign n :=
  fun called c => .returns (report called c)

/-- The statuses that some calls report, made one after another behind others. -/
def reported {n : Nat} (report : List Call → Call → Status n) :
    List Call → List Call → List (Status n)
  | _, [] => []
  | called, c :: later => report called c :: reported report (called ++ [c]) later

/-- A function of the program at work. -/
structure Activation (n : Nat) where
  /-- The variables that are declared, with what they hold. -/
  locals : String → Option (Option (Status n)) := fun _ => none
  /-- What remains to be done. -/
  tasks : List Statement

inductive Layer (n : Nat) where
  | own (a : Activation n)
  | foreign

structure Machine (n : Nat) where
  /-- The variables of the file that hold a status. -/
  globals : String → Option (Status n)
  /-- For each buffer that was set, the height of the stack at that time, and what is done when
  control comes back by a jump. -/
  buffers : String → Option (Nat × List Statement) := fun _ => none
  /-- The foreign calls so far. -/
  called : List Call := []
  /-- The functions at work, the last one first. -/
  stack : List (Layer n)

inductive Ending (n : Nat) where
  /-- The function that was called first returns, with a status if it has one to return. -/
  | returned (s : Option (Status n))
  /-- The image exits with a status. -/
  | exited (s : Status n)
  deriving DecidableEq

inductive Progress (n : Nat) where
  | go (m : Machine n)
  | stop (called : List Call) (ending : Ending n)

def definition? (program : List Item) (name : String) : Option Definition :=
  (definitions program).find? fun d => d.head.name = name

def declaresFunction (program : List Item) (name : String) : Bool :=
  program.any fun
    | .prototype head => head.name = name
    | _ => false

/-- The first value that an item gives to a variable of the file, if it holds a status. -/
def valueOf? {n : Nat} (name : String) : Item → Option (Status n)
  | .staticVariable type other first =>
    if type = "EFI_STATUS" ∧ other = name then
      match first with
      | some constant => Status.ofName? constant
      | none => some Status.success
    else none
  | _ => none

/-- The first value of a variable of the file that holds a status. -/
def firstValue? {n : Nat} (program : List Item) (name : String) : Option (Status n) :=
  program.findSome? (valueOf? name)

theorem valueOf?_bare {n : Nat} {items : List Item} (h : Bare items) (name : String) :
    ∀ item ∈ items, valueOf? (n := n) name item = none := by
  intro item member
  cases item with
  | staticVariable _ _ _ => cases h _ member
  | _ => rfl

/-- The start of a function. An argument is a status, for its first parameter. -/
def Activation.start {n : Nat} (d : Definition) (argument : Option (Status n)) : Activation n where
  locals name := if d.head.parameters.names.head? = some name then argument.map some else none
  tasks := d.body

theorem Activation.start_none {n : Nat} (d : Definition) :
    Activation.start (n := n) d none = ⟨fun _ => none, d.body⟩ := by
  simp [Activation.start]

/-- Whether a condition holds. `SetJump` is no part of a condition, but decides a branch alone. -/
def holds? {n : Nat} (read : String → Option (Status n)) : Condition → Option Bool
  | .failed name => (read name).map Status.failed
  | .succeeded name => (read name).map fun s => !s.failed
  | .both left right => do if ← holds? read left then holds? read right else some false
  | .either left right => do if ← holds? read left then some true else holds? read right
  | .firstReturn _ => none

namespace Machine

variable {n : Nat}

/-- What a name stands for: a constant, or else a variable. -/
def read (m : Machine n) (a : Activation n) (name : String) : Option (Status n) :=
  (Status.ofName? name).or
    (match a.locals name with
      | some value => value
      | none => m.globals name)

/-- The machine with a function on top of the stack. -/
def push (m : Machine n) (a : Activation n) : Machine n :=
  { m with stack := .own a :: m.stack }

def resume (m : Machine n) (a : Activation n) : Option (Progress n) :=
  some (.go (m.push a))

def write (m : Machine n) (a : Activation n) (name : String) (s : Status n) :
    Option (Progress n) :=
  if (a.locals name).isSome then
    m.resume { a with locals := Function.update a.locals name (some (some s)) }
  else if (m.globals name).isSome then
    { m with globals := Function.update m.globals name (some s) }.resume a
  else none

/-- The buffers whose function is still at work. -/
def prune (m : Machine n) : Machine n :=
  { m with buffers := fun name => (m.buffers name).filter fun kept => kept.1 ≤ m.stack.length }

/-- Returns to the function below. -/
def leave (m : Machine n) (s : Option (Status n)) : Option (Progress n) :=
  match m.stack with
  | [] => some (.stop m.called (.returned s))
  | .own _ :: _ => some (.go m.prune)
  | .foreign :: _ => none

/-- Calls a function of the program. -/
def enter (program : List Item) (m : Machine n) (name : String) (argument : Option (Status n)) :
    Option (Progress n) := do
  let d ← definition? program name
  m.resume (.start d argument)

/-- Calls a foreign function, and goes on with its status if it returns. -/
def callForeign (program : List Item) (foreign : Foreign n) (m : Machine n)
    (a : Activation n) (c : Call) (next : Machine n → Status n → Option (Progress n)) :
    Option (Progress n) :=
  match foreign m.called c with
  | .returns s => next { m with called := m.called ++ [c] } s
  | .leaves s =>
    { m with called := m.called ++ [c], stack := .foreign :: .own a :: m.stack }.enter program
      exitFunction (some s)

def jump (m : Machine n) (a : Activation n) (buffer : String) : Option (Progress n) := do
  let (height, back) ← m.buffers buffer
  match (Layer.own a :: m.stack).drop (m.stack.length + 1 - height) with
  | .own target :: below =>
    some (.go
      { m with stack := .own ⟨fun name => (target.locals name).map fun _ => none, back⟩ :: below
      }.prune)
  | _ => none

/-- Makes a call whose result is not used. -/
def perform (program : List Item) (foreign : Foreign n) (m : Machine n)
    (a : Activation n) (c : Call) : Option (Progress n) :=
  if c = unreachedAssertion then none
  else if c = statusAssertion then do
    if (← m.read a "Status").failed then none else m.resume a
  else if c = jumpBack then m.jump a jumpBuffer
  else if c = imageExit then do some (.stop m.called (.exited (← m.read a "Status")))
  else if (definition? program c.callee).isSome && !declaresFunction program c.callee then
    (m.push a).enter program c.callee none
  else m.callForeign program foreign a c fun m _ => m.resume a

/-- Executes an action. A call whose result is used is foreign. -/
def act (program : List Item) (foreign : Foreign n) (m : Machine n)
    (a : Activation n) : Action → Option (Progress n)
  | .store target (.symbol name) => do m.write a target (← m.read a name)
  | .store target (.call c) => m.callForeign program foreign a c fun m s => m.write a target s
  | .perform c => m.perform program foreign a c
  | .pass receiver c =>
    m.callForeign program foreign a c fun m s => (m.push a).enter program receiver (some s)
  | .give (.symbol name) => do m.leave (some (← m.read a name))
  | .give (.call c) => m.callForeign program foreign a c fun m s => m.leave (some s)

/-- Executes a statement; what follows it is among the tasks of its function already. -/
def execute (program : List Item) (foreign : Foreign n) (m : Machine n)
    (a : Activation n) : Statement → Option (Progress n)
  | .declare _ name => m.resume { a with locals := Function.update a.locals name (some none) }
  | .blank => m.resume a
  | .branch (.firstReturn buffer) yes no =>
    let back := no.map Statement.act ++ a.tasks
    { m with buffers := Function.update m.buffers buffer (some (m.stack.length + 1, back)) }.resume
      { a with tasks := yes.map Statement.act ++ a.tasks }
  | .branch condition yes no => do
    let chosen := if ← holds? (m.read a) condition then yes else no
    m.resume { a with tasks := chosen.map Statement.act ++ a.tasks }
  | .act action => m.act program foreign a action

/-- One step of the function on top of the stack. -/
def step (program : List Item) (foreign : Foreign n) (m : Machine n) :
    Option (Progress n) :=
  match m.stack with
  | .own ⟨_, []⟩ :: below => { m with stack := below }.leave none
  | .own ⟨locals, task :: rest⟩ :: below =>
    { m with stack := below }.execute program foreign ⟨locals, rest⟩ task
  | _ => none

variable {program : List Item} {foreign : Foreign n} {m : Machine n}
  {locals : String → Option (Option (Status n))} {rest : List Statement} {name : String}
  {s : Status n} {c : Call}

theorem read_local {a : Activation n} (unnamed : Status.ofName? (n := n) name = none)
    (h : a.locals name = some (some s)) : m.read a name = some s := by
  rw [read, unnamed, h, Option.none_or]

theorem read_global {a : Activation n} (unnamed : Status.ofName? (n := n) name = none)
    (undeclared : a.locals name = none) (h : m.globals name = some s) :
    m.read a name = some s := by
  rw [read, unnamed, undeclared, Option.none_or, h]

theorem write_local {a : Activation n} (declared : (a.locals name).isSome) :
    m.write a name s =
      m.resume { a with locals := Function.update a.locals name (some (some s)) } :=
  if_pos declared

theorem write_global {a : Activation n} {old : Status n} (undeclared : a.locals name = none)
    (h : m.globals name = some old) (s : Status n) :
    m.write a name s =
      { m with globals := Function.update m.globals name (some s) }.resume a := by
  simp [write, undeclared, h]

theorem step_push (task : Statement) :
    (m.push ⟨locals, task :: rest⟩).step program foreign =
      m.execute program foreign ⟨locals, rest⟩ task := rfl

/-- A function of the program that has nothing left to do returns to the one below. -/
theorem step_end {a : Activation n} {below : List (Layer n)} (stack : m.stack = .own a :: below) :
    (m.push ⟨locals, []⟩).step program foreign = some (.go m.prune) := by
  have left : (m.push ⟨locals, []⟩).step program foreign = m.leave none := rfl
  rw [left, leave, stack]

theorem execute_branch {a : Activation n} {condition : Condition} {yes no : List Action}
    {chosen : Bool} (h : holds? (m.read a) condition = some chosen) :
    m.execute program foreign a (.branch condition yes no) =
      m.resume { a with
        tasks := (if chosen then yes else no).map Statement.act ++ a.tasks } := by
  cases condition with
  | firstReturn _ => cases h
  | _ => simp [execute, h]

theorem execute_give {a : Activation n} (h : m.read a name = some s) :
    m.execute program foreign a (.act (.give (.symbol name))) = m.leave (some s) := by
  simp [execute, act, h]

theorem execute_give_call {a : Activation n} (h : foreign m.called c = .returns s) :
    m.execute program foreign a (.act (.give (.call c))) =
      { m with called := m.called ++ [c] }.leave (some s) := by
  simp [execute, act, callForeign, h]

theorem execute_give_call_left {a : Activation n} (h : foreign m.called c = .leaves s) :
    m.execute program foreign a (.act (.give (.call c))) =
      { m with called := m.called ++ [c], stack := .foreign :: .own a :: m.stack }.enter program
        exitFunction (some s) := by
  simp [execute, act, callForeign, h]

theorem execute_pass {a : Activation n} {receiver : String}
    (h : foreign m.called c = .returns s) :
    m.execute program foreign a (.act (.pass receiver c)) =
      ({ m with called := m.called ++ [c] }.push a).enter program receiver (some s) := by
  simp [execute, act, callForeign, h]

theorem execute_pass_left {a : Activation n} {receiver : String}
    (h : foreign m.called c = .leaves s) :
    m.execute program foreign a (.act (.pass receiver c)) =
      { m with called := m.called ++ [c], stack := .foreign :: .own a :: m.stack }.enter program
        exitFunction (some s) := by
  simp [execute, act, callForeign, h]

theorem execute_jump {a : Activation n} :
    m.execute program foreign a (.act (.perform jumpBack)) = m.jump a jumpBuffer := rfl

theorem execute_exit {a : Activation n} (h : m.read a "Status" = some s) :
    m.execute program foreign a (.act (.perform imageExit)) =
      some (.stop m.called (.exited s)) := by
  have exits : m.execute program foreign a (.act (.perform imageExit)) =
      (m.read a "Status").bind fun s => some (.stop m.called (.exited s)) := rfl
  rw [exits, h, Option.bind_some]

theorem execute_store {a : Activation n} {target : String} (h : m.read a name = some s) :
    m.execute program foreign a (.act (.store target (.symbol name))) = m.write a target s := by
  simp [execute, act, h]

theorem execute_store_call {a : Activation n} {target : String}
    (h : foreign m.called c = .returns s) :
    m.execute program foreign a (.act (.store target (.call c))) =
      { m with called := m.called ++ [c] }.write a target s := by
  simp [execute, act, callForeign, h]

theorem execute_assert {a : Activation n} (h : m.read a "Status" = some s)
    (fine : s.failed = false) :
    m.execute program foreign a (.act (.perform statusAssertion)) = m.resume a := by
  have asserts : m.execute program foreign a (.act (.perform statusAssertion)) =
      (m.read a "Status").bind fun s => if s.failed then none else m.resume a := rfl
  rw [asserts, h, Option.bind_some, fine, if_neg Bool.false_ne_true]

/-- What is not called from the firmware is called in the program or in another file. -/
theorem execute_perform_other {a : Activation n} (other : c ∉ firmwareCalls) :
    m.execute program foreign a (.act (.perform c)) =
      if (definition? program c.callee).isSome && !declaresFunction program c.callee then
        (m.push a).enter program c.callee none
      else m.callForeign program foreign a c fun m _ => m.resume a := by
  simp only [firmwareCalls, List.mem_cons, List.not_mem_nil, or_false, not_or] at other
  obtain ⟨notUnreached, notStatus, notJump, notExit⟩ := other
  simp [execute, act, perform, notUnreached, notStatus, notJump, notExit]

theorem execute_perform {a : Activation n} (other : c ∉ firmwareCalls)
    (undefined : definition? program c.callee = none) (h : foreign m.called c = .returns s) :
    m.execute program foreign a (.act (.perform c)) =
      { m with called := m.called ++ [c] }.resume a := by
  rw [execute_perform_other other, undefined]
  simp [callForeign, h]

/-- What a program declares is foreign, also where the program defines it itself. -/
theorem execute_perform_declared {a : Activation n} (other : c ∉ firmwareCalls)
    (declared : declaresFunction program c.callee = true) (h : foreign m.called c = .returns s) :
    m.execute program foreign a (.act (.perform c)) =
      { m with called := m.called ++ [c] }.resume a := by
  rw [execute_perform_other other, declared]
  simp [callForeign, h]

theorem enter_of_definition {d : Definition} {argument : Option (Status n)}
    (h : definition? program name = some d) :
    m.enter program name argument = m.resume (.start d argument) := by
  simp [enter, h]

theorem execute_perform_own {a : Activation n} {d : Definition} (other : c ∉ firmwareCalls)
    (defined : definition? program c.callee = some d)
    (undeclared : declaresFunction program c.callee = false) :
    m.execute program foreign a (.act (.perform c)) = (m.push a).resume (.start d none) := by
  rw [execute_perform_other other, defined, undeclared]
  exact enter_of_definition defined

/-- The machine when a function of a program is called from outside. -/
def start (program : List Item) (name : String) : Option (Machine n) := do
  let d ← definition? program name
  some { globals := firstValue? program, stack := [.own (.start d none)] }

/-- The machine while a function that was called from outside is at work and no other one is. -/
def alone (globals : String → Option (Status n)) (called : List Call)
    (locals : String → Option (Option (Status n))) (tasks : List Statement) : Machine n :=
  ⟨globals, fun _ => none, called, [.own ⟨locals, tasks⟩]⟩

theorem start_of_definition {d : Definition} (h : definition? program name = some d) :
    start (n := n) program name =
      some (alone (firstValue? program) [] (fun _ => none) d.body) := by
  rw [start, h, Option.bind_eq_bind, Option.bind_some, Activation.start_none]
  rfl

end Machine

section Execution

variable {n : Nat} {program : List Item} {foreign : Foreign n}

/-- An execution from a machine to its end, with all foreign calls that are made. -/
inductive Executes (program : List Item) (foreign : Foreign n) :
    Machine n → List Call → Ending n → Prop where
  | stop {m : Machine n} {called : List Call} {ending : Ending n}
      (last : m.step program foreign = some (.stop called ending)) :
      Executes program foreign m called ending
  | go {m next : Machine n} {called : List Call} {ending : Ending n}
      (first : m.step program foreign = some (.go next))
      (later : Executes program foreign next called ending) :
      Executes program foreign m called ending

/-- A machine comes to another one in some steps. -/
def Leads (program : List Item) (foreign : Foreign n) : Machine n → Machine n → Prop :=
  Relation.ReflTransGen fun m next => m.step program foreign = some (.go next)

/-- A function of the program is called from outside, and the execution ends. -/
def Runs (program : List Item) (foreign : Foreign n) (name : String)
    (called : List Call) (ending : Ending n) : Prop :=
  ∃ m, Machine.start program name = some m ∧ Executes program foreign m called ending

/-- An execution is determined by its start. -/
theorem Executes.unique {m : Machine n} {called others : List Call} {ending other : Ending n}
    (h : Executes program foreign m called ending)
    (second : Executes program foreign m others other) : others = called ∧ other = ending := by
  induction h with
  | stop last =>
      cases second with
      | stop again =>
          cases last.symm.trans again
          exact ⟨rfl, rfl⟩
      | go first _ => cases last.symm.trans first
  | go first _ ih =>
      cases second with
      | stop last => cases first.symm.trans last
      | go again later =>
          cases first.symm.trans again
          exact ih later

theorem Runs.unique {name : String} {called others : List Call} {ending other : Ending n}
    (h : Runs program foreign name called ending)
    (second : Runs program foreign name others other) : others = called ∧ other = ending := by
  obtain ⟨m, started, executes⟩ := h
  obtain ⟨m', again, executes'⟩ := second
  cases started.symm.trans again
  exact executes.unique executes'

theorem Leads.step {m next : Machine n}
    (h : m.step program foreign = some (.go next)) : Leads program foreign m next :=
  .single h

/-- What a foreign function reports is stored in a variable of the function that calls it. -/
theorem Leads.store {m : Machine n} {locals : String → Option (Option (Status n))}
    {target : String} {c : Call} {s : Status n} (declared : (locals target).isSome)
    (returns : foreign m.called c = .returns s) (rest : List Statement) :
    Leads program foreign (m.push ⟨locals, .act (.store target (.call c)) :: rest⟩)
      ({ m with called := m.called ++ [c] }.push
        ⟨Function.update locals target (some (some s)), rest⟩) :=
  .step ((Machine.step_push _).trans
    ((Machine.execute_store_call returns).trans (Machine.write_local declared)))

/-- What a function that returns reports is stored in a variable of the function at work. -/
theorem Leads.store_report {report : List Call → Call → Status n}
    {globals : String → Option (Status n)} {called : List Call}
    {locals : String → Option (Option (Status n))} {target : String}
    (declared : (locals target).isSome) (c : Call) (rest : List Statement) :
    Leads program (returning report)
      (.alone globals called locals (.act (.store target (.call c)) :: rest))
      (.alone globals (called ++ [c])
        (Function.update locals target (some (some (report called c)))) rest) :=
  Leads.store (m := ⟨globals, fun _ => none, called, []⟩) declared rfl rest

/-- What a name stands for is stored in a variable of the function at work. -/
theorem Leads.assign {m : Machine n} {locals : String → Option (Option (Status n))}
    {target name : String} {s : Status n} {rest : List Statement}
    (declared : (locals target).isSome) (holds : m.read ⟨locals, rest⟩ name = some s) :
    Leads program foreign (m.push ⟨locals, .act (.store target (.symbol name)) :: rest⟩)
      (m.push ⟨Function.update locals target (some (some s)), rest⟩) :=
  .step ((Machine.step_push _).trans
    ((Machine.execute_store holds).trans (Machine.write_local declared)))

/-- A branch on a condition that is decided comes to its chosen actions. -/
theorem Leads.branch (program : List Item) (foreign : Foreign n) (yes no : List Action)
    {m : Machine n} {locals : String → Option (Option (Status n))} {condition : Condition}
    {chosen : Bool} {rest : List Statement}
    (h : holds? (m.read ⟨locals, rest⟩) condition = some chosen) :
    Leads program foreign (m.push ⟨locals, .branch condition yes no :: rest⟩)
      (m.push ⟨locals, (if chosen then yes else no).map Statement.act ++ rest⟩) :=
  .step ((Machine.step_push _).trans (Machine.execute_branch h))

theorem Leads.executes {m next : Machine n} {called : List Call} {ending : Ending n}
    (h : Leads program foreign m next)
    (later : Executes program foreign next called ending) :
    Executes program foreign m called ending := by
  induction h using Relation.ReflTransGen.head_induction_on with
  | refl => exact later
  | head first _ ih => exact .go first ih

/-- The function that was called from outside returns a status that it holds in a variable. -/
theorem Executes.give {globals : String → Option (Status n)} {called : List Call}
    {locals : String → Option (Option (Status n))} {name : String} {s : Status n}
    (unnamed : Status.ofName? (n := n) name = none) (holds : locals name = some (some s))
    (rest : List Statement) :
    Executes program foreign
      (.alone globals called locals (.act (.give (.symbol name)) :: rest)) called
      (.returned (some s)) :=
  .stop ((Machine.step_push (m := ⟨globals, fun _ => none, called, []⟩) _).trans
    (Machine.execute_give (Machine.read_local unnamed holds)))

/-- The function that was called from outside returns what a foreign function reports. -/
theorem Executes.give_call {globals : String → Option (Status n)} {called : List Call}
    {locals : String → Option (Option (Status n))} {c : Call} {s : Status n}
    (returns : foreign called c = .returns s) (rest : List Statement) :
    Executes program foreign (.alone globals called locals (.act (.give (.call c)) :: rest))
      (called ++ [c]) (.returned (some s)) :=
  .stop ((Machine.step_push (m := ⟨globals, fun _ => none, called, []⟩) _).trans
    (Machine.execute_give_call returns))

end Execution

end FirmwareGlue.Glue
