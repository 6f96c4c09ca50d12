import FirmwareGlue.Proofs.Code.Text
import FirmwareGlue.Proofs.Glue.Rendering

/-!
# Writing only adds text

Entry points and unload handlers are written to a buffer in many small steps, by one strategy for
each shape of module. Each step adds a text at the end, whatever the buffer holds, and steps one
after another add their texts in that order; a loop over symbols adds the texts of its turns. So
what is written is the text of the generated items, which are the same for any buffer. The one
check that may fail comes before the first step, so an error leaves the buffer as it was.

What is written depends on the unload handlers for drivers and applications only, and on the policy
only if there are several handlers. In these cases it does: the texts have different endings.
-/

namespace FirmwareGlue

open Code

namespace Writer

/-- A writer comes to no error, and does nothing but add a text, whatever the buffer holds. -/
def Emits (w : Writer Unit) (text : String) : Prop :=
  ∀ buffer, StateT.run (ExceptT.run w) buffer = (.ok (), buffer ++ text)

/-- A writer comes to an error, and leaves the buffer as it is. -/
def Refuses (w : Writer Unit) (e : Error) : Prop :=
  ∀ buffer, StateT.run (ExceptT.run w) buffer = (.error e, buffer)

variable {w next : Writer Unit} {text more : String}

theorem emits_put (text : String) : Emits (put text) text :=
  fun _ => rfl

theorem emits_pure : Emits (pure ()) "" := by
  intro buffer
  rw [String.append_empty]
  rfl

/-- What is written in turn stands in the same order. -/
theorem Emits.seq (first : Emits w text) (second : Emits next more) :
    Emits (w >>= fun _ => next) (text ++ more) := by
  intro buffer
  have run : StateT.run (ExceptT.run (w >>= fun _ => next)) buffer =
      StateT.run (ExceptT.run next) (buffer ++ text) := by
    rw [ExceptT.run_bind, StateT.run_bind, first buffer]
    rfl
  rw [run, second, String.append_assoc]

theorem Emits.forM {α : Type} {write : α → Writer Unit} {text : α → String}
    (each : ∀ x, Emits (write x) (text x)) (list : List α) :
    Emits (list.forM write) (concat (list.map text)) := by
  induction list with
  | nil => exact emits_pure
  | cons x rest ih =>
      rw [List.map_cons, concat_cons]
      exact (each x).seq ih

/-- What is looked up first leaves the buffer alone. -/
theorem Emits.lookup {α : Type} {a : α} {write : α → Writer Unit} (h : Emits (write a) text) :
    Emits (liftM (Except.ok a : Except Error α) >>= write) text :=
  h

theorem refuses_lookup {α : Type} {e : Error} {write : α → Writer Unit} :
    Refuses (liftM (Except.error e : Except Error α) >>= write) e :=
  fun _ => rfl

theorem Emits.of_eq (h : Emits w text) (same : text = more) : Emits w more :=
  same ▸ h

end Writer

namespace Glue

open Writer

theorem emits_writeParameters {lines : List String} (some_line : lines ≠ []) :
    Emits (writeParameters lines) ("  " ++ String.intercalate ",\n  " lines ++ "\n") := by
  induction lines with
  | nil => exact absurd rfl some_line
  | cons line rest ih =>
      cases rest with
      | nil =>
          rw [String.intercalate_singleton]
          exact emits_put _
      | cons next more =>
          apply ((emits_put _).seq (ih (List.cons_ne_nil _ _))).of_eq
          simp [← String.toList_inj, String.intercalate_cons_cons]

theorem emits_writeHead (head : Signature) (close : String) :
    Emits (writeHead head close) (head.text ++ close) := by
  have some_line : head.parameters.lines ≠ [] := by
    unfold ParameterList.lines
    split
    · simp
    · next entries => simpa using entries
  apply ((emits_put _).seq ((emits_writeParameters some_line).seq
    ((emits_put _).seq (emits_put close)))).of_eq
  simp [← String.toList_inj, Signature.text]

theorem itemsText_prototypes (returns : String) (parameters : ParameterList)
    (symbols : List String) :
    itemsText (prototypes returns parameters symbols) =
      concat (symbols.map fun symbol =>
        Signature.text ⟨returns, symbol, parameters⟩ ++ declaration) := by
  rw [itemsText, prototypes, List.map_map]
  rfl

theorem emits_writePrototypes (returns : String) (parameters : ParameterList)
    (symbols : List String) :
    Emits (writePrototypes returns parameters symbols)
      (itemsText (prototypes returns parameters symbols)) := by
  rw [itemsText_prototypes]
  exact Emits.forM (fun _ => emits_writeHead _ _) symbols

/-- A function is written in three parts: its head, its body and the end of it. -/
theorem itemsText_function (head : Signature) (body : List Statement) :
    itemsText [.function head body] =
      head.text ++ definition ++ (concat (body.map Statement.text) ++ bodyEnd) := by
  rw [itemsText_cons, Item.text, itemsText_nil, String.append_empty, String.append_assoc]
  rfl

theorem emits_function {head : Signature} {body : List Statement} {write : Writer Unit}
    (h : Emits write (concat (body.map Statement.text))) :
    Emits (do writeHead head definition; write; put bodyEnd) (itemsText [.function head body]) := by
  rw [itemsText_function]
  exact (emits_writeHead head definition).seq (h.seq (emits_put bodyEnd))

theorem emits_writeStatements (statements : List Statement) :
    Emits (writeStatements statements) (concat (statements.map Statement.text)) :=
  Emits.forM (fun _ => emits_put _) statements

theorem emits_writeLines (items : List Item) : Emits (writeLines items) (itemsText items) :=
  Emits.forM (fun _ => emits_put _) items

/-- Writing the statements of each of some symbols in turn. -/
theorem emits_forM_writeStatements (step : String → List Statement) (symbols : List String) :
    Emits (symbols.forM fun symbol => writeStatements (step symbol))
      (concat ((symbols.flatMap step).map Statement.text)) := by
  rw [concat_map_flatMap]
  exact Emits.forM (fun _ => emits_writeStatements _) symbols

/-- Writing three groups of statements, the middle one by a loop over some symbols. -/
theorem emits_loop (start last : List Statement) (step : String → List Statement)
    (symbols : List String) :
    Emits (do
        writeStatements start
        symbols.forM fun symbol => writeStatements (step symbol)
        writeStatements last)
      (concat ((start ++ symbols.flatMap step ++ last).map Statement.text)) := by
  simp only [List.map_append, concat_append, String.append_assoc]
  exact (emits_writeStatements start).seq ((emits_forM_writeStatements step symbols).seq
    (emits_writeStatements last))

theorem emits_writePeimBody (entries : List String) :
    Emits (writePeimBody entries) (concat ((peimBody entries).map Statement.text)) := by
  match entries with
  | [] => exact emits_writeStatements _
  | [entry] => exact emits_writeStatements _
  | first :: second :: rest => exact emits_loop _ _ peimStep (first :: second :: rest)

theorem emits_writeDriverBody (entries : List String) :
    Emits (writeDriverBody entries) (concat ((driverBody entries).map Statement.text)) := by
  match entries with
  | [] => exact emits_writeStatements _
  | [entry] => exact emits_writeStatements _
  | first :: second :: rest =>
      apply ((emits_forM_writeStatements driverStep (first :: second :: rest)).seq
        (emits_writeStatements _)).of_eq
      rw [← concat_append, ← List.map_append]
      rfl

theorem emits_writeUnloadBody (policy : UnloadPolicy) (handlers : List String) :
    Emits (writeUnloadBody policy handlers)
      (concat ((unloadBody policy handlers).map Statement.text)) := by
  match policy, handlers with
  | _, [] => cases policy <;> exact emits_writeStatements _
  | _, [handler] => cases policy <;> exact emits_writeStatements _
  | .runAll, first :: second :: rest =>
      apply (emits_loop _ _ (fun handler => [runStep handler]) (second :: rest)).of_eq
      simp [unloadBody, ← List.map_eq_flatMap]
  | .stopOnError, first :: second :: rest =>
      exact emits_loop _ _ stopStep (first :: second :: rest)

theorem emits_writeExit (entries : List String) :
    Emits (writeExit entries) (itemsText (exitItems entries)) := by
  cases entries with
  | nil => exact emits_pure
  | cons first rest => exact emits_function (emits_writeStatements _)

theorem emits_writeUnload (policy : UnloadPolicy) (handlers : List String) :
    Emits (writeUnload policy handlers) (itemsText (unloadItems policy handlers)) := by
  apply ((emits_writePrototypes _ _ handlers).seq ((emits_writeLines _).seq
    (emits_function (emits_writeUnloadBody policy handlers)))).of_eq
  rw [← itemsText_append, ← itemsText_append]
  rfl

theorem emits_writeDriver (revision : Bool) (entries : List String) (policy : UnloadPolicy)
    (unloads : List String) :
    Emits (writeDriver revision entries policy unloads)
      (itemsText ((if revision then
          [.constant ⟨true, .uint32, 1, "_gUefiDriverRevision", 0⟩, .blank] else []) ++
        driverItems entries ++ unloadItems policy unloads)) := by
  apply ((emits_writeLines _).seq ((emits_writePrototypes _ _ entries).seq
    ((emits_writeLines _).seq ((emits_writeLines _).seq
      ((emits_writeHead _ _).seq ((emits_writeDriverBody entries).seq ((emits_put _).seq
        ((emits_writeExit entries).seq (emits_writeUnload policy unloads))))))))).of_eq
  simp only [driverItems, itemsText_append, itemsText_function, String.append_assoc]

theorem emits_writePeim (entries : List String) :
    Emits (writePeim entries) (itemsText (peimItems entries)) := by
  apply ((emits_writeLines _).seq ((emits_writePrototypes _ _ entries).seq
    (emits_function (emits_writePeimBody entries)))).of_eq
  simp only [peimItems, itemsText_append, String.append_assoc]

theorem emits_writePeiCore (entry : String) :
    Emits (writePeiCore (.ok entry)) (itemsText (peiCoreItems entry)) := by
  apply Emits.lookup
  apply ((emits_writeHead _ _).seq (emits_function (emits_writeStatements _))).of_eq
  simp only [peiCoreItems, itemsText_append, itemsText_prototypes, List.map_cons, List.map_nil,
    concat_cons, concat_nil, String.append_empty]

theorem emits_writeDxeCore (entry : String) :
    Emits (writeDxeCore (.ok entry)) (itemsText (dxeCoreItems entry)) := by
  apply Emits.lookup
  apply ((emits_writeLines _).seq ((emits_writeHead _ _).seq
    (emits_function (emits_writeStatements _)))).of_eq
  simp only [dxeCoreItems, itemsText_append, itemsText_prototypes, List.map_cons, List.map_nil,
    concat_cons, concat_nil, String.append_empty, String.append_assoc]

end Glue

namespace EntryPoints

variable {e : EntryPoints} {items : List Item} {error : Error}

/-- What is written is the text of the generated items. -/
theorem emits_write (h : e.items = .ok items) : e.write.Emits (itemsText items) := by
  unfold EntryPoints.items at h
  unfold write
  split at h
  case h_1 =>
    cases h
    exact Writer.emits_pure
  case h_2 =>
    obtain ⟨entry, only, made⟩ := bind_ok_iff.1 h
    cases made
    simp only [only]
    exact Glue.emits_writePeiCore entry
  case h_3 =>
    obtain ⟨entry, only, made⟩ := bind_ok_iff.1 h
    cases made
    simp only [only]
    exact Glue.emits_writeDxeCore entry
  case h_4 =>
    cases h
    exact Glue.emits_writePeim e.entries
  case h_5 =>
    cases h
    exact Glue.emits_writeDriver true e.entries e.policy e.unloads
  case h_6 =>
    cases h
    exact Glue.emits_writeDriver false e.entries e.policy e.unloads

/-- The error comes before anything is written. -/
theorem refuses_write (h : e.items = .error error) : e.write.Refuses error := by
  unfold EntryPoints.items at h
  unfold write
  split at h
  case h_2 =>
    have only := (bind_error_iff.1 h).resolve_right (by simp)
    simp only [only]
    exact Writer.refuses_lookup
  case h_3 =>
    have only := (bind_error_iff.1 h).resolve_right (by simp)
    simp only [only]
    exact Writer.refuses_lookup
  all_goals cases h

theorem appendTo_of_ok (h : e.items = .ok items) (buffer : String) :
    e.appendTo buffer = (buffer ++ itemsText items, .ok ()) := by
  rw [appendTo, emits_write h buffer]
  rfl

theorem appendTo_of_error (h : e.items = .error error) (buffer : String) :
    e.appendTo buffer = (buffer, .error error) := by
  rw [appendTo, refuses_write h buffer]
  rfl

end EntryPoints

/-- Drivers and applications, which have an unload dispatcher. -/
def ModuleType.IsDriver (type : ModuleType) : Prop :=
  type ∈ [.dxeDriver, .dxeRuntimeDriver, .dxeSalDriver, .dxeSmmDriver, .uefiDriver,
    .uefiApplication]

theorem ModuleType.isDriver_iff {type : ModuleType} :
    type.IsDriver ↔ type.shape = .driver ∨ type.shape = .smmDriver := by
  cases type <;> simp [IsDriver, shape]

def EndsWith (text ending : String) : Prop :=
  ∃ front, text = front ++ ending

namespace EndsWith

variable {text other ending first second : String}

theorem refl (text : String) : EndsWith text text :=
  ⟨"", String.empty_append.symm⟩

theorem behind (h : EndsWith text ending) (front : String) : EndsWith (front ++ text) ending := by
  obtain ⟨before, rfl⟩ := h
  exact ⟨front ++ before, String.append_assoc.symm⟩

theorem shorter {front : String} (h : EndsWith text (front ++ ending)) : EndsWith text ending := by
  obtain ⟨before, rfl⟩ := h
  exact ⟨before ++ front, String.append_assoc.symm⟩

/-- Two texts with different endings of one length are different. -/
theorem ne (h : EndsWith text first) (h' : EndsWith other second)
    (size : first.length = second.length) (different : first ≠ second) : text ≠ other := by
  obtain ⟨front, rfl⟩ := h
  obtain ⟨before, rfl⟩ := h'
  intro same
  have lists := congrArg String.toList same
  rw [String.toList_append, String.toList_append] at lists
  have size : first.toList.length = second.toList.length := by
    simpa only [String.length_toList] using size
  exact different (String.toList_inj.1 (List.append_inj' lists size).2)

end EndsWith

namespace Glue

variable {policy : UnloadPolicy} {handlers : List String}

/-- What is made for unload handlers ends with the last statements of the dispatcher. -/
theorem endsWith_unloadItems {start last : List Statement}
    (body : unloadBody policy handlers = start ++ last) (before : List Item) :
    EndsWith (itemsText (before ++ unloadItems policy handlers))
      (concat (last.map Statement.text) ++ bodyEnd) := by
  have split : unloadItems policy handlers =
      prototypes "EFI_STATUS" unloadParameters handlers ++
        [.constant ⟨true, .uint8, 2, "_gDriverUnloadImageCount", handlers.length⟩, .blank] ++
        [.function ⟨"EFI_STATUS", unloadDispatcher, unloadParameters⟩ (start ++ last)] := by
    rw [unloadItems, body, List.append_assoc]
    rfl
  simp only [split, itemsText_append, itemsText_function, List.map_append, concat_append,
    String.append_assoc]
  iterate 6 apply EndsWith.behind
  exact EndsWith.refl _

/-- Without a handler and with a single one, different texts are made. -/
theorem itemsText_unloadItems_ne (policy : UnloadPolicy) (before : List Item) :
    itemsText (before ++ unloadItems policy []) ≠
      itemsText (before ++ unloadItems policy ["Stop"]) := by
  have none : concat ([.act (.give (.symbol "EFI_SUCCESS"))].map Statement.text) ++ bodyEnd =
      "  return EFI_SUCCES" ++ "S;\n\x7d\n\n" := by
    decide +kernel
  have single : concat ([.act (.give (.call (unloadCall "Stop")))].map Statement.text) ++ bodyEnd =
      "  return Stop (ImageHandle" ++ ");\n\x7d\n\n" := by
    decide +kernel
  have first := endsWith_unloadItems (List.nil_append (unloadBody policy [])).symm before
  have second := endsWith_unloadItems (List.nil_append (unloadBody policy ["Stop"])).symm before
  rw [unloadBody, none] at first
  rw [unloadBody, single] at second
  exact first.shorter.ne second.shorter rfl (by decide)

/-- Where every handler runs, the last statements call the last one. -/
theorem endsWith_runAll (first last : String) (front : List String) (before : List Item) :
    EndsWith (itemsText (before ++ unloadItems .runAll (first :: (front ++ [last]))))
      ");\n  \x7d\n\n  return Status;\n\x7d\n\n" := by
  have body : unloadBody .runAll (first :: (front ++ [last])) =
      ([Statement.declare "EFI_STATUS" "Status", Statement.blank,
          Statement.act (.store "Status" (.call (unloadCall first)))] ++ front.map runStep) ++
        [runStep last, Statement.blank, Statement.act (.give (.symbol "Status"))] := by
    cases front <;> simp [unloadBody]
  have ends : concat ([runStep last, .blank, .act (.give (.symbol "Status"))].map Statement.text) ++
        bodyEnd =
      ("  if (EFI_ERROR (Status)) \x7b\n    " ++ last ++ " (ImageHandle);\n" ++
        "  \x7d else \x7b\n    Status = " ++ last ++ " (ImageHandle") ++
        ");\n  \x7d\n\n  return Status;\n\x7d\n\n" := by
    simp [← String.toList_inj, runStep, Statement.text, blockText, Action.text, Value.text,
      Condition.text, Call.text, unloadCall, forward, callNames, ParameterList.names,
      unloadParameters, Argument.text, bodyEnd]
  have h := endsWith_unloadItems body before
  rw [ends] at h
  exact h.shorter

/-- Where an error stops, the last statements return it. -/
theorem endsWith_stopOnError (first last : String) (front : List String) (before : List Item) :
    EndsWith (itemsText (before ++ unloadItems .stopOnError (first :: (front ++ [last]))))
      "s;\n  \x7d\n\n  return Status;\n\x7d\n\n" := by
  have body : unloadBody .stopOnError (first :: (front ++ [last])) =
      ([Statement.declare "EFI_STATUS" "Status", Statement.blank] ++
          (first :: front).flatMap stopStep ++
          [Statement.act (.store "Status" (.call (unloadCall last)))]) ++
        [Statement.branch (.failed "Status") [.give (.symbol "Status")] [], Statement.blank,
          Statement.act (.give (.symbol "Status"))] := by
    cases front <;> simp [unloadBody, stopStep]
  have ends : concat ([Statement.branch (.failed "Status") [.give (.symbol "Status")] [],
        Statement.blank, Statement.act (.give (.symbol "Status"))].map Statement.text) ++ bodyEnd =
      "  if (EFI_ERROR (Status)) \x7b\n    return Statu" ++
        "s;\n  \x7d\n\n  return Status;\n\x7d\n\n" := rfl
  have h := endsWith_unloadItems body before
  rw [ends] at h
  exact h.shorter

/-- With several handlers, the policies make different texts. -/
theorem itemsText_unloadItems_policy_ne (several : 2 ≤ handlers.length) (before : List Item) :
    itemsText (before ++ unloadItems .runAll handlers) ≠
      itemsText (before ++ unloadItems .stopOnError handlers) := by
  match handlers, several with
  | first :: second :: rest, _ =>
      rw [← List.dropLast_concat_getLast (List.cons_ne_nil second rest)]
      exact (endsWith_runAll _ _ _ _).ne (endsWith_stopOnError _ _ _ _) (by decide) (by decide)

/-- The policy matters to several handlers only. -/
theorem unloadItems_policy (few : handlers.length < 2) (policy other : UnloadPolicy) :
    unloadItems policy handlers = unloadItems other handlers := by
  match handlers, few with
  | [], _ => rfl
  | [handler], _ => rfl

end Glue

namespace EntryPoints

variable {e other : EntryPoints}

/-- Two modules are alike if the same is written for both, to any buffer. -/
def Alike (e other : EntryPoints) : Prop :=
  ∀ buffer, e.appendTo buffer = other.appendTo buffer

theorem alike_of_items (same : e.items = other.items) : Alike e other := by
  intro buffer
  cases made : e.items with
  | ok items => rw [appendTo_of_ok made, appendTo_of_ok (same ▸ made)]
  | error error => rw [appendTo_of_error made, appendTo_of_error (same ▸ made)]

theorem Alike.itemsText_eq (h : Alike e other) {items more : List Item} (made : e.items = .ok items)
    (otherMade : other.items = .ok more) : itemsText items = itemsText more := by
  have same := congrArg Prod.fst (h "")
  rw [appendTo_of_ok made, appendTo_of_ok otherMade, String.empty_append,
    String.empty_append] at same
  exact same

theorem items_unloads (e : EntryPoints) (noDriver : ¬ e.type.IsDriver) (unloads : List String)
    (policy : UnloadPolicy) : { e with unloads, policy }.items = e.items := by
  rw [ModuleType.isDriver_iff, not_or] at noDriver
  unfold EntryPoints.items
  cases shape : e.type.shape with
  | driver => exact absurd shape noDriver.1
  | smmDriver => exact absurd shape noDriver.2
  | _ => rfl

theorem exists_items_driver (e : EntryPoints) (driver : e.type.IsDriver) :
    ∃ before, ∀ unloads policy,
      { e with unloads, policy }.items = .ok (before ++ Glue.unloadItems policy unloads) := by
  rcases ModuleType.isDriver_iff.1 driver with shape | shape
  · refine ⟨[Item.constant ⟨true, .uint32, 1, "_gUefiDriverRevision", 0⟩, Item.blank] ++
      Glue.driverItems e.entries, ?_⟩
    intro unloads policy
    simp only [EntryPoints.items, shape]
  · refine ⟨Glue.driverItems e.entries, ?_⟩
    intro unloads policy
    simp only [EntryPoints.items, shape]

/-- Unload handlers matter to drivers and applications only, and they do matter to these. -/
theorem exists_unloads_iff (e : EntryPoints) :
    (∃ unloads, ¬ Alike { e with unloads } e) ↔ e.type.IsDriver := by
  constructor
  · rintro ⟨unloads, different⟩
    by_contra noDriver
    exact different (alike_of_items (e.items_unloads noDriver unloads e.policy))
  · intro driver
    obtain ⟨before, items⟩ := e.exists_items_driver driver
    by_contra all
    simp only [not_exists, not_not] at all
    have same : Alike { e with unloads := [] } { e with unloads := ["Stop"] } :=
      fun buffer => (all [] buffer).trans (all ["Stop"] buffer).symm
    exact Glue.itemsText_unloadItems_ne e.policy before
      (same.itemsText_eq (items [] e.policy) (items ["Stop"] e.policy))

/-- The policy matters to drivers and applications with several unload handlers only, and it does
matter to these. -/
theorem exists_policy_iff (e : EntryPoints) :
    (∃ policy, ¬ Alike { e with policy } e) ↔ e.type.IsDriver ∧ 2 ≤ e.unloads.length := by
  constructor
  · rintro ⟨policy, different⟩
    by_contra neither
    apply different
    by_cases driver : e.type.IsDriver
    · obtain ⟨before, items⟩ := e.exists_items_driver driver
      have few : e.unloads.length < 2 := by
        by_contra several
        exact neither ⟨driver, Nat.le_of_not_lt several⟩
      apply alike_of_items
      rw [items e.unloads policy, Glue.unloadItems_policy few policy e.policy]
      exact (items e.unloads e.policy).symm
    · exact alike_of_items (e.items_unloads driver e.unloads policy)
  · rintro ⟨driver, several⟩
    obtain ⟨before, items⟩ := e.exists_items_driver driver
    by_contra all
    simp only [not_exists, not_not] at all
    have same : Alike { e with policy := .runAll } { e with policy := .stopOnError } :=
      fun buffer => (all .runAll buffer).trans (all .stopOnError buffer).symm
    exact Glue.itemsText_unloadItems_policy_ne several before
      (same.itemsText_eq (items e.unloads .runAll) (items e.unloads .stopOnError))

/-- Writing to a buffer adds a text or does nothing, and what it depends on. -/
structure OnlyAppends (e : EntryPoints) : Prop where
  /-- What is added is the text of the generated items, whatever the buffer holds, -/
  added : ∀ items, e.items = .ok items →
    ∀ buffer, e.appendTo buffer = (buffer ++ itemsText items, .ok ())
  /-- and where there are none the buffer stays as it is. -/
  kept : ∀ error, e.items = .error error →
    ∀ buffer, e.appendTo buffer = (buffer, .error error)
  /-- A foundation with another number of entry points than one is the only error. -/
  refused : ∀ buffer error, (e.appendTo buffer).2 = .error error ↔
    e.type.IsFoundation ∧ e.entries.length ≠ 1 ∧
      error = .entryPointCount e.type e.entries.length
  unloads : (∃ unloads, ¬ Alike { e with unloads } e) ↔ e.type.IsDriver
  policy : (∃ policy, ¬ Alike { e with policy } e) ↔ e.type.IsDriver ∧ 2 ≤ e.unloads.length

theorem appendTo_error_iff (buffer : String) (error : Error) :
    (e.appendTo buffer).2 = .error error ↔
      e.type.IsFoundation ∧ e.entries.length ≠ 1 ∧
        error = .entryPointCount e.type e.entries.length := by
  have fails : (e.appendTo buffer).2 = .error error ↔ e.items = .error error := by
    cases made : e.items with
    | ok items => simp [appendTo_of_ok made]
    | error error => simp [appendTo_of_error made]
  have single := @exists_items_iff e
  rw [fails]
  constructor
  · intro failed
    have wrong : ¬ (e.type.IsFoundation → e.entries.length = 1) := by
      rw [← single]
      rintro ⟨items, made⟩
      cases failed.symm.trans made
    rw [Classical.not_imp] at wrong
    exact ⟨wrong.1, wrong.2, items_error failed⟩
  · rintro ⟨foundation, wrong, rfl⟩
    cases made : e.items with
    | ok items => exact absurd (single.1 ⟨items, made⟩ foundation) wrong
    | error error => rw [items_error made]

/-- What is generated for entry points and unload handlers is added at the end of the buffer; where
there is an error, it comes before anything is written. -/
theorem appendTo_onlyAppends (e : EntryPoints) : e.OnlyAppends where
  added := fun _ made => appendTo_of_ok made
  kept := fun _ failed => appendTo_of_error failed
  refused := appendTo_error_iff
  unloads := e.exists_unloads_iff
  policy := e.exists_policy_iff

end EntryPoints

end FirmwareGlue
