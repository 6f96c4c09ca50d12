import FirmwareGlue.Proofs.Glue.Declaration
import FirmwareGlue.Proofs.Glue.LibraryDispatch
import FirmwareGlue.Proofs.Glue.Rendering

/-!
# Generated sources are linked

Every part of a generated source declares what it uses: the driver-model table its objects, the
tables of event callbacks the callbacks, and each dispatcher the functions that it calls. The parts
are made for lists of any length, so each is shown to be linked by how it is made from its list:
one declaration and at least one use for each entry.
-/

namespace FirmwareGlue

open Code

namespace Glue

/-- The parameters that dispatchers hand on. -/
def handedOn : List ParameterList :=
  [{}, peiCoreParameters, dxeCoreParameters, peimParameters, peiLibraryParameters,
    driverParameters, unloadParameters]

/-- What is called with the parameters of a dispatcher is not provided by the firmware. -/
theorem forward_notMem_ownCalls {parameters : ParameterList} (h : parameters ∈ handedOn)
    (symbol : String) : forward symbol parameters ∉ ownCalls := by
  have arguments : ∀ p ∈ handedOn,
      p.names.map Argument.symbol ∉ ownCalls.map Call.arguments := by
    decide
  intro own
  exact arguments parameters h (List.mem_map_of_mem own)

@[simp] theorem externalCalls_append (first second : List Statement) :
    externalCalls (first ++ second) = externalCalls first ++ externalCalls second := by
  simp [externalCalls]

theorem externalCalls_flatMap {α : Type} (l : List α) (f : α → List Statement) :
    externalCalls (l.flatMap f) = l.flatMap fun x => externalCalls (f x) := by
  rw [externalCalls, List.flatMap_assoc, List.filter_flatMap]
  rfl

/-- A function is declared for a call that hands on parameters which the caller has. -/
theorem declares_forward {returns symbol : String} {parameters : ParameterList}
    {inside : Signature} (known : ∀ name ∈ parameters.names, name ∈ inside.parameters.names) :
    Declares (.prototype ⟨returns, symbol, parameters⟩)
      (.call inside (forward symbol parameters)) := by
  refine ⟨rfl, by simp [forward, callNames, ParameterList.names], ?_⟩
  intro a member
  obtain ⟨name, listed, rfl⟩ := List.mem_map.1 member
  obtain ⟨p, entry, rfl⟩ := List.mem_map.1 (known name listed)
  exact ⟨p, entry, rfl⟩

theorem hookCall_notMem_ownCalls (inside : LibraryConvention) (h : LibraryHook) :
    hookCall inside h ∉ ownCalls := by
  apply forward_notMem_ownCalls
  cases inside.ofLibrary h.type <;> decide

theorem externalCalls_hookBody (inside : LibraryConvention) (hooks : List LibraryHook) :
    externalCalls (hookBody inside hooks) = hooks.map (hookCall inside) := by
  have each (h : LibraryHook) :
      [hookCall inside h, statusAssertion].filter (· ∉ ownCalls) = [hookCall inside h] := by
    have own : statusAssertion ∈ ownCalls := by decide
    simp [hookCall_notMem_ownCalls, own]
  rw [externalCalls, hookBody_calls, List.filter_flatMap, List.map_eq_flatMap]
  simp only [each]

/-- One call of an action is all that it calls, if it hands on the parameters of a dispatcher. -/
theorem externalCalls_forward {parameters : ParameterList} (h : parameters ∈ handedOn)
    {body : List Statement} {symbol : String}
    (calls : body.flatMap Statement.calls = [forward symbol parameters]) :
    externalCalls body = [forward symbol parameters] := by
  rw [externalCalls, calls]
  simp [forward_notMem_ownCalls h]

theorem externalCalls_peimBody (entries : List String) :
    externalCalls (peimBody entries) = entries.map fun entry => forward entry peimParameters := by
  have step (entry : String) : externalCalls (peimStep entry) = [forward entry peimParameters] :=
    externalCalls_forward (by decide) rfl
  match entries with
  | [] => rfl
  | [entry] => exact externalCalls_forward (by decide) rfl
  | first :: second :: rest =>
      have body : peimBody (first :: second :: rest) =
          [.declare "EFI_STATUS" "Status", .declare "EFI_STATUS" "CombinedStatus", .blank,
            .act (.store "CombinedStatus" (.symbol "EFI_LOAD_ERROR")), .blank] ++
            (first :: second :: rest).flatMap peimStep ++
            [.act (.give (.symbol "CombinedStatus"))] := rfl
      rw [body, externalCalls_append, externalCalls_append, externalCalls_flatMap,
        List.map_eq_flatMap]
      simp only [step]
      exact List.append_nil _

theorem externalCalls_driverBody (entries : List String) :
    externalCalls (driverBody entries) =
      entries.map fun entry => forward entry driverParameters := by
  have step (entry : String) :
      externalCalls (driverStep entry) = [forward entry driverParameters] := by
    have own : callNames "ASSERT" ["FALSE"] ∈ ownCalls := by decide
    have called : forward entry driverParameters ∉ ownCalls :=
      forward_notMem_ownCalls (by decide) entry
    simp [externalCalls, driverStep, Statement.calls, Action.calls, assertUnreached, own, called]
  match entries with
  | [] => rfl
  | [entry] => exact externalCalls_forward (by decide) rfl
  | first :: second :: rest =>
      have body : driverBody (first :: second :: rest) =
          (first :: second :: rest).flatMap driverStep ++
            [.act (.give (.symbol keptStatus))] := rfl
      rw [body, externalCalls_append, externalCalls_flatMap, List.map_eq_flatMap]
      simp only [step]
      exact List.append_nil _

theorem externalCalls_exitBody (entries : List String) : externalCalls (exitBody entries) = [] := by
  match entries with
  | [] => rfl
  | [_] => rfl
  | _ :: _ :: _ => rfl

theorem externalCalls_unloadBody_stopOnError (handlers : List String) :
    externalCalls (unloadBody .stopOnError handlers) = handlers.map unloadCall := by
  have step (handler : String) : externalCalls (stopStep handler) = [unloadCall handler] :=
    externalCalls_forward (by decide) rfl
  match handlers with
  | [] => rfl
  | [handler] => exact externalCalls_forward (by decide) rfl
  | first :: second :: rest =>
      have body : unloadBody .stopOnError (first :: second :: rest) =
          [.declare "EFI_STATUS" "Status", .blank] ++
            (first :: second :: rest).flatMap stopStep ++
            [.blank, .act (.give (.symbol "Status"))] := rfl
      rw [body, externalCalls_append, externalCalls_append, externalCalls_flatMap,
        List.map_eq_flatMap]
      simp only [step]
      exact List.append_nil _

/-- A handler after the first one is called in one of two branches. -/
theorem externalCalls_unloadBody_runAll (first : String) (rest : List String) :
    externalCalls (unloadBody .runAll (first :: rest)) =
      [unloadCall first] ++ rest.flatMap fun h => [unloadCall h, unloadCall h] := by
  have step (handler : String) :
      externalCalls [runStep handler] = [unloadCall handler, unloadCall handler] := by
    have called : unloadCall handler ∉ ownCalls := forward_notMem_ownCalls (by decide) handler
    simp [externalCalls, runStep, Statement.calls, Action.calls, Value.calls, called]
  match rest with
  | [] => exact externalCalls_forward (by decide) rfl
  | second :: rest =>
      have body : unloadBody .runAll (first :: second :: rest) =
          [.declare "EFI_STATUS" "Status", .blank,
            .act (.store "Status" (.call (unloadCall first)))] ++
            (second :: rest).map runStep ++ [.blank, .act (.give (.symbol "Status"))] := rfl
      have start : externalCalls [.declare "EFI_STATUS" "Status", .blank,
          .act (.store "Status" (.call (unloadCall first)))] = [unloadCall first] :=
        externalCalls_forward (by decide) rfl
      rw [body, externalCalls_append, externalCalls_append, List.map_eq_flatMap,
        externalCalls_flatMap, start]
      simp only [step]
      exact List.append_nil _

theorem matched_unloadBody (policy : UnloadPolicy) (handlers : List String)
    {returns dispatcher : String} :
    Matched (prototypes "EFI_STATUS" unloadParameters handlers)
      ((externalCalls (unloadBody policy handlers)).map
        (.call ⟨returns, dispatcher, unloadParameters⟩)) := by
  have declares (handler : String) :
      Declares (.prototype ⟨"EFI_STATUS", handler, unloadParameters⟩)
        (.call ⟨returns, dispatcher, unloadParameters⟩ (unloadCall handler)) :=
    declares_forward (by simp)
  match handlers, policy with
  | handlers, .stopOnError =>
      rw [externalCalls_unloadBody_stopOnError, List.map_map]
      exact .map fun h _ => declares h
  | [], .runAll => exact .nil
  | first :: rest, .runAll =>
      rw [externalCalls_unloadBody_runAll, List.map_append, List.map_flatMap]
      have later : Matched (prototypes "EFI_STATUS" unloadParameters rest)
          (rest.flatMap fun h => [unloadCall h, unloadCall h].map
            (Use.call ⟨returns, dispatcher, unloadParameters⟩)) := by
        apply Matched.flatMap
        · simp
        · intro h _ use member
          obtain rfl : use = .call ⟨returns, dispatcher, unloadParameters⟩ (unloadCall h) := by
            simpa using member
          exact declares h
      exact .append (.map (l := [first]) fun h _ => declares h) later

/-- Declarations, items that stand for themselves, and a function that calls what is declared. -/
theorem Linked.function {declared between : List Item} {head : Signature}
    {body : List Statement}
    (matched : Matched declared ((externalCalls body).map (.call head)))
    (plain : ∀ item ∈ between, Plain item) :
    Linked (declared ++ between ++ [.function head body]) :=
  .section matched plain rfl .nil

/-- The prototypes of functions that a dispatcher calls with all its own parameters. -/
theorem matched_prototypes {declared returns dispatcher : String} {parameters : ParameterList}
    (symbols : List String) :
    Matched (prototypes declared parameters symbols)
      ((symbols.map fun symbol => forward symbol parameters).map
        (.call ⟨returns, dispatcher, parameters⟩)) := by
  rw [List.map_map]
  exact .map fun symbol _ => declares_forward (by simp)

theorem linked_hookItems (dispatcher : String) (inside : LibraryConvention)
    (hooks : List LibraryHook) : Linked (hookItems dispatcher inside hooks) := by
  rw [hookItems, ← List.append_nil (hooks.map (hookPrototype inside))]
  apply Linked.function
  · rw [externalCalls_hookBody, List.map_map]
    refine .map fun h _ => declares_forward ?_
    intro name listed
    unfold LibraryConvention.ofLibrary at listed
    split at listed
    · cases listed
    · exact listed
  · simp

theorem linked_libraryItems (shape : Shape) (set : CapabilitySet) :
    Linked (libraryItems shape set) := by
  rw [libraryItems]
  apply (linked_hookItems _ _ _).append
  split
  · exact linked_hookItems _ _ _
  · exact .nil

theorem linked_eventItems (table : String) (callbacks : List String) :
    Linked (eventItems table callbacks) := by
  have start : ∀ item ∈ [Item.constant ⟨true, .uintn, 1, table ++ "Count", callbacks.length⟩,
      .blank], Plain item := by
    simp [Plain, isDeclaration, uses]
  have listed : Linked (prototypes "VOID" eventParameters callbacks ++ [] ++
      [.callbackTable table callbacks]) := by
    refine .section (.map fun name _ => ?_) (by simp) rfl .nil
    rfl
  rw [eventItems, List.append_assoc]
  apply (Linked.of_plain start).append
  rwa [List.append_nil] at listed

theorem linked_lifecycleItems (shape : Shape) (set : CapabilitySet) :
    Linked (lifecycleItems shape set) := by
  rw [lifecycleItems]
  split
  · exact (linked_eventItems _ _).append (linked_eventItems _ _)
  · exact .nil

theorem linked_guidItems (resolution : Resolution) : Linked (guidItems resolution) :=
  .of_plain (forall_guidItems ⟨rfl, rfl⟩ (fun _ _ => ⟨rfl, rfl⟩) resolution)

theorem linked_driverItems (entries : List String) : Linked (driverItems entries) := by
  have kept : ∀ item ∈ driverVariables entries, Plain item := by
    unfold driverVariables
    split
    · simp [Plain, isDeclaration, uses]
    · simp
  have between : ∀ item ∈ [Item.constant ⟨true, .uint8, 2, "_gDriverEntryPointCount",
      entries.length⟩, .blank] ++ driverVariables entries, Plain item := by
    refine List.forall_mem_append.2 ⟨?_, kept⟩
    simp [Plain, isDeclaration, uses]
  have dispatcher : Linked (prototypes "EFI_STATUS" driverParameters entries ++
      ([.constant ⟨true, .uint8, 2, "_gDriverEntryPointCount", entries.length⟩, .blank] ++
        driverVariables entries) ++
      [.function ⟨"EFI_STATUS", entryDispatcher, driverParameters⟩ (driverBody entries)]) := by
    apply Linked.function _ between
    rw [externalCalls_driverBody]
    exact matched_prototypes entries
  have exit : Linked (exitItems entries) := by
    apply Linked.of_plain
    intro item member
    unfold exitItems at member
    split at member
    · cases member
    · cases List.mem_singleton.1 member
      exact ⟨rfl, by rw [uses, externalCalls_exitBody]; rfl⟩
  have whole := dispatcher.append exit
  rwa [← List.append_assoc (prototypes _ _ _)] at whole

theorem linked_unloadItems (policy : UnloadPolicy) (handlers : List String) :
    Linked (unloadItems policy handlers) := by
  have linked : Linked (prototypes "EFI_STATUS" unloadParameters handlers ++
      [.constant ⟨true, .uint8, 2, "_gDriverUnloadImageCount", handlers.length⟩, .blank] ++
      [.function ⟨"EFI_STATUS", unloadDispatcher, unloadParameters⟩
        (unloadBody policy handlers)]) := by
    apply Linked.function (matched_unloadBody policy handlers)
    simp [Plain, isDeclaration, uses]
  rwa [List.append_assoc] at linked

/-- A list is read back from another one of its length, place by place. -/
theorem filterMap_zipIdx_getElem? {α β : Type} {l : List α} {k : List β}
    (length : l.length = k.length) : l.zipIdx.filterMap (fun entry => k[entry.2]?) = k := by
  have places : l.zipIdx.map (fun entry => k[entry.2]?) = k.map some := by
    apply List.ext_getElem
    · simp [length]
    · intro i hl hk
      have inside : i < k.length := by simpa using hk
      simp [inside]
  calc l.zipIdx.filterMap (fun entry => k[entry.2]?)
      = (l.zipIdx.map fun entry => k[entry.2]?).filterMap id := by
        rw [List.filterMap_map]
        rfl
    _ = k := by
        rw [places, List.filterMap_map]
        exact List.filterMap_some

theorem flatMap_filter {α β : Type} (p : α → Bool) (f : α → List β) (l : List α) :
    (l.filter p).flatMap f = l.flatMap fun x => if p x then f x else [] := by
  induction l with
  | nil => rfl
  | cons x rest ih =>
      rw [List.filter_cons, List.flatMap_cons, ← ih]
      split
      · rw [List.flatMap_cons]
      · rfl

variable {v : View} {honorPcds : Bool} {g : DriverModelGroup} {place : Nat}

/-- The entry of a group stands at the place of the group in its row. -/
theorem getElem?_map_rowEntry (listed : (g, place) ∈ DriverModelGroup.all.zipIdx) (row : Nat) :
    (DriverModelGroup.all.map (rowEntry v honorPcds row))[place]? =
      some (rowEntry v honorPcds row g) := by
  rw [List.getElem?_map, List.mem_zipIdx_iff_getElem?.1 listed, Option.map_some]

/-- The column of a group, read from the rows, is the group if it has a column in use. -/
theorem column_bindingRows (listed : (g, place) ∈ DriverModelGroup.all.zipIdx)
    (aligned : v.driverModel.aligned g = true) :
    column (bindingRows v honorPcds) place =
      if present v honorPcds g then v.driverModel.group g else [] := by
  have entry (row : Nat) :
      (DriverModelGroup.all.map (rowEntry v honorPcds row))[place]?.join =
        rowEntry v honorPcds row g := by
    rw [getElem?_map_rowEntry listed]
    rfl
  have rows : column (bindingRows v honorPcds) place =
      v.driverModel.bindings.zipIdx.filterMap fun e => rowEntry v honorPcds e.2 g := by
    rw [column, bindingRows, List.filterMap_map]
    exact List.filterMap_congr fun e _ => entry e.2
  rw [rows]
  split
  case isTrue inUse =>
    have length : v.driverModel.bindings.length = (v.driverModel.group g).length := by
      simp only [DriverModel.aligned, Bool.or_eq_true, beq_iff_eq] at aligned
      rcases aligned with empty | same
      · simp [present, empty] at inUse
      · exact same.symm
    calc v.driverModel.bindings.zipIdx.filterMap (fun e => rowEntry v honorPcds e.2 g)
        = v.driverModel.bindings.zipIdx.filterMap (fun e => (v.driverModel.group g)[e.2]?) :=
          List.filterMap_congr fun e _ => if_pos inUse
      _ = v.driverModel.group g := filterMap_zipIdx_getElem? length
  case isFalse unused =>
    simp [rowEntry, unused]

/-- Every row begins with its binding. -/
theorem bindings_bindingRows (v : View) (honorPcds : Bool) :
    (bindingRows v honorPcds).map BindingRow.binding = v.driverModel.bindings := by
  rw [bindingRows, List.map_map]
  exact List.zipIdx_map_fst 0 _

/-- What is declared for the driver-model table can be read from the table: the bindings row by row,
and then the other objects column by column. -/
theorem bindingExterns_eq (aligned : ∀ g, v.driverModel.aligned g = true) :
    bindingExterns v honorPcds =
      (bindingRows v honorPcds).map
          (fun row => .externObject "EFI_DRIVER_BINDING_PROTOCOL" row.binding) ++
        DriverModelGroup.all.zipIdx.flatMap fun entry =>
          (column (bindingRows v honorPcds) entry.2).map (.externObject entry.1.protocolType) := by
  have bindings : (bindingRows v honorPcds).map
        (fun row => Item.externObject "EFI_DRIVER_BINDING_PROTOCOL" row.binding) =
      v.driverModel.bindings.map (.externObject "EFI_DRIVER_BINDING_PROTOCOL") := by
    rw [← bindings_bindingRows v honorPcds, List.map_map]
    rfl
  rw [bindingExterns, bindings, flatMap_filter]
  congr 1
  conv => lhs; rw [← List.zipIdx_map_fst 0 DriverModelGroup.all]
  rw [List.flatMap_map]
  apply List.flatMap_congr
  rintro ⟨g, place⟩ listed
  rw [column_bindingRows listed (aligned g)]
  split
  · rfl
  · rfl

/-- The objects that the driver-model table refers to are what is declared for it. -/
theorem matched_bindingExterns (aligned : ∀ g, v.driverModel.aligned g = true) :
    Matched (bindingExterns v honorPcds) (uses (.bindingTable (bindingRows v honorPcds))) := by
  rw [bindingExterns_eq aligned, uses]
  apply Matched.append
  · exact .map fun row _ => ⟨rfl, rfl⟩
  · apply Matched.flatten
    intro entry _
    exact .map fun name _ => ⟨rfl, rfl⟩

theorem linked_driverModelItems {items : List Item}
    (h : driverModelItems v honorPcds = .ok items) : Linked items := by
  obtain ⟨_, checked, made⟩ := bind_ok_iff.1 h
  cases made
  have matched : Matched (bindingExterns v honorPcds)
      (uses (.bindingTable (bindingRows v honorPcds))) :=
    matched_bindingExterns (DriverModel.check_ok_iff.1 checked)
  have constants : ∀ item ∈ [Item.constant ⟨true, .uint8, 2, "_gDriverModelProtocolBitmask",
      bitmask v honorPcds⟩, .constant ⟨true, .uintn, 2, "_gDriverModelProtocolListEntries",
      v.driverModel.bindings.length⟩, .blank], Plain item := by
    simp [Plain, isDeclaration, uses]
  by_cases unbound : v.driverModel.bindings.length = 0
  · have noRows : bindingRows v honorPcds = [] := by
      rw [bindingRows, List.eq_nil_of_length_eq_zero unbound]
      rfl
    rw [noRows] at matched
    simp only [matched.eq_nil, if_pos unbound, List.append_nil, List.nil_append]
    exact .of_plain constants
  · simp only [if_neg unbound]
    rw [List.append_assoc (bindingExterns v honorPcds)]
    refine .section matched ?_ rfl .nil
    exact List.forall_mem_cons.2 ⟨⟨rfl, rfl⟩, constants⟩

theorem linked_peimItems (entries : List String) : Linked (peimItems entries) := by
  have start : ∀ item ∈ [Item.constant ⟨true, .uint32, 1, "_gPeimRevision", 0⟩, .blank],
      Plain item := by
    simp [Plain, isDeclaration, uses]
  rw [peimItems, List.append_assoc]
  apply (Linked.of_plain start).append
  rw [← List.append_nil (prototypes _ _ _)]
  apply Linked.function
  · rw [externalCalls_peimBody]
    exact matched_prototypes entries
  · simp

/-- The only entry point of a foundation and the dispatcher from which control goes there. -/
theorem linked_only {declared returns entry : String} {parameters : ParameterList}
    (h : parameters ∈ handedOn) {action : Action}
    (calls : action.calls = [forward entry parameters]) :
    Linked (prototypes declared parameters [entry] ++
      [.function ⟨returns, entryDispatcher, parameters⟩ [.act action]]) := by
  have called : externalCalls [.act action] = [forward entry parameters] :=
    externalCalls_forward h (by simp [Statement.calls, calls])
  rw [← List.append_nil (prototypes _ _ _)]
  apply Linked.function
  · rw [called]
    exact matched_prototypes [entry]
  · simp

theorem linked_entryItems {e : EntryPoints} {items : List Item} (h : e.items = .ok items) :
    Linked items := by
  have constant (c : Constant) : ∀ item ∈ [Item.constant c, .blank], Plain item := by
    simp [Plain, isDeclaration, uses]
  have driver := (linked_driverItems e.entries).append (linked_unloadItems e.policy e.unloads)
  unfold EntryPoints.items at h
  split at h
  case h_1 =>
    cases h
    exact .nil
  case h_2 =>
    obtain ⟨entry, _, made⟩ := bind_ok_iff.1 h
    cases made
    exact linked_only (by decide) rfl
  case h_3 =>
    obtain ⟨entry, _, made⟩ := bind_ok_iff.1 h
    cases made
    rw [dxeCoreItems, List.append_assoc]
    exact (Linked.of_plain (constant _)).append (linked_only (by decide) rfl)
  case h_4 =>
    cases h
    exact linked_peimItems e.entries
  case h_5 =>
    cases h
    rw [List.append_assoc]
    exact (Linked.of_plain (constant _)).append driver
  case h_6 =>
    cases h
    exact driver

end Glue

open Glue

namespace Source

/-- A dispatcher of library hooks stands behind the prototypes of the hooks, and calls them in the
same order. A hook of a library for any phase is declared and called without parameters, and any
other one by the convention of the module. -/
def DeclaresHooks (source : Source) (dispatcher : String) (inside : LibraryConvention)
    (hooks : List LibraryHook) : Prop :=
  ∃ before after body,
    source.items = before ++
      hooks.map (fun h => .prototype (if h.type = .base then ⟨"RETURN_STATUS", h.symbol, {}⟩
        else ⟨inside.returns, h.symbol, inside.parameters⟩)) ++
      .function ⟨"VOID", dispatcher, inside.parameters⟩ body :: after ∧
    externalCalls body = hooks.map fun h =>
      if h.type = .base then ⟨h.symbol, []⟩
      else ⟨h.symbol, inside.parameters.names.map .symbol⟩

theorem declaresHooks_of_split {source : Source} {dispatcher : String}
    {inside : LibraryConvention} {hooks : List LibraryHook} {before after : List Item}
    (split : source.items = before ++ hookItems dispatcher inside hooks ++ after) :
    source.DeclaresHooks dispatcher inside hooks := by
  refine ⟨before, after, hookBody inside hooks, ?_, ?_⟩
  · rw [split, hookItems]
    have same : hookPrototype inside = fun h => .prototype
        (if h.type = .base then ⟨"RETURN_STATUS", h.symbol, {}⟩
          else ⟨inside.returns, h.symbol, inside.parameters⟩) := by
      funext h
      simp only [hookPrototype, LibraryConvention.ofLibrary]
      split
      · rfl
      · rfl
    simp [same]
  · rw [externalCalls_hookBody]
    apply List.map_congr_left
    intro h _
    simp only [hookCall, LibraryConvention.ofLibrary]
    split
    · rfl
    · rfl

end Source

namespace Rendering

variable {ws : Workspace} {config : Config} {v : View} {fragments : PcdFragments} {r : Rendering}

theorem linked (rendered : ofView ws config v fragments = .ok r) (image : v.isLibrary = false) :
    Linked r.source.items := by
  obtain ⟨order, resolution, model, entries, _, modelMade, entriesMade, items⟩ :=
    source_eq rendered image
  have caller : ∀ item ∈ [Item.callerId v.type.shape.callerIdType v.subject.identity.guid, .blank],
      Plain item := by
    simp [Plain, isDeclaration, uses]
  rw [items]
  exact (((((linked_driverModelItems modelMade).append (linked_lifecycleItems _ _)).append
    (.of_plain caller)).append (linked_guidItems _)).append (linked_libraryItems _ _)).append
    (linked_entryItems entriesMade)

/-- In a rendered source, what an item uses is declared by the items before it, one declaration
after the other and with nothing else declared between: so the declaration of a symbol stands before
the text that uses it, and a call has the arguments that its prototype has parameters, each of them
a parameter of the function around it. Every declaration is for some use behind it. Library hooks
are declared and called by the convention of the module, and without parameters if their library is
for any phase. -/
theorem declared_before_used (rendered : ofView ws config v fragments = .ok r)
    (image : v.isLibrary = false) :
    (∀ before user after, r.source.items = before ++ user :: after → uses user ≠ [] →
      ∃ outer declared between, before = outer ++ declared ++ between ∧
        Matched declared (uses user) ∧ (∀ item ∈ between, Plain item) ∧
        (∃ first last, r.source.text =
          first ++ concat (declared.map declarationText) ++ itemsText between ++ user.text ++
            last) ∧
        ∀ use ∈ uses user, Within use.text user.text) ∧
      (∀ before d after, r.source.items = before ++ d :: after → isDeclaration d = true →
        ∃ user ∈ after, ∃ use ∈ uses user, Declares d use) ∧
      ∃ order, LibraryOrder.ofView ws v = .ok order ∧
        r.source.DeclaresHooks "ProcessLibraryConstructorList" v.type.shape.convention
          (hooksOf Module.constructor order.instances) ∧
        (v.type.shape.convention = .dxe →
          r.source.DeclaresHooks "ProcessLibraryDestructorList" .dxe
            (hooksOf Module.destructor order.instances.reverse)) := by
  have whole := linked rendered image
  refine ⟨?_, whole.use_after, ?_⟩
  · intro before user after split needs
    obtain ⟨outer, declared, between, rfl, matched, plain⟩ :=
      whole.declarations_before before user after split needs
    refine ⟨outer, declared, between, rfl, matched, plain, ?_, ?_⟩
    · refine ⟨notice sourceName ++ "#include <AutoGen.h>\n\n" ++ itemsText outer,
        itemsText after ++ r.source.fragment, ?_⟩
      rw [← matched.itemsText]
      simp only [Source.text, split, itemsText_append, itemsText_cons, String.append_assoc]
    · intro use member
      obtain ⟨d, _, declares⟩ := matched.exists_declaration member
      exact use_within member declares
  · obtain ⟨order, before, after, ordered, items⟩ : ∃ order before after,
        LibraryOrder.ofView ws v = .ok order ∧
          r.source.items = before ++ libraryItems v.type.shape (.ofOrder v order) ++ after := by
      obtain ⟨order, _, _, entries, ordered, _, _, items⟩ := source_eq rendered image
      exact ⟨order, _, entries, ordered, items⟩
    rw [libraryItems, List.append_assoc, List.append_assoc, ← List.append_assoc before] at items
    refine ⟨order, ordered, ?_, ?_⟩
    · rw [← CapabilitySet.constructors_ofOrder v order]
      exact Source.declaresHooks_of_split items
    · intro dxe
      have destroyed : v.type.shape.hasDestructors = true := by
        rw [Shape.hasDestructors, dxe]
        rfl
      rw [if_pos destroyed, ← List.append_assoc, dxe] at items
      rw [show order.instances.reverse = order.destruction from rfl,
        ← CapabilitySet.destructors_ofOrder v order]
      exact Source.declaresHooks_of_split items

/-- A driver that has something of everything which needs a declaration. -/
def busyDriver : View where
  subject := { hookedDriver.subject with
    entryPoints := ["Start", "Resume"]
    unloadImages := ["Stop"]
    exitBootServicesCallbacks := ["Leave"]
    driverModel := { bindings := ["gBinding"], componentNames := ["gName"] } }
  arch := .x64

theorem busyDriver_rendered : ∃ r, ofView hookedPair {} busyDriver {} = .ok r ∧
    .prototype ⟨"EFI_STATUS", "Resume", driverParameters⟩ ∈ r.source.items ∧
    .externObject "EFI_COMPONENT_NAME_PROTOCOL" "gName" ∈ r.source.items := by
  have known : (ofView hookedPair {} busyDriver {}).toOption.any fun r =>
      .prototype ⟨"EFI_STATUS", "Resume", driverParameters⟩ ∈ r.source.items ∧
        .externObject "EFI_COMPONENT_NAME_PROTOCOL" "gName" ∈ r.source.items := by
    decide +kernel
  match result : ofView hookedPair {} busyDriver {} with
  | .ok r =>
      rw [result] at known
      exact ⟨r, rfl, of_decide_eq_true known⟩
  | .error _ =>
      rw [result] at known
      cases known

theorem busyDriver_declared : ∃ r, ofView hookedPair {} busyDriver {} = .ok r ∧
    (∃ before after, r.source.items =
        before ++ .prototype ⟨"EFI_STATUS", "Resume", driverParameters⟩ :: after ∧
      ∃ user ∈ after, ∃ use ∈ uses user,
        Declares (.prototype ⟨"EFI_STATUS", "Resume", driverParameters⟩) use) ∧
    (∃ before after, r.source.items =
        before ++ .externObject "EFI_COMPONENT_NAME_PROTOCOL" "gName" :: after ∧
      ∃ user ∈ after, ∃ use ∈ uses user,
        Declares (.externObject "EFI_COMPONENT_NAME_PROTOCOL" "gName") use) := by
  obtain ⟨r, rendered, prototype, object⟩ := busyDriver_rendered
  have used := (declared_before_used rendered rfl).2.1
  obtain ⟨before, after, split⟩ := List.append_of_mem prototype
  obtain ⟨front, back, around⟩ := List.append_of_mem object
  exact ⟨r, rendered, ⟨before, after, split, used _ _ _ split rfl⟩,
    ⟨front, back, around, used _ _ _ around rfl⟩⟩

end Rendering

end FirmwareGlue
