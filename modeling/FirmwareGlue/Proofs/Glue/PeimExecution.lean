import FirmwareGlue.Proofs.Glue.Dispatchers
import FirmwareGlue.Proofs.Glue.LibraryDispatch

/-!
# What the dispatcher of a PEI module does

With several entry points, the dispatcher calls one after another and combines their statuses in a
variable, which holds a load error at first: a success replaces an error, and nothing replaces a
success. What one step does is said by `peimStep_leads`; the whole dispatcher follows by induction
on the entry points, with the combined status as the invariant.
-/

namespace FirmwareGlue.Glue

open Code

section

variable {n : Nat} {program : List Item} {report : List Call → Call → Status n}
  {entries : List String}

def peimCall (entry : String) : Call := forward entry peimParameters

/-- The status of several entry points of a PEI module: that of the first success, or a load error
if none succeeds. -/
def firstSuccess (statuses : List (Status n)) : Status n :=
  (statuses.find? fun s => !s.failed).getD Status.loadError

/-- What two statuses are combined to, of which the second is reported later. -/
def combine (held s : Status n) : Status n :=
  if !s.failed && held.failed then s else held

/-- A success stays, and an error is replaced by the first success. -/
theorem foldl_combine (held : Status n) (statuses : List (Status n)) :
    statuses.foldl combine held =
      if held.failed then (statuses.find? fun s => !s.failed).getD held else held := by
  induction statuses generalizing held with
  | nil => simp
  | cons s rest ih =>
      rw [List.foldl_cons, ih]
      cases error : held.failed with
      | false => simp [combine, error]
      | true =>
          cases failed : s.failed with
          | true => simp [combine, error, failed]
          | false => simp [combine, error, failed]

theorem foldl_combine_loadError (statuses : List (Status n)) :
    statuses.foldl combine Status.loadError = firstSuccess statuses := by
  rw [foldl_combine, Status.failed_loadError, if_pos rfl, firstSuccess]

variable {globals : String → Option (Status n)} {called : List Call}
  {locals : String → Option (Option (Status n))}

variable (program report globals called) in
/-- An entry point is called, and its status combined with the one that is held. -/
theorem peimStep_leads {held : Status n} (declared : (locals "Status").isSome)
    (holds : locals "CombinedStatus" = some (some held)) (entry : String)
    (rest : List Statement) :
    ∃ updated : String → Option (Option (Status n)), (updated "Status").isSome ∧
      updated "CombinedStatus" = some (some (combine held (report called (peimCall entry)))) ∧
      Leads program (returning report) (.alone globals called locals (peimStep entry ++ rest))
        (.alone globals (called ++ [peimCall entry]) updated rest) := by
  let s := report called (peimCall entry)
  let m : Machine n := ⟨globals, fun _ => none, called ++ [peimCall entry], []⟩
  let stored := Function.update locals "Status" (some (some s))
  have status : stored "Status" = some (some s) := Function.update_self ..
  have combined : stored "CombinedStatus" = some (some held) :=
    (Function.update_of_ne (by decide) ..).trans holds
  have readStatus : m.read ⟨stored, .blank :: rest⟩ "Status" = some s :=
    Machine.read_local rfl status
  have readCombined : m.read ⟨stored, .blank :: rest⟩ "CombinedStatus" = some held :=
    Machine.read_local rfl combined
  have decided : holds? (m.read ⟨stored, .blank :: rest⟩)
      (.both (.succeeded "Status") (.failed "CombinedStatus")) =
        some (!s.failed && held.failed) := by
    cases error : s.failed <;> simp [holds?, readStatus, readCombined, error]
  have first : Leads program (returning report)
      (.alone globals called locals (peimStep entry ++ rest))
      (m.push ⟨stored, (if (!s.failed && held.failed) then
        [Action.store "CombinedStatus" (.symbol "Status")] else []).map Statement.act ++
          .blank :: rest⟩) :=
    (Leads.store_report declared (peimCall entry) _).trans
      (Leads.branch program (returning report) _ _ decided)
  cases better : (!s.failed && held.failed) with
  | true =>
      have replaced : combine held s = s := if_pos better
      rw [better] at first
      refine ⟨Function.update stored "CombinedStatus" (some (some s)), ?_, ?_,
        first.trans ((Leads.assign (m := m) ?_ readStatus).trans (Leads.step rfl))⟩
      · rw [Function.update_of_ne (by decide), status, Option.isSome_some]
      · rw [replaced, Function.update_self]
      · rw [combined, Option.isSome_some]
  | false =>
      have stays : combine held s = held := if_neg (by simp [better])
      rw [better] at first
      refine ⟨stored, ?_, ?_, first.trans (Leads.step rfl)⟩
      · rw [status, Option.isSome_some]
      · rw [stays, combined]

variable (program report globals called) in
/-- All entry points are called, and their statuses combined. -/
theorem peimSteps_lead {held : Status n} (declared : (locals "Status").isSome)
    (holds : locals "CombinedStatus" = some (some held)) (remaining : List String)
    (rest : List Statement) :
    ∃ updated : String → Option (Option (Status n)),
      updated "CombinedStatus" =
        some (some ((reported report called (remaining.map peimCall)).foldl combine held)) ∧
      Leads program (returning report)
        (.alone globals called locals (remaining.flatMap peimStep ++ rest))
        (.alone globals (called ++ remaining.map peimCall) updated rest) := by
  induction remaining generalizing called locals held with
  | nil => exact ⟨locals, holds, by rw [List.map_nil, List.append_nil]; exact .refl⟩
  | cons entry later ih =>
      obtain ⟨next, declared', holds', first⟩ :=
        peimStep_leads program report globals called declared holds entry
          (later.flatMap peimStep ++ rest)
      obtain ⟨updated, holds'', others⟩ := ih _ declared' holds'
      rw [List.flatMap_cons, List.append_assoc, List.map_cons, List.append_cons]
      exact ⟨updated, holds'', first.trans others⟩

/-- A program has the dispatcher of a PEI module with some entry points. -/
def HasPeimDispatcher (program : List Item) (entries : List String) : Prop :=
  definition? program entryDispatcher =
    some ⟨⟨"EFI_STATUS", entryDispatcher, peimParameters⟩, peimBody entries⟩

/-- What the dispatcher of a PEI module does in a program: it calls every entry point once and in
order, and returns the status of a single one, and of several that of the first success, or a load
error if none succeeds. -/
structure PeimMeaning (program : List Item) (report : List Call → Call → Status n)
    (entries : List String) : Prop where
  none : entries = [] →
    Runs program (returning report) entryDispatcher [] (.returned (some Status.success))
  single : ∀ entry, entries = [entry] →
    Runs program (returning report) entryDispatcher [peimCall entry]
      (.returned (some (report [] (peimCall entry))))
  several : 2 ≤ entries.length →
    Runs program (returning report) entryDispatcher (entries.map peimCall)
      (.returned (some (firstSuccess (reported report [] (entries.map peimCall)))))

/-- The variables of the dispatcher when the first of several entry points is called. -/
def peimLocals : String → Option (Option (Status n)) :=
  Function.update
    (Function.update (Function.update (fun _ => none) "Status" (some none))
      "CombinedStatus" (some none))
    "CombinedStatus" (some (some Status.loadError))

/-- Before several entry points are called, a load error is held. -/
theorem opening_leads (rest : List Statement) :
    Leads program (returning report)
      (.alone globals called (fun _ => none)
        (.declare "EFI_STATUS" "Status" :: .declare "EFI_STATUS" "CombinedStatus" :: .blank ::
          .act (.store "CombinedStatus" (.symbol "EFI_LOAD_ERROR")) :: .blank :: rest))
      (.alone globals called peimLocals rest) := by
  have assigned : Leads program (returning report)
      (.alone globals called
        (Function.update (Function.update (fun _ => none) "Status" (some none))
          "CombinedStatus" (some none))
        (.act (.store "CombinedStatus" (.symbol "EFI_LOAD_ERROR")) :: .blank :: rest))
      (.alone globals called peimLocals (.blank :: rest)) :=
    Leads.assign (m := ⟨globals, fun _ => none, called, []⟩)
      (by rw [Function.update_self, Option.isSome_some]) rfl
  exact .head rfl (.head rfl (.head rfl (assigned.trans (Leads.step rfl))))

/-- With several entry points, all are called, and their statuses combined. -/
theorem HasPeimDispatcher.runs_several (has : HasPeimDispatcher program entries)
    (several : 2 ≤ entries.length) :
    Runs program (returning report) entryDispatcher (entries.map peimCall)
      (.returned (some (firstSuccess (reported report [] (entries.map peimCall))))) := by
  have body : peimBody entries =
      .declare "EFI_STATUS" "Status" :: .declare "EFI_STATUS" "CombinedStatus" :: .blank ::
        .act (.store "CombinedStatus" (.symbol "EFI_LOAD_ERROR")) :: .blank ::
        (entries.flatMap peimStep ++ [.act (.give (.symbol "CombinedStatus"))]) := by
    match entries, several with
    | _ :: _ :: _, _ => rfl
  have declared : (peimLocals (n := n) "Status").isSome := by
    simp [peimLocals, Function.update_of_ne]
  obtain ⟨locals, holds, leads⟩ := peimSteps_lead program report (firstValue? program) []
    declared (Function.update_self ..) entries [.act (.give (.symbol "CombinedStatus"))]
  rw [foldl_combine_loadError] at holds
  refine ⟨_, Machine.start_of_definition has, ?_⟩
  rw [body]
  exact Leads.executes ((opening_leads _).trans leads) (.give rfl holds [])

theorem HasPeimDispatcher.meaning (has : HasPeimDispatcher program entries)
    (report : List Call → Call → Status n) : PeimMeaning program report entries where
  none := by
    rintro rfl
    exact ⟨_, Machine.start_of_definition has, .stop rfl⟩
  single := by
    rintro entry rfl
    exact ⟨_, Machine.start_of_definition has, .give_call rfl []⟩
  several := has.runs_several

end

end FirmwareGlue.Glue

namespace FirmwareGlue

open Code Glue

end FirmwareGlue
