import FirmwareGlue.Code.Item
import FirmwareGlue.Glue.Convention

/-!
# Entry points and the dispatchers that call them

The loader calls one function of a module, which calls the module's entry points. With one entry
point, control simply goes there. A PEI module with several combines their statuses: the first
success counts, and it is a load error if there is none. A driver may leave an entry point through
`ExitDriver`, which with several of them jumps back into the dispatcher; the status kept there is
that of the last success, or of the last entry point if none succeeds.
-/

namespace FirmwareGlue.Glue

open Code

/-- The function that the loader calls. -/
def entryDispatcher : String := "ProcessModuleEntryPointList"

/-- A call that hands on the parameters of the calling function. -/
def forward (symbol : String) (parameters : ParameterList) : Call :=
  callNames symbol parameters.names

def prototypes (returns : String) (parameters : ParameterList) (symbols : List String) :
    List Item :=
  symbols.map fun symbol => .prototype ⟨returns, symbol, parameters⟩

/-- The only entry point of the PEI foundation and its dispatcher. -/
def peiCoreItems (entry : String) : List Item :=
  prototypes "EFI_STATUS" peiCoreParameters [entry] ++
    [.function ⟨"EFI_STATUS", entryDispatcher, peiCoreParameters⟩
      [.act (.give (.call (forward entry peiCoreParameters)))]]

/-- The only entry point of the DXE foundation and its dispatcher. -/
def dxeCoreItems (entry : String) : List Item :=
  [.constant ⟨false, .uint32, 1, "_gUefiDriverRevision", 0⟩, .blank] ++
    prototypes "VOID" dxeCoreParameters [entry] ++
    [.function ⟨"VOID", entryDispatcher, dxeCoreParameters⟩
      [.act (.perform (forward entry dxeCoreParameters))]]

/-- One step of the dispatcher of a PEI module with several entry points. -/
def peimStep (entry : String) : List Statement :=
  [.act (.store "Status" (.call (forward entry peimParameters))),
    .branch (.both (.succeeded "Status") (.failed "CombinedStatus"))
      [.store "CombinedStatus" (.symbol "Status")] [],
    .blank]

def peimBody : List String → List Statement
  | [] => [.act (.give (.symbol "EFI_SUCCESS"))]
  | [entry] => [.act (.give (.call (forward entry peimParameters)))]
  | entries =>
    [.declare "EFI_STATUS" "Status", .declare "EFI_STATUS" "CombinedStatus", .blank,
      .act (.store "CombinedStatus" (.symbol "EFI_LOAD_ERROR")), .blank] ++
      entries.flatMap peimStep ++
      [.act (.give (.symbol "CombinedStatus"))]

def peimItems (entries : List String) : List Item :=
  [.constant ⟨true, .uint32, 1, "_gPeimRevision", 0⟩, .blank] ++
    prototypes "EFI_STATUS" peimParameters entries ++
    [.function ⟨"EFI_STATUS", entryDispatcher, peimParameters⟩ (peimBody entries)]

/-- The buffer for jumps back into the dispatcher of a driver. -/
def jumpBuffer : String := "mJumpContext"

/-- The variable that keeps the status of a driver with several entry points. -/
def keptStatus : String := "mDriverEntryPointStatus"

/-- The function through which a driver is left. -/
def exitFunction : String := "ExitDriver"

def driverStep (entry : String) : List Statement :=
  [.branch (.firstReturn jumpBuffer)
      [.pass exitFunction (forward entry driverParameters), assertUnreached] [],
    .blank]

def driverBody : List String → List Statement
  | [] => [.act (.give (.symbol "EFI_SUCCESS"))]
  | [entry] => [.act (.give (.call (forward entry driverParameters)))]
  | entries => entries.flatMap driverStep ++ [.act (.give (.symbol keptStatus))]

def exitBody : List String → List Statement
  | [_] =>
    [.branch (.failed "Status")
        [.perform (callNames "ProcessLibraryDestructorList" ["gImageHandle", "gST"])] [],
      .act (.perform ⟨"gBS->Exit",
        [.symbol "gImageHandle", .symbol "Status", .number 0, .symbol "NULL"]⟩)]
  | _ =>
    [.branch (.either (.succeeded "Status") (.failed keptStatus))
        [.store keptStatus (.symbol "Status")] [],
      .act (.perform ⟨"LongJump", [.address jumpBuffer, .greatest]⟩),
      .act assertUnreached]

/-- The variables that a driver with several entry points keeps. -/
def driverVariables (entries : List String) : List Item :=
  if entries.length > 1 then
    [.staticVariable "BASE_LIBRARY_JUMP_BUFFER" jumpBuffer none,
      .staticVariable "EFI_STATUS" keptStatus (some "EFI_LOAD_ERROR"), .blank]
  else []

/-- The function through which a driver is left, if it has entry points. -/
def exitItems (entries : List String) : List Item :=
  if entries.isEmpty then []
  else [.function ⟨"VOID", exitFunction, exitParameters⟩ (exitBody entries)]

def driverItems (entries : List String) : List Item :=
  prototypes "EFI_STATUS" driverParameters entries ++
    [.constant ⟨true, .uint8, 2, "_gDriverEntryPointCount", entries.length⟩, .blank] ++
    driverVariables entries ++
    [.function ⟨"EFI_STATUS", entryDispatcher, driverParameters⟩ (driverBody entries)] ++
    exitItems entries

end FirmwareGlue.Glue
