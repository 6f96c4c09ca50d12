import FirmwareGlue.CommandLine.Failure
import FirmwareGlue.CommandLine.Invocation
import FirmwareGlue.CommandLine.Listing
import FirmwareGlue.Generation
import FirmwareGlue.Text.ControlSequence
import FirmwareGlue.Text.Json
import FirmwareGlue.Workspace.File

/-!
# Commands

A command reads the workspace first, then its other arguments, in a fixed order; the first thing
that is wrong ends it. What it prints is a value that is shown either as JSON or as text. Modules
that fail to be generated are listed like the others, and counted at the end.
-/

namespace FirmwareGlue.CommandLine

open Text (Json)

structure Completion where
  output : String
  failure : Option Failure := none
  deriving DecidableEq

def Completion.status (c : Completion) : Nat :=
  if c.failure.isSome then 1 else 0

variable {m : Type → Type} [Monad m] [Surroundings m]

/-- A step of a command, which may end it. -/
abbrev Step (m : Type → Type) := ExceptT Failure m

/-- Goes on with a result, or ends the command with the failure that its error is. -/
def settle {α : Type} (failure : Error → Failure) (result : Except Error α) : Step m α :=
  ExceptT.mk (pure (result.mapError failure))

/-- Goes on with the result of an operation in the surroundings. -/
def settleM {α : Type} (failure : Error → Failure) (operation : m (Except Error α)) :
    Step m α :=
  ExceptT.mk ((·.mapError failure) <$> operation)

def note (records : List Record) : Step m Unit :=
  ExceptT.lift (Surroundings.recordAll records)

def loadWorkspace (path : String) : Step m Workspace :=
  settleM (.attempting ("failed to load workspace: " ++ path)) (Workspace.ofFile path)

/-- The architecture with a name, in any case. -/
def archNamed (name : String) : Step m Arch :=
  match Arch.ofSpelling? (String.ofList (name.toList.map Char.toUpper)) with
  | some arch => pure arch
  | none =>
    throw ⟨"unknown architecture '" ++ name ++ "' (expected IA32, X64, IPF, or EBC)", []⟩

def policyNamed (name : String) : Step m UnloadPolicy :=
  match UnloadPolicy.ofSpelling? name with
  | some policy => pure policy
  | none =>
    throw ⟨"unknown unload policy '" ++ name ++ "' (expected run-all or stop-on-error)", []⟩

def heading (v : View) : String := v.name ++ " [" ++ v.arch.spelling ++ "]"

/-- What a question asks about: the workspace, the module for an architecture, and the order of
its library instances. -/
def subjectOf (q : Query) : Step m (Workspace × View × LibraryOrder) := do
  let ws ← loadWorkspace q.workspace
  let arch ← archNamed q.arch
  let subject ← settle .ofError (ws.requireModule q.module)
  let v : View := ⟨subject, arch⟩
  let order ← settle (.attempting ("failed to order library instances of " ++ v.name))
    (LibraryOrder.ofView ws v)
  note [Glue.orderRecord v order]
  return (ws, v, order)

/-! ## The order of library instances -/

/-- A field that is left out when there is nothing to say. -/
def optionalField (name : String) (value : Option String) : List (String × Json) :=
  (value.map fun text => (name, Json.string text)).toList

def textList (texts : List String) : Json := .array (texts.map .string)

def instanceJson (v : View) : Json :=
  .object ([("name", .string v.name), ("module_type", .string v.type.spelling)]
    ++ optionalField "constructor" v.constructor ++ optionalField "destructor" v.destructor)

def hookSymbols (hooks : List LibraryHook) : List String :=
  hooks.map LibraryHook.symbol

def orderJson (v : View) (order : LibraryOrder) (set : CapabilitySet) : Json :=
  .object [("module", .string v.name), ("arch", .string v.arch.spelling),
    ("instances", .array (order.instances.map fun m => instanceJson (v.scopedTo m))),
    ("constructors", textList (hookSymbols set.constructors)),
    ("destructors", textList (hookSymbols set.destructors))]

def orderListing (v : View) (order : LibraryOrder) : Listing where
  headings := ["INSTANCE", "TYPE", "CONSTRUCTOR", "DESTRUCTOR"]
  rows := order.instances.map fun m =>
    let own := v.scopedTo m
    [own.name, own.type.spelling, own.constructor.getD "", own.destructor.getD ""]
  numbered := true

def orderText (v : View) (order : LibraryOrder) (set : CapabilitySet) : String :=
  let count := toString order.instances.length
  let destructors := hookSymbols set.destructors
  heading v ++ ": " ++ count ++ " library instance(s)\n"
    ++ (if order.instances.isEmpty then ""
      else "\n" ++ (orderListing v order).text
        ++ if destructors.isEmpty then ""
          else "\nDestructor order: " ++ String.intercalate ", " destructors ++ "\n")

def runOrder (q : Query) (json : Bool) : Step m Completion := do
  let (_, v, order) ← subjectOf q
  let set := CapabilitySet.ofOrder v order
  note [Glue.capabilityRecord v set]
  return ⟨if json then (orderJson v order set).pretty ++ "\n" else orderText v order set, none⟩

/-! ## Capabilities -/

/-- The name of a package, or the text of a reference to none. -/
def packageName (ws : Workspace) (r : Reference) : String :=
  match ws.package? r with
  | some p => p.identity.name
  | none => r.text

/-- The resolved capabilities in the order of emission, with their kinds. -/
def capabilityRows (resolution : Resolution) : List (List String) :=
  CapabilityKind.emissionOrder.flatMap fun kind =>
    (resolution.ofKind kind).map fun entry =>
      [kind.spelling, entry.keyword, entry.symbol, entry.guid.text]

/-- The names of what a row says about a capability. -/
def capabilityFields : List String := ["kind", "keyword", "cname", "guid"]

def capabilitiesJson (v : View) (packages : List String) (resolution : Resolution) : Json :=
  .object [("module", .string v.name), ("arch", .string v.arch.spelling),
    ("packages", textList packages),
    ("capabilities", .array ((capabilityRows resolution).map fun row =>
      .object (capabilityFields.zip (row.map .string))))]

def capabilitiesText (v : View) (packages : List String) (resolution : Resolution) : String :=
  let listing : Listing :=
    ⟨["KIND", "KEYWORD", "CNAME", "GUID"], capabilityRows resolution, false, "  "⟩
  heading v ++ "\nPackages: " ++ String.intercalate ", " packages ++ "\n\n" ++ listing.text

def runCapabilities (q : Query) (json : Bool) : Step m Completion := do
  let (ws, v, order) ← subjectOf q
  let set := CapabilitySet.ofOrder v order
  note (Glue.capabilityRecord v set :: Glue.repeatRecords ws set.packages [] set.requests)
  let resolution ← settle (.attempting ("failed to resolve capabilities of " ++ v.name))
    (set.resolve ws)
  let packages := set.packages.map (packageName ws)
  return ⟨if json then (capabilitiesJson v packages resolution).pretty ++ "\n"
    else capabilitiesText v packages resolution, none⟩

/-! ## Generation -/

structure Generated where
  module : String
  arch : Arch
  result : Except Error Report

def fileJson (file : OutputFile) : Json :=
  .object [("path", .string file.path), ("written", .bool (file.outcome = .written))]

/-- The text of an error with its class. -/
def errorText (e : Error) : String := e.category.spelling ++ " error: " ++ e.message

def generatedJson (g : Generated) : Json :=
  .object ([("module", .string g.module), ("arch", .string g.arch.spelling)]
    ++ match g.result with
      | .ok report => [("header", fileJson report.header), ("source", fileJson report.source)]
      | .error e => [("error", .string (errorText e))])

def generatedRow (g : Generated) : List String :=
  [g.module, g.arch.spelling] ++ match g.result with
    | .ok report => [report.header.outcome.spelling, report.source.outcome.spelling, ""]
    | .error e => ["", "", errorText e]

def generatedText (results : List Generated) : String :=
  let listing : Listing :=
    { headings := ["MODULE", "ARCH", Glue.headerName, Glue.sourceName, "ERROR"]
      rows := results.map generatedRow }
  listing.text

def Generated.failed (g : Generated) : Bool :=
  match g.result with
  | .ok _ => false
  | .error _ => true

/-- The failure of a command of whose modules some failed. -/
def failureOf (results : List Generated) : Option Failure :=
  let failed := (results.filter Generated.failed).length
  if failed = 0 then none
  else some ⟨toString failed ++ " of " ++ toString results.length ++ " module(s) failed", []⟩

def generateSubjects (ws : Workspace) (config : Config) (arch : Arch) (order : GenerateOrder)
    (fragments : PcdFragments) : Step m (List Generated) :=
  match order.module with
  | none => do
    let results ← ExceptT.lift (Generation.generateAll ws config arch order.output fragments)
    return results.map fun (subject, result) => ⟨subject.name, arch, result⟩
  | some name => do
    let subject ← settle .ofError (ws.requireModule name)
    let result ← ExceptT.lift
      (Generation.generate ws config ⟨subject, arch⟩ order.output fragments)
    return [⟨name, arch, result⟩]

/-- Generates one module or all, and shows what happened. -/
def runGenerate (order : GenerateOrder) (json : Bool) : Step m Completion := do
  let ws ← loadWorkspace order.workspace
  let arch ← archNamed order.arch
  let unloadPolicy ← policyNamed order.unloadPolicy
  let config : Config := { flashMapDir := order.flashMapDir, unloadPolicy }
  let fragments ← settleM (.attempting "failed to read PCD fragments")
    (Storage.fragmentsIn order.pcdHeader order.pcdSource)
  let results ← generateSubjects ws config arch order fragments
  let output :=
    if json then (Json.array (results.map generatedJson)).pretty ++ "\n"
    else generatedText results
  return ⟨output, failureOf results⟩

/-! ## Running a command -/

/-- Runs a command. One that ends early prints nothing. -/
def Invocation.run (i : Invocation) : m Completion := do
  let body : Step m Completion := match i.command with
    | .generate order => runGenerate order i.json
    | .order query => runOrder query i.json
    | .capabilities query => runCapabilities query i.json
  match ← body.run with
  | .ok completion => return completion
  | .error failure => return ⟨"", some failure⟩

/-- The line of a record, without what only a terminal would read. Further lines of its message
are indented. -/
def recordLine (r : Record) : String :=
  let level := r.level.spelling
  Text.withoutControls ("[" ++ level ++ "".pushn ' ' (5 - level.length) ++ "] "
    ++ String.intercalate "\n    " (Text.splitAt '\n' r.message) ++ "\n")

def Invocation.shownLine (i : Invocation) (r : Record) : Option String :=
  match i.threshold with
  | some level => if r.reaches level then some (recordLine r) else none
  | none => none

end FirmwareGlue.CommandLine
