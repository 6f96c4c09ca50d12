import FirmwareGlue.Proofs.FirstError
import FirmwareGlue.Workspace.Leaf

/-!
# What elements are asked for

To read an element of a workspace document is to check its attributes and its text and to take
values from them. The two are told apart here. A demand is one thing that is checked, with the error
that is reported when it is not met; the values of an element whose demands are met are plain
functions of its tag and its text.
-/

namespace FirmwareGlue

variable {ε α β : Type}

/-- How work ends, without its result. -/
def outcome (x : Except ε α) : Except ε Unit :=
  x.map fun _ => ()

theorem outcome_ok_iff {x : Except ε α} : outcome x = .ok () ↔ ∃ a, x = .ok a := by
  cases x <;> simp [outcome, Except.map]

/-- Work with one possible result is how it ends, and then that result. -/
theorem eq_outcome_bind {x : Except ε α} {a : α} (only : ∀ b, x = .ok b → b = a) :
    x = outcome x >>= fun _ => .ok a := by
  cases x with
  | error e => rfl
  | ok b => exact congrArg Except.ok (only b rfl)

namespace Workspace

open Markup (Tag)

variable {tag : Tag} {key : String} {leaf : Leaf}

def textAt (tag : Tag) (key : String) : String :=
  (tag.get? key).getD ""

def guidIn? (value : String) : Option Guid :=
  Guid.parse? (Text.trim value)

def guidAt (tag : Tag) (key : String) : Guid :=
  ((tag.get? key).bind guidIn?).getD ⟨Vector.replicate 16 0⟩

def moduleTypeIn? (value : String) : Option ModuleType :=
  ModuleType.ofSpelling? (Text.trim value)

def moduleTypeAt (tag : Tag) (key : String) : ModuleType :=
  ((tag.get? key).bind moduleTypeIn?).getD .base

/-- Whether an attribute is given and true. -/
def flagAt (tag : Tag) (key : String) : Bool :=
  (tag.get? key).any fun value => Text.equalIgnoringCase value "true"

def archesAt (tag : Tag) : ArchSet :=
  match tag.get? "SupArchList" with
  | none => .every
  | some list => .ofList ((Text.words list).filterMap Arch.ofSpelling?)

namespace Leaf

def scopedText (leaf : Leaf) : Scoped String :=
  ⟨leaf.text, archesAt leaf.tag⟩

def referenceAt (leaf : Leaf) (guidKey versionKey : String) : Scoped Reference :=
  ⟨⟨guidAt leaf.tag guidKey, leaf.tag.get? versionKey⟩, archesAt leaf.tag⟩

/-- The usages that consume a library class; one that is not given does. -/
def consuming : List String := ["ALWAYS_CONSUMED", "SOMETIMES_CONSUMED"]

/-- The usages that produce a library class. -/
def producing : List String := ["ALWAYS_PRODUCED", "SOMETIMES_PRODUCED"]

def classUsage (leaf : Leaf) : ClassUsage :=
  if textAt leaf.tag "Usage" ∈ producing then .produced else .consumed

def classUse (leaf : Leaf) : Scoped ClassUse :=
  ⟨⟨leaf.text, leaf.classUsage⟩, archesAt leaf.tag⟩

def declaration (leaf : Leaf) : Declaration :=
  ⟨textAt leaf.tag "CName", guidAt leaf.tag "Guid"⟩

end Leaf

/-- What an element may be asked for. -/
inductive Demand where
  /-- An attribute that has to be there. -/
  | given (key : String)
  /-- An attribute that has to be there and hold a GUID. -/
  | guid (key : String)
  /-- An attribute that holds a GUID if it is there. -/
  | guidIfGiven (key : String)
  /-- An attribute that has to be there and hold a module type. -/
  | moduleType (key : String)
  /-- An attribute that is true or false if it is there. -/
  | flag (key : String)
  /-- A known usage of a library class, if one is given. -/
  | usage
  /-- Known architectures, if there is a list of them. -/
  | arches
  /-- A text that is not empty. -/
  | text
  /-- A text that is not empty, as the header of a library class. -/
  | header
  deriving DecidableEq

namespace Demand

/-- Whether a leaf has what it is asked for. A tag that begins a package or module counts as a leaf
without text. -/
def Met (leaf : Leaf) : Demand → Prop
  | given key => ∃ value, leaf.tag.get? key = some value
  | guid key => ∃ value guid, leaf.tag.get? key = some value ∧ guidIn? value = some guid
  | guidIfGiven key => ∀ value, leaf.tag.get? key = some value → ∃ guid, guidIn? value = some guid
  | moduleType key =>
    ∃ value type, leaf.tag.get? key = some value ∧ moduleTypeIn? value = some type
  | flag key => ∀ value, leaf.tag.get? key = some value →
      Text.equalIgnoringCase value "true" ∨ Text.equalIgnoringCase value "false"
  | usage => ∀ value, leaf.tag.get? "Usage" = some value →
      value ∈ Leaf.consuming ∨ value ∈ Leaf.producing
  | arches => ∀ list, leaf.tag.get? "SupArchList" = some list →
      ∀ word ∈ Text.words list, ∃ arch, Arch.ofSpelling? word = some arch
  | text | header => leaf.text ≠ ""

def check (leaf : Leaf) : Demand → Except Error Unit
  | given key => outcome (required leaf.tag key)
  | guid key => outcome (requiredGuid leaf.tag key)
  | guidIfGiven key => outcome ((leaf.tag.get? key).mapM readGuid)
  | moduleType key => outcome (requiredModuleType leaf.tag key)
  | flag key => outcome (Workspace.flag leaf.tag key)
  | usage => outcome leaf.usage
  | arches => outcome (Workspace.arches leaf.tag)
  | text => outcome leaf.symbol
  | header =>
    if leaf.text = "" then
      .error (.malformed (.classWithoutHeader (textAt leaf.tag "Name")))
    else .ok ()

end Demand

/-! ### Reading a value is meeting a demand -/

theorem required_ok_iff {value : String} :
    required tag key = .ok value ↔ tag.get? key = some value := by
  rw [required]
  cases tag.get? key <;> simp

theorem readGuid_ok_iff {value : String} {guid : Guid} :
    readGuid value = .ok guid ↔ guidIn? value = some guid := by
  rw [readGuid, guidIn?]
  cases Guid.parse? (Text.trim value) <;> simp

theorem readModuleType_ok_iff {value : String} {type : ModuleType} :
    readModuleType value = .ok type ↔ moduleTypeIn? value = some type := by
  rw [readModuleType, moduleTypeIn?]
  cases ModuleType.ofSpelling? (Text.trim value) <;> simp

theorem readArch_ok_iff {value : String} {arch : Arch} :
    readArch value = .ok arch ↔ Arch.ofSpelling? value = some arch := by
  rw [readArch]
  cases Arch.ofSpelling? value <;> simp

theorem requiredGuid_ok_iff {guid : Guid} : requiredGuid tag key = .ok guid ↔
    ∃ value, tag.get? key = some value ∧ guidIn? value = some guid := by
  simp only [requiredGuid, bind_ok_iff, required_ok_iff, readGuid_ok_iff]

theorem requiredModuleType_ok_iff {type : ModuleType} : requiredModuleType tag key = .ok type ↔
    ∃ value, tag.get? key = some value ∧ moduleTypeIn? value = some type := by
  simp only [requiredModuleType, bind_ok_iff, required_ok_iff, readModuleType_ok_iff]

theorem flag_ok_iff {value : Bool} : flag tag key = .ok value ↔
    (∀ given, tag.get? key = some given →
      Text.equalIgnoringCase given "true" ∨ Text.equalIgnoringCase given "false") ∧
      value = flagAt tag key := by
  rw [flag, flagAt]
  cases tag.get? key with
  | none => simp [eq_comm (b := value)]
  | some given =>
      cases yes : Text.equalIgnoringCase given "true" <;>
        cases no : Text.equalIgnoringCase given "false" <;> simp [yes, no, eq_comm (b := value)]

theorem usage_ok_iff {value : ClassUsage} : leaf.usage = .ok value ↔
    (∀ given, leaf.tag.get? "Usage" = some given →
      given ∈ Leaf.consuming ∨ given ∈ Leaf.producing) ∧ value = leaf.classUsage := by
  rw [Leaf.usage, Leaf.classUsage, textAt]
  cases leaf.tag.get? "Usage" with
  | none => simp [Leaf.producing, eq_comm (b := value)]
  | some given =>
      simp only [Option.getD_some, Option.some.injEq, forall_eq', Leaf.consuming, Leaf.producing]
      split <;> simp_all [eq_comm (b := value)]

theorem arches_ok_iff {set : ArchSet} : arches tag = .ok set ↔
    (∀ list, tag.get? "SupArchList" = some list →
      ∀ word ∈ Text.words list, ∃ arch, Arch.ofSpelling? word = some arch) ∧
      set = archesAt tag := by
  rw [arches, archesAt]
  cases tag.get? "SupArchList" with
  | none => simp [eq_comm (b := set)]
  | some list =>
      simp only [Option.some.injEq, forall_eq', bind_ok_iff, Except.ok.injEq]
      constructor
      · rintro ⟨named, read, same⟩
        have each := exists_mapM_ok_iff.1 ⟨named, read⟩
        simp only [readArch_ok_iff] at each
        refine ⟨each, ?_⟩
        rw [← same, filterMap_of_mapM (fun _ _ => readArch_ok_iff) read]
      · rintro ⟨each, same⟩
        simp only [← readArch_ok_iff] at each
        obtain ⟨named, read⟩ := exists_mapM_ok_iff.2 each
        refine ⟨named, read, ?_⟩
        rw [same, filterMap_of_mapM (fun _ _ => readArch_ok_iff) read]

theorem symbol_ok_iff {value : String} :
    leaf.symbol = .ok value ↔ leaf.text ≠ "" ∧ value = leaf.text := by
  by_cases empty : leaf.text = ""
  · simp [Leaf.symbol, empty]
  · simp [Leaf.symbol, empty, eq_comm]

theorem givenGuid_ok_iff {value : Option Guid} :
    (tag.get? key).mapM readGuid = .ok value ↔
      (∀ given, tag.get? key = some given → ∃ guid, guidIn? given = some guid) ∧
        value = (tag.get? key).bind guidIn? := by
  cases tag.get? key with
  | none => simp [eq_comm, pure, Except.pure]
  | some given =>
      rw [Option.mapM_some, ← bind_pure_comp]
      simp only [bind_ok_iff, pure, Except.pure, readGuid_ok_iff, Except.ok.injEq, Option.bind_some,
        Option.some.injEq, forall_eq']
      constructor
      · rintro ⟨guid, known, rfl⟩
        exact ⟨⟨guid, known⟩, known.symm⟩
      · rintro ⟨⟨guid, known⟩, same⟩
        exact ⟨guid, known, known.symm.trans same.symm⟩

/-- A demand is met exactly if it is not reported. -/
theorem Demand.check_ok_iff {demand : Demand} : demand.check leaf = .ok () ↔ demand.Met leaf := by
  -- Every reading but the last has one possible value besides the demand that is met.
  have met {x : Prop} {γ : Type} {c : γ} : (∃ a, x ∧ a = c) ↔ x := by simp
  cases demand with
  | given key => simp only [check, outcome_ok_iff, required_ok_iff, Met]
  | guid key =>
      simp only [check, outcome_ok_iff, requiredGuid_ok_iff, Met]
      exact exists_comm
  | guidIfGiven key => simp only [check, outcome_ok_iff, givenGuid_ok_iff, Met, met]
  | moduleType key =>
      simp only [check, outcome_ok_iff, requiredModuleType_ok_iff, Met]
      exact exists_comm
  | flag key => simp only [check, outcome_ok_iff, flag_ok_iff, Met, met]
  | usage => simp only [check, outcome_ok_iff, usage_ok_iff, Met, met]
  | arches => simp only [check, outcome_ok_iff, arches_ok_iff, Met, met]
  | text => simp only [check, outcome_ok_iff, symbol_ok_iff, Met, met]
  | header =>
      simp only [check, Met]
      split <;> simp_all

theorem Demand.check_header (leaf : Leaf) : Demand.header.check leaf =
    if leaf.text = "" then .error (.malformed (.classWithoutHeader (textAt leaf.tag "Name")))
    else .ok () :=
  rfl

def Leaf.ask (leaf : Leaf) (demands : List Demand) : Except Error Unit :=
  forM demands fun demand => demand.check leaf

theorem Leaf.ask_ok_iff {demands : List Demand} :
    leaf.ask demands = .ok () ↔ ∀ demand ∈ demands, demand.Met leaf := by
  simp only [Leaf.ask, forM_ok_iff, Demand.check_ok_iff]

theorem required_eq (leaf : Leaf) (key : String) : required leaf.tag key =
    (Demand.given key).check leaf >>= fun _ => .ok (textAt leaf.tag key) := by
  apply eq_outcome_bind
  intro value read
  simp [textAt, required_ok_iff.1 read]

theorem requiredGuid_eq (leaf : Leaf) (key : String) : requiredGuid leaf.tag key =
    (Demand.guid key).check leaf >>= fun _ => .ok (guidAt leaf.tag key) := by
  apply eq_outcome_bind
  intro guid read
  obtain ⟨value, given, known⟩ := requiredGuid_ok_iff.1 read
  simp [guidAt, given, known]

theorem requiredModuleType_eq (leaf : Leaf) (key : String) : requiredModuleType leaf.tag key =
    (Demand.moduleType key).check leaf >>= fun _ => .ok (moduleTypeAt leaf.tag key) := by
  apply eq_outcome_bind
  intro type read
  obtain ⟨value, given, known⟩ := requiredModuleType_ok_iff.1 read
  simp [moduleTypeAt, given, known]

theorem flag_eq (leaf : Leaf) (key : String) : flag leaf.tag key =
    (Demand.flag key).check leaf >>= fun _ => .ok (flagAt leaf.tag key) :=
  eq_outcome_bind fun _ read => (flag_ok_iff.1 read).2

theorem givenGuid_eq (leaf : Leaf) (key : String) : (leaf.tag.get? key).mapM readGuid =
    (Demand.guidIfGiven key).check leaf >>= fun _ => .ok ((leaf.tag.get? key).bind guidIn?) :=
  eq_outcome_bind fun _ read => (givenGuid_ok_iff.1 read).2

theorem arches_eq (leaf : Leaf) : arches leaf.tag =
    Demand.arches.check leaf >>= fun _ => .ok (archesAt leaf.tag) :=
  eq_outcome_bind fun _ read => (arches_ok_iff.1 read).2

theorem usage_eq (leaf : Leaf) : leaf.usage =
    Demand.usage.check leaf >>= fun _ => .ok leaf.classUsage :=
  eq_outcome_bind fun _ read => (usage_ok_iff.1 read).2

theorem symbol_eq (leaf : Leaf) : leaf.symbol =
    Demand.text.check leaf >>= fun _ => .ok leaf.text :=
  eq_outcome_bind fun _ read => (symbol_ok_iff.1 read).2

theorem scopedSymbol_eq (leaf : Leaf) : leaf.scopedSymbol =
    leaf.ask [.text, .arches] >>= fun _ => .ok leaf.scopedText := by
  simp [Leaf.scopedSymbol, symbol_eq, arches_eq, Leaf.ask, Leaf.scopedText, ok_bind]

theorem scopedReference_eq (leaf : Leaf) (guidKey versionKey : String) :
    leaf.scopedReference guidKey versionKey =
      leaf.ask [.guid guidKey, .arches] >>= fun _ => .ok (leaf.referenceAt guidKey versionKey) := by
  simp [Leaf.scopedReference, requiredGuid_eq, arches_eq, Leaf.ask, Leaf.referenceAt, ok_bind]

theorem scopedClass_eq (leaf : Leaf) : leaf.scopedClass =
    leaf.ask [.usage, .text, .arches] >>= fun _ => .ok leaf.classUse := by
  simp [Leaf.scopedClass, usage_eq, symbol_eq, arches_eq, Leaf.ask, Leaf.classUse, ok_bind]

theorem declareIn_eq (leaf : Leaf) (p : Package) (kind : CapabilityKind) : leaf.declareIn p kind =
    leaf.ask [.given "Name", .given "CName", .guid "Guid"] >>= fun _ =>
      .ok (p.declare kind (textAt leaf.tag "Name") leaf.declaration) := by
  simp [Leaf.declareIn, required_eq, requiredGuid_eq, Leaf.ask, Leaf.declaration, ok_bind]

end Workspace

end FirmwareGlue
