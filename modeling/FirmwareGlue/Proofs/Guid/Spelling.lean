import FirmwareGlue.Glue.Header
import FirmwareGlue.Proofs.Guid.Parsing
import FirmwareGlue.Proofs.Text.Pieces
import FirmwareGlue.Workspace.Attributes
import Mathlib.Data.List.Induction

/-!
# The spellings of a GUID

The text, the C initializer and the include guard of a GUID show the same thirty-two digits from
left to right, although they are grouped in three ways and the initializer is printed from numbers.
Each constant of the initializer has two digits for each byte of its field, so no leading zero is
lost; a C compiler that stores the constants in their fields, the least significant byte first,
gets the bytes back. So every spelling stands for one GUID only, and reading an accepted text and
printing it as an initializer keeps all of its digits.
-/

namespace FirmwareGlue

namespace Hexadecimal

theorem isAlphanum_of_mem_alphabet : ∀ c ∈ alphabet, c.isAlphanum = true :=
  forall_alphabet (by decide)

theorem ne_mark_of_mem_alphabet : ∀ c ∈ alphabet, c ≠ 'x' :=
  forall_alphabet (by decide)

theorem isAlphanum_capital : ∀ c ∈ alphabet, c.toUpper.isAlphanum = true :=
  forall_alphabet (by decide)

theorem capital_ne_mark : ∀ c ∈ alphabet, c.toUpper ≠ 'x' :=
  forall_alphabet (by decide)

theorem toLower_capital : ∀ c ∈ alphabet, c.toUpper.toLower = c :=
  forall_alphabet (by decide)

end Hexadecimal

namespace Guid

open Hexadecimal (value? digit alphabet)

variable {cs : List Char} {g : Guid}

/-! ### Reading an initializer -/

/-- A run without the mark of a hexadecimal constant. -/
def unmarked : List Char → List Char
  | '0' :: 'x' :: rest => rest
  | cs => cs

/-- The digits of a text from left to right: its letters and digits, apart from the marks of
hexadecimal constants. -/
def digitsIn (s : String) : List Char :=
  (Text.runs s.toList).flatMap unmarked

def constant? : List Char → Option Nat
  | '0' :: 'x' :: rest => do
      let values ← rest.mapM value?
      some (values.foldl (fun n half => 16 * n + half) 0)
  | _ => none

/-- The bytes of a field in which a number is stored, the least significant first. The number has to
fit the field. -/
def store? : Nat → Nat → Option (List UInt8)
  | 0, n => if n = 0 then some [] else none
  | width + 1, n => do
      let rest ← store? width (n / 256)
      some (UInt8.ofNat (n % 256) :: rest)

def storeFields? : List Nat → List Nat → Option (List UInt8)
  | [], [] => some []
  | width :: widths, n :: values => do
      let field ← store? width n
      let rest ← storeFields? widths values
      some (field ++ rest)
  | _, _ => none

/-- Reads an initializer as a C compiler does: three constants for the fields of four, two and two
bytes, and then, in braces of their own, eight constants for single bytes. -/
def compile? (s : String) : Option Guid :=
  match Text.splitBy (· == '\x7b') s.toList with
  | [outer, inner] => do
      let wide ← (Text.runs outer).mapM constant?
      let single ← (Text.runs inner).mapM constant?
      let outerBytes ← storeFields? [4, 2, 2] wide
      let innerBytes ← storeFields? [1, 1, 1, 1, 1, 1, 1, 1] single
      let bytes := outerBytes ++ innerBytes
      if h : bytes.length = 16 then some ⟨⟨bytes.toArray, by simpa using h⟩⟩ else none
  | _ => none

/-! ### The constants of an initializer -/

/-- The number that bytes spell, the most significant first. -/
def bigEndian (bytes : List UInt8) : Nat :=
  bytes.foldl (fun n b => 256 * n + b.toNat) 0

/-- The constant that shows the bytes of a field. -/
def fieldConstant (bytes : List UInt8) : List Char :=
  '0' :: 'x' :: groupDigits bytes

theorem bigEndian_concat (bytes : List UInt8) (b : UInt8) :
    bigEndian (bytes ++ [b]) = 256 * bigEndian bytes + b.toNat := by
  simp [bigEndian, List.foldl_append]

/-- Two digits for each byte are enough, and show the bytes one by one. -/
theorem digits_bigEndian (bytes : List UInt8) :
    Hexadecimal.digits (2 * bytes.length) (bigEndian bytes) = groupDigits bytes := by
  induction bytes using List.reverseRecOn with
  | nil => rfl
  | append_singleton bytes b ih =>
      have below := b.toNat_lt
      rw [List.length_append, List.length_singleton, Nat.mul_add, Hexadecimal.digits,
        Hexadecimal.digits, bigEndian_concat, groupDigits_append,
        show (256 * bigEndian bytes + b.toNat) / 16 / 16 = bigEndian bytes by omega, ih,
        List.append_assoc]
      simp only [groupDigits, List.flatMap_singleton, byteDigits_eq, halves, List.map_cons,
        List.map_nil, List.singleton_append, List.append_cancel_left_eq, List.cons.injEq, and_true]
      exact ⟨congrArg digit (by omega), congrArg digit (by omega)⟩

theorem toList_constant (bytes : List UInt8) :
    (constant (2 * bytes.length) (bigEndian bytes)).toList = fieldConstant bytes := by
  simp [constant, digits_bigEndian, fieldConstant]

theorem constant?_fieldConstant (bytes : List UInt8) :
    constant? (fieldConstant bytes) = some (bigEndian bytes) := by
  have read : (groupDigits bytes).mapM value? = some (bytes.flatMap halves) := by
    rw [groupDigits_eq, Hexadecimal.mapM_value?_digits flatMap_halves_small]
  have step : (fun n b => (halves b).foldl (fun n half => 16 * n + half) n) =
      fun n (b : UInt8) => 256 * n + b.toNat := by
    funext n b
    simp only [halves, List.foldl_cons, List.foldl_nil]
    omega
  rw [fieldConstant, constant?, read, Option.bind_eq_bind, Option.bind_some, List.foldl_flatMap,
    step, bigEndian]

/-- What a field of some bytes shows is stored as the bytes the other way around. -/
theorem store?_bigEndian (bytes : List UInt8) :
    store? bytes.length (bigEndian bytes) = some bytes.reverse := by
  induction bytes using List.reverseRecOn with
  | nil => rfl
  | append_singleton bytes b ih =>
      have below := b.toNat_lt
      rw [List.length_append, List.length_singleton, store?, bigEndian_concat,
        show (256 * bigEndian bytes + b.toNat) / 256 = bigEndian bytes by omega, ih,
        show (256 * bigEndian bytes + b.toNat) % 256 = b.toNat by omega]
      simp

theorem storeFields?_bigEndian (fields : List (List UInt8)) :
    storeFields? (fields.map List.length) (fields.map bigEndian) =
      some (fields.map List.reverse).flatten := by
  induction fields with
  | nil => rfl
  | cons field fields ih => simp [storeFields?, store?_bigEndian, ih]

/-! ### The fields of a GUID -/

/-- The bytes of the fields of several bytes, the most significant first. -/
def wideFields (g : Guid) : List (List UInt8) :=
  let shown := (turnFields g.bytes).toList
  [shown.take 4, (shown.drop 4).take 2, (shown.drop 6).take 2]

/-- The bytes of the fields of a single byte. -/
def byteFields (g : Guid) : List (List UInt8) :=
  g.data4.map fun b => [b]

def fields (g : Guid) : List (List UInt8) :=
  g.wideFields ++ g.byteFields

/-- The bytes in the order of memory, one by one. -/
theorem toList_bytes (g : Guid) : g.bytes.toList = (turnFields (turnFields g.bytes)).toList := by
  rw [turnFields_turnFields]

/-- The single bytes are not turned around. -/
theorem byteFields_eq (g : Guid) :
    g.byteFields = ((turnFields g.bytes).toList.drop 8).map fun b => [b] := by
  rw [byteFields, data4, toList_bytes g]
  rfl

/-- The fields as they are shown have the bytes in the order of the text. -/
theorem flatten_fields (g : Guid) : g.fields.flatten = (turnFields g.bytes).toList := by
  rw [fields, byteFields_eq]
  rfl

/-- The fields as they are stored have the bytes in the order of memory. -/
theorem flatten_reversed_fields (g : Guid) :
    (g.wideFields.map List.reverse).flatten ++ (g.byteFields.map List.reverse).flatten =
      g.bytes.toList := by
  rw [byteFields_eq, toList_bytes g]
  rfl

theorem lengths_fields (g : Guid) :
    g.fields.map List.length = [4, 2, 2, 1, 1, 1, 1, 1, 1, 1, 1] := by
  rw [fields, byteFields_eq]
  rfl

theorem wide_constants (g : Guid) :
    [(constant 8 g.data1).toList, (constant 4 g.data2).toList, (constant 4 g.data3).toList] =
      g.wideFields.map fieldConstant := by
  have data1 : g.data1 = bigEndian [g.bytes[3], g.bytes[2], g.bytes[1], g.bytes[0]] := by
    simp only [Guid.data1, bigEndian, List.foldl_cons, List.foldl_nil]
    omega
  have data2 : g.data2 = bigEndian [g.bytes[5], g.bytes[4]] := by
    simp only [Guid.data2, bigEndian, List.foldl_cons, List.foldl_nil]
    omega
  have data3 : g.data3 = bigEndian [g.bytes[7], g.bytes[6]] := by
    simp only [Guid.data3, bigEndian, List.foldl_cons, List.foldl_nil]
    omega
  have wide : g.wideFields = [[g.bytes[3], g.bytes[2], g.bytes[1], g.bytes[0]],
      [g.bytes[5], g.bytes[4]], [g.bytes[7], g.bytes[6]]] := rfl
  rw [data1, data2, data3, wide]
  simp only [List.map_cons, List.map_nil, ← toList_constant, List.length_cons, List.length_nil]

theorem byte_constants (g : Guid) :
    g.data4.map (fun b => (constant 2 b.toNat).toList) = g.byteFields.map fieldConstant := by
  rw [byteFields, List.map_map]
  refine List.map_congr_left fun b _ => ?_
  have value : b.toNat = bigEndian [b] := by simp [bigEndian]
  rw [value]
  exact toList_constant [b]

theorem toList_initializer (g : Guid) : g.initializer.toList =
    [',', ' '].intercalate (g.wideFields.map fieldConstant) ++ [',', ' ', '\x7b']
      ++ ([',', ' '].intercalate (g.byteFields.map fieldConstant) ++ ['\x7d']) := by
  rw [← wide_constants, ← byte_constants]
  simp [initializer, String.toList_intercalate, Function.comp_def]

theorem isRun_fieldConstant (bytes : List UInt8) : Text.IsRun (fieldConstant bytes) := by
  refine ⟨List.cons_ne_nil _ _, ?_⟩
  simp only [fieldConstant, List.forall_mem_cons]
  exact ⟨by decide, by decide, fun c member =>
    Hexadecimal.isAlphanum_of_mem_alphabet c (mem_alphabet_of_mem_groupDigits c member)⟩

theorem isSeparator_comma : Text.IsSeparator [',', ' '] :=
  (Text.isSeparator_singleton (by decide)).cons (by decide)

theorem isSeparator_brace : Text.IsSeparator [',', ' ', '\x7b'] :=
  ((Text.isSeparator_singleton (by decide)).cons (by decide)).cons (by decide)

theorem runs_constants (fields : List (List UInt8)) :
    Text.runs ([',', ' '].intercalate (fields.map fieldConstant)) = fields.map fieldConstant :=
  Text.runs_joined isSeparator_comma (List.forall_mem_map.2 fun field _ =>
    isRun_fieldConstant field)

theorem runs_initializer (g : Guid) :
    Text.runs g.initializer.toList = g.fields.map fieldConstant := by
  rw [toList_initializer, Text.runs_separated isSeparator_brace, runs_constants,
    Text.runs_append_cons (by decide), runs_constants, Text.runs_nil, List.append_nil, fields,
    List.map_append]

theorem groupDigits_flatten (fields : List (List UInt8)) :
    groupDigits fields.flatten = fields.flatMap groupDigits := by
  induction fields with
  | nil => rfl
  | cons field fields ih =>
      rw [List.flatten_cons, groupDigits_append, ih, List.flatMap_cons]

theorem digitsIn_initializer (g : Guid) : digitsIn g.initializer = g.digits := by
  rw [digitsIn, runs_initializer, List.flatMap_map, digits, ← flatten_fields, groupDigits_flatten]
  rfl

theorem no_brace_in_constants (fields : List (List UInt8)) :
    ∀ c ∈ [',', ' '].intercalate (fields.map fieldConstant), c ≠ '\x7b' := by
  have no_brace (field : List UInt8) : ∀ c ∈ fieldConstant field, c ≠ '\x7b' := by
    rintro c member rfl
    exact absurd ((isRun_fieldConstant field).unbroken _ member) (by decide)
  induction fields with
  | nil => exact fun c member => absurd member List.not_mem_nil
  | cons field fields ih =>
      cases fields with
      | nil => simpa using no_brace field
      | cons next fields =>
          rw [List.map_cons, List.map_cons, List.intercalate_cons_cons, ← List.map_cons,
            List.forall_mem_append, List.forall_mem_append]
          exact ⟨⟨no_brace field, by simp⟩, ih⟩

/-- The inner brace is the only one that opens. -/
theorem split_initializer (g : Guid) : Text.splitBy (· == '\x7b') g.initializer.toList =
    [[',', ' '].intercalate (g.wideFields.map fieldConstant) ++ [',', ' '] ++ [],
      [',', ' '].intercalate (g.byteFields.map fieldConstant) ++ ['\x7d']] := by
  have parts : g.initializer.toList =
      ([',', ' '].intercalate (g.wideFields.map fieldConstant) ++ [',', ' '] ++ []) ++ '\x7b' ::
        ([',', ' '].intercalate (g.byteFields.map fieldConstant) ++ ['\x7d']) := by
    rw [toList_initializer]
    simp
  have clear (fields : List (List UInt8)) :
      ∀ c ∈ [',', ' '].intercalate (fields.map fieldConstant), (c == '\x7b') = false :=
    fun c member => beq_eq_false_iff_ne.2 (no_brace_in_constants fields c member)
  rw [parts, Text.splitBy_append_cons (by simp), Text.splitBy_whole, Text.splitBy_whole,
    List.singleton_append]
  · exact List.forall_mem_append.2 ⟨clear _, by simp⟩
  · rw [List.append_nil]
    exact List.forall_mem_append.2 ⟨clear _, by simp⟩

theorem mapM_constant?_map_fieldConstant (fields : List (List UInt8)) :
    (fields.map fieldConstant).mapM constant? = some (fields.map bigEndian) := by
  induction fields with
  | nil => rfl
  | cons field fields ih => simp [constant?_fieldConstant, ih]

theorem compile?_initializer (g : Guid) : compile? g.initializer = some g := by
  have wide : storeFields? [4, 2, 2] (g.wideFields.map bigEndian) =
      some (g.wideFields.map List.reverse).flatten :=
    storeFields?_bigEndian g.wideFields
  have single : storeFields? [1, 1, 1, 1, 1, 1, 1, 1] (g.byteFields.map bigEndian) =
      some (g.byteFields.map List.reverse).flatten := by
    have widths : g.byteFields.map List.length = [1, 1, 1, 1, 1, 1, 1, 1] := by
      rw [byteFields_eq]
      rfl
    rw [← widths, storeFields?_bigEndian]
  have outer : Text.runs
      ([',', ' '].intercalate (g.wideFields.map fieldConstant) ++ [',', ' '] ++ []) =
        g.wideFields.map fieldConstant := by
    rw [Text.runs_separated isSeparator_comma, runs_constants, Text.runs_nil, List.append_nil]
  have inner : Text.runs ([',', ' '].intercalate (g.byteFields.map fieldConstant) ++ ['\x7d']) =
      g.byteFields.map fieldConstant := by
    rw [Text.runs_append_cons (by decide), runs_constants, Text.runs_nil, List.append_nil]
  rw [compile?, split_initializer]
  simp only [outer, inner, mapM_constant?_map_fieldConstant, wide, single, Option.bind_eq_bind,
    Option.bind_some]
  -- What is stored is in the order of memory already.
  exact (assembled_iff id fun _ => rfl).2 (flatten_reversed_fields g)

/-! ### The text and the include guard -/

/-- What is true of each digit is true of the characters in each group. -/
theorem forall_groups {P : Char → Prop} (each : ∀ c ∈ alphabet, P c) :
    ∀ group ∈ g.groups, ∀ c ∈ group, P c := by
  have shown (bytes : List UInt8) : ∀ c ∈ groupDigits bytes, P c :=
    fun c member => each c (mem_alphabet_of_mem_groupDigits c member)
  simp only [groups, List.forall_mem_cons, List.not_mem_nil, false_implies, implies_true, and_true]
  exact ⟨shown _, shown _, shown _, shown _, shown _⟩

theorem groups_ne_nil : ∀ group ∈ g.groups, group ≠ [] := by
  rintro group member rfl
  have lengths := List.mem_map_of_mem (f := List.length) member
  rw [g.areGroups.lengths] at lengths
  exact absurd lengths (by decide)

theorem runs_text (g : Guid) : Text.runs g.text.toList = g.groups := by
  rw [toList_text]
  exact Text.runs_joined (Text.isSeparator_singleton (by decide)) fun group member =>
    ⟨groups_ne_nil group member,
      forall_groups Hexadecimal.isAlphanum_of_mem_alphabet group member⟩

theorem unmarked_of_no_mark (clear : ∀ c ∈ cs, c ≠ 'x') : unmarked cs = cs := by
  fun_cases unmarked cs with
  | case1 rest => exact absurd rfl (clear 'x' (by simp))
  | case2 => rfl

theorem digitsIn_text (g : Guid) : digitsIn g.text = g.digits := by
  have unchanged : g.groups.map unmarked = g.groups :=
    map_eq_self fun group member =>
      unmarked_of_no_mark (forall_groups Hexadecimal.ne_mark_of_mem_alphabet group member)
  rw [digitsIn, runs_text, List.flatMap_def, unchanged, flatten_groups]

/-- The groups of digits in the include guard of a module. -/
def capitalGroups (g : Guid) : List (List Char) :=
  g.groups.map fun group => group.map Char.toUpper

theorem map_intercalate (f : Char → Char) (separator : List Char) (pieces : List (List Char)) :
    (separator.intercalate pieces).map f =
      (separator.map f).intercalate (pieces.map fun piece => piece.map f) := by
  induction pieces with
  | nil => rfl
  | cons piece pieces ih => cases pieces <;> simp_all [List.intercalate_cons_cons]

theorem includeGuard_eq (m : Module) : Glue.includeGuard m =
    "_AUTOGENH_" ++ String.ofList (['_'].intercalate m.identity.guid.capitalGroups) := by
  have capitals : (m.identity.guid.groups.map fun group =>
      group.map fun c => if c = '-' then '_' else c.toUpper) = m.identity.guid.capitalGroups :=
    List.map_congr_left fun group member => List.map_congr_left fun c inside =>
      if_neg (forall_groups Hexadecimal.ne_hyphen_of_mem_alphabet group member c inside)
  rw [Glue.includeGuard, toList_text, map_intercalate, capitals]
  rfl

theorem runs_capitals (g : Guid) :
    Text.runs (['_'].intercalate g.capitalGroups) = g.capitalGroups := by
  refine Text.runs_joined (Text.isSeparator_singleton (by decide))
    (List.forall_mem_map.2 fun group member => ?_)
  exact ⟨by simpa using groups_ne_nil group member,
    List.forall_mem_map.2 (forall_groups Hexadecimal.isAlphanum_capital group member)⟩

theorem digitsIn_capitals (g : Guid) :
    (digitsIn (String.ofList (['_'].intercalate g.capitalGroups))).map Char.toLower = g.digits := by
  have unchanged : g.capitalGroups.map unmarked = g.capitalGroups := by
    refine map_eq_self (List.forall_mem_map.2 fun group member => unmarked_of_no_mark ?_)
    exact List.forall_mem_map.2 (forall_groups Hexadecimal.capital_ne_mark group member)
  have lowered : g.capitalGroups.map (fun group => group.map Char.toLower) = g.groups := by
    rw [capitalGroups, List.map_map]
    refine map_eq_self fun group member => ?_
    rw [Function.comp_apply, List.map_map]
    exact map_eq_self (forall_groups Hexadecimal.toLower_capital group member)
  rw [digitsIn, String.toList_ofList, runs_capitals, List.flatMap_def, unchanged,
    List.map_flatten, lowered, flatten_groups]

/-! ### Reading and printing again -/

theorem filter_joined {pieces : List (List Char)}
    (clear : ∀ piece ∈ pieces, ∀ c ∈ piece, c ≠ '-') :
    (['-'].intercalate pieces).filter (· ≠ '-') = pieces.flatten := by
  induction pieces with
  | nil => rfl
  | cons piece pieces ih =>
      rw [List.forall_mem_cons] at clear
      have kept : piece.filter (· ≠ '-') = piece := List.filter_eq_self.2 (by simpa using clear.1)
      cases pieces with
      | nil => rw [List.intercalate_singleton, kept, List.flatten_singleton]
      | cons next pieces =>
          rw [List.intercalate_cons_cons, List.filter_append, List.filter_append, kept,
            ih clear.2, List.flatten_cons]
          simp

theorem filter_text (g : Guid) : g.text.toList.filter (· ≠ '-') = g.digits := by
  rw [toList_text, filter_joined (forall_groups Hexadecimal.ne_hyphen_of_mem_alphabet),
    flatten_groups]

theorem readGuid_iff {value : String} : Workspace.readGuid value = .ok g ↔
    (Text.trim value).toList.map Char.toLower = g.text.toList := by
  rw [← parse?_iff_text, Workspace.readGuid]
  cases parse? (Text.trim value) <;> simp

theorem map_toLower_text (g : Guid) : g.text.toList.map Char.toLower = g.text.toList := by
  have unchanged : g.groups.map (fun group => group.map Char.toLower) = g.groups :=
    map_eq_self fun group member =>
      map_eq_self (forall_groups Hexadecimal.toLower_of_mem_alphabet group member)
  rw [toList_text, map_intercalate, unchanged]
  rfl

/-- Only the characters that are no hyphens can be in either case. -/
theorem filter_of_read {value : String} (read : Workspace.readGuid value = .ok g) :
    ((Text.trim value).toList.filter (· ≠ '-')).map Char.toLower = g.digits := by
  rw [← filter_text, ← readGuid_iff.1 read, List.filter_map]
  refine congrArg (List.map Char.toLower) (List.filter_congr fun c _ => ?_)
  simp [Hexadecimal.toLower_eq_hyphen_iff]

/-- What the spellings of a GUID have in common, and that each of them stands for it alone. -/
structure SpellingsAgree (g : Guid) : Prop where
  /-- There are thirty-two digits, in lower case. -/
  digits : g.digits.length = 32 ∧ ∀ c ∈ g.digits, c ∈ alphabet
  /-- The text shows them in five groups. -/
  text : g.text.toList = ['-'].intercalate (Text.runs g.text.toList) ∧
    (Text.runs g.text.toList).map List.length = [8, 4, 4, 4, 12] ∧ digitsIn g.text = g.digits
  /-- The initializer shows them in eleven constants, each with its mark. -/
  initializer : (∀ run ∈ Text.runs g.initializer.toList, ['0', 'x'] <+: run) ∧
    (Text.runs g.initializer.toList).map List.length = [10, 6, 6, 4, 4, 4, 4, 4, 4, 4, 4] ∧
    digitsIn g.initializer = g.digits
  /-- The include guard of a module shows them in groups as the text does, up to their case. -/
  includeGuard : ∀ m : Module, m.identity.guid = g → ∃ shown,
    Glue.includeGuard m = "_AUTOGENH_" ++ shown ∧
    (Text.runs shown.toList).map List.length = [8, 4, 4, 4, 12] ∧
    (digitsIn shown).map Char.toLower = g.digits
  /-- The fields of the initializer are stored as the sixteen bytes. -/
  compiled : compile? g.initializer = some g
  /-- The text is read as the GUID. -/
  parsed : parse? g.text = some g
  /-- So is a text that differs in case or has blanks around it, and no other. -/
  read : ∀ value, Workspace.readGuid value = .ok g ↔
    (Text.trim value).toList.map Char.toLower = g.text.toList
  /-- All digits of a text that is read are in the initializer. -/
  kept : ∀ value, Workspace.readGuid value = .ok g →
    digitsIn g.initializer = ((Text.trim value).toList.filter (· ≠ '-')).map Char.toLower
  /-- No other GUID has the initializer. -/
  initializer_alone : ∀ other : Guid, other.initializer = g.initializer → other = g
  /-- No module with another GUID has the include guard. -/
  includeGuard_alone : ∀ m other : Module, m.identity.guid = g →
    Glue.includeGuard other = Glue.includeGuard m → other.identity.guid = g

/-- The spellings of each GUID agree and lose nothing. -/
theorem spellings_agree (g : Guid) : g.SpellingsAgree where
  digits := ⟨length_digits g, mem_alphabet_of_mem_groupDigits⟩
  text := by
    rw [runs_text]
    exact ⟨toList_text g, g.areGroups.lengths, digitsIn_text g⟩
  initializer := by
    rw [runs_initializer]
    refine ⟨List.forall_mem_map.2 fun field _ => ⟨groupDigits field, rfl⟩, ?_,
      digitsIn_initializer g⟩
    have twice : (fun field => (fieldConstant field).length) =
        (fun length => 2 * length + 2) ∘ List.length := by
      funext field
      simp [fieldConstant, length_groupDigits]
    rw [List.map_map, Function.comp_def, twice, ← List.map_map, lengths_fields]
    rfl
  includeGuard := by
    rintro m rfl
    refine ⟨_, includeGuard_eq m, ?_, digitsIn_capitals _⟩
    rw [String.toList_ofList, runs_capitals, capitalGroups, List.map_map,
      ← m.identity.guid.areGroups.lengths]
    exact List.map_congr_left fun group _ => List.length_map ..
  compiled := compile?_initializer g
  parsed := parse?_iff_text.2 (map_toLower_text g)
  read value := readGuid_iff
  kept value read := by rw [digitsIn_initializer, filter_of_read read]
  initializer_alone other same := by
    have read := compile?_initializer other
    rw [same, compile?_initializer g] at read
    exact (Option.some.inj read).symm
  includeGuard_alone := by
    rintro m other rfl same
    rw [includeGuard_eq, includeGuard_eq, String.append_right_inj] at same
    apply digits_injective
    rw [← digitsIn_capitals, ← digitsIn_capitals, same]

example : (parse? "D2B2B828-0826-48A7-b3df-983c006024f0").map initializer =
    some "0xd2b2b828, 0x0826, 0x48a7, \x7b0xb3, 0xdf, 0x98, 0x3c, 0x00, 0x60, 0x24, 0xf0\x7d" := by
  rfl

end Guid

end FirmwareGlue
