import FirmwareGlue.Guid
import Mathlib.Data.List.Basic

/-!
# Reading the text of a GUID

The reader drops the hyphens of a text, reads the digits that are left and puts each two of them
together to a byte; the printer does the opposite. A text with hyphens at their places is determined
by its other characters, so the accepted texts of a GUID are the printed text in either case, and
nothing else.
-/

namespace FirmwareGlue

theorem map_eq_self {α : Type} {f : α → α} {l : List α} (fixed : ∀ a ∈ l, f a = a) :
    l.map f = l :=
  (List.map_congr_left fixed).trans (List.map_id l)

namespace Hexadecimal

variable {c : Char} {n : Nat} {values : List Nat}

/-- What is true of the characters of ASCII, one by one, is true of each of them. -/
theorem forall_ascii {P : Char → Prop} (table : ∀ code < 128, P (Char.ofNat code)) (c : Char)
    (ascii : c.toNat < 128) : P c := by
  have entry := table c.toNat ascii
  rwa [Char.ofNat_toNat] at entry

/-- Only a capital letter of ASCII has another lower case. -/
theorem toLower_of_not_ascii (beyond : ¬c.toNat < 128) : c.toLower = c := by
  refine dif_neg ?_
  rintro ⟨-, above⟩
  have code : c.toNat = c.val.toNat := rfl
  have bound : 'Z'.val.toNat = 90 := rfl
  rw [UInt32.le_iff_toNat_le] at above
  omega

theorem toLower_eq_hyphen_iff : c.toLower = '-' ↔ c = '-' := by
  by_cases ascii : c.toNat < 128
  · exact forall_ascii (P := fun c => c.toLower = '-' ↔ c = '-') (by decide) c ascii
  · rw [toLower_of_not_ascii ascii]

theorem value?_toLower (c : Char) : value? c.toLower = value? c := by
  by_cases ascii : c.toNat < 128
  · exact forall_ascii (P := fun c => value? c.toLower = value? c) (by decide) c ascii
  · rw [toLower_of_not_ascii ascii]

theorem ascii_of_value? (h : value? c = some n) : c.toNat < 128 := by
  simp only [value?, Char.le_def, UInt32.le_iff_toNat_le] at h
  have code : c.toNat = c.val.toNat := rfl
  have bounds : '9'.val.toNat = 57 ∧ 'f'.val.toNat = 102 ∧ 'F'.val.toNat = 70 := ⟨rfl, rfl, rfl⟩
  grind

/-- A digit is read as the value that is printed as the same digit in lower case. -/
theorem digit_of_value? (h : value? c = some n) : n < 16 ∧ digit n = c.toLower := by
  have read := forall_ascii
    (P := fun c => (value? c).all fun n => n < 16 ∧ digit n = c.toLower) (by decide) c
    (ascii_of_value? h)
  simpa [h] using read

/-- The sixteen digits, in lower case. -/
def alphabet : List Char :=
  ['0', '1', '2', '3', '4', '5', '6', '7', '8', '9', 'a', 'b', 'c', 'd', 'e', 'f']

theorem digit_mem_alphabet (small : n < 16) : digit n ∈ alphabet := by
  revert n
  decide

theorem forall_alphabet {P : Char → Prop} [DecidablePred P]
    (table : (alphabet.all fun c => P c) = true) : ∀ c ∈ alphabet, P c := by
  simpa only [List.all_eq_true, decide_eq_true_eq] using table

theorem toLower_of_mem_alphabet : ∀ c ∈ alphabet, c.toLower = c :=
  forall_alphabet (by decide)

theorem ne_hyphen_of_mem_alphabet : ∀ c ∈ alphabet, c ≠ '-' :=
  forall_alphabet (by decide)

theorem length_of_mapM_value? {cs : List Char} (h : cs.mapM value? = some values) :
    values.length = cs.length := by
  induction cs generalizing values with
  | nil => simp_all
  | cons c cs ih =>
      simp only [List.mapM_cons, Option.bind_eq_bind, Option.bind_eq_some_iff, Option.pure_def,
        Option.some.injEq] at h
      obtain ⟨n, -, rest, read, rfl⟩ := h
      rw [List.length_cons, List.length_cons, ih read]

theorem digits_of_mapM_value? {cs : List Char} (h : cs.mapM value? = some values) :
    (∀ n ∈ values, n < 16) ∧ values.map digit = cs.map Char.toLower := by
  induction cs generalizing values with
  | nil => simp_all
  | cons c cs ih =>
      simp only [List.mapM_cons, Option.bind_eq_bind, Option.bind_eq_some_iff, Option.pure_def,
        Option.some.injEq] at h
      obtain ⟨n, digit_read, rest, read, rfl⟩ := h
      obtain ⟨small, printed⟩ := digit_of_value? digit_read
      obtain ⟨all_small, all_printed⟩ := ih read
      exact ⟨List.forall_mem_cons.2 ⟨small, all_small⟩, by
        rw [List.map_cons, List.map_cons, printed, all_printed]⟩

theorem mapM_value?_digits (small : ∀ n ∈ values, n < 16) :
    (values.map digit).mapM value? = some values := by
  induction values with
  | nil => rfl
  | cons n values ih =>
      rw [List.forall_mem_cons] at small
      simp [value?_digit small.1, ih small.2]

end Hexadecimal

namespace Guid

open Hexadecimal (value? digit alphabet)

variable {bytes other : List UInt8} {values : List Nat}

/-! ### The digits of bytes -/

/-- The values of the two digits of a byte. -/
def halves (b : UInt8) : List Nat := [b.toNat / 16, b.toNat % 16]

theorem byteDigits_eq (b : UInt8) : byteDigits b = (halves b).map digit := by
  have below := b.toNat_lt
  simp [byteDigits, halves, Hexadecimal.digits, Nat.mod_eq_of_lt (show b.toNat / 16 < 16 by omega)]

theorem halves_small (b : UInt8) : ∀ n ∈ halves b, n < 16 := by
  have below := b.toNat_lt
  simp only [halves, List.forall_mem_cons, List.not_mem_nil, false_implies, implies_true, and_true]
  omega

theorem groupDigits_append (bytes other : List UInt8) :
    groupDigits (bytes ++ other) = groupDigits bytes ++ groupDigits other :=
  List.flatMap_append

theorem groupDigits_eq (bytes : List UInt8) :
    groupDigits bytes = (bytes.flatMap halves).map digit := by
  rw [groupDigits, funext byteDigits_eq, List.map_flatMap]

theorem length_groupDigits (bytes : List UInt8) :
    (groupDigits bytes).length = 2 * bytes.length := by
  induction bytes with
  | nil => rfl
  | cons b bytes ih =>
      rw [groupDigits, List.flatMap_cons, List.length_append, ← groupDigits, ih, byteDigits,
        Hexadecimal.length_digits, List.length_cons]
      omega

theorem flatMap_halves_small : ∀ n ∈ bytes.flatMap halves, n < 16 := by
  intro n member
  obtain ⟨b, -, half⟩ := List.mem_flatMap.1 member
  exact halves_small b n half

theorem mem_alphabet_of_mem_groupDigits : ∀ c ∈ groupDigits bytes, c ∈ alphabet := by
  intro c member
  rw [groupDigits_eq, List.mem_map] at member
  obtain ⟨n, half, rfl⟩ := member
  exact Hexadecimal.digit_mem_alphabet (flatMap_halves_small n half)

theorem map_toLower_groupDigits (bytes : List UInt8) :
    (groupDigits bytes).map Char.toLower = groupDigits bytes :=
  map_eq_self fun c member =>
    Hexadecimal.toLower_of_mem_alphabet c (mem_alphabet_of_mem_groupDigits c member)

/-! ### Reading digits -/

theorem pairUp_halves (bytes : List UInt8) : pairUp (bytes.flatMap halves) = bytes := by
  induction bytes with
  | nil => rfl
  | cons b bytes ih =>
      rw [List.flatMap_cons, halves, List.cons_append, List.cons_append, List.nil_append, pairUp,
        ih, Nat.div_add_mod, UInt8.ofNat_toNat]

/-- Bytes that are put together from digits show the same digits, when none is left over. -/
theorem groupDigits_pairUp (small : ∀ n ∈ values, n < 16)
    (whole : values.length = 2 * (pairUp values).length) :
    groupDigits (pairUp values) = values.map digit := by
  fun_induction pairUp values with
  | case1 high low rest ih =>
      simp only [List.forall_mem_cons, List.length_cons] at small whole
      have halved : halves (UInt8.ofNat (16 * high + low)) = [high, low] := by
        rw [halves, UInt8.toNat_ofNat_of_lt' (by simp [UInt8.size]; omega)]
        simp only [List.cons.injEq, and_true]
        omega
      rw [groupDigits_eq, List.flatMap_cons, halved, List.map_append, ← groupDigits_eq,
        ih small.2.2 (by omega)]
      rfl
  | case2 values leftover => rw [List.length_eq_zero_iff.1 whole]; rfl

/-- The digits that are read as some bytes are those that show the bytes, in either case. -/
theorem read_iff {cs : List Char} :
    (∃ values, cs.mapM value? = some values ∧ pairUp values = bytes) ∧
        cs.length = 2 * bytes.length ↔
      cs.map Char.toLower = groupDigits bytes := by
  constructor
  · rintro ⟨⟨values, read, rfl⟩, whole⟩
    obtain ⟨small, printed⟩ := Hexadecimal.digits_of_mapM_value? read
    rw [← Hexadecimal.length_of_mapM_value? read] at whole
    rw [← printed, groupDigits_pairUp small whole]
  · intro shown
    have read : cs.mapM value? = some (bytes.flatMap halves) :=
      calc cs.mapM value? = (cs.map Char.toLower).mapM value? := by
            rw [List.mapM_map, Function.comp_def, funext Hexadecimal.value?_toLower]
        _ = (groupDigits bytes).mapM value? := by rw [shown]
        _ = some (bytes.flatMap halves) := by
            rw [groupDigits_eq, Hexadecimal.mapM_value?_digits flatMap_halves_small]
    have whole := congrArg List.length shown
    rw [List.length_map, length_groupDigits] at whole
    exact ⟨⟨_, read, pairUp_halves bytes⟩, whole⟩

theorem groupDigits_injective (same : groupDigits bytes = groupDigits other) : bytes = other := by
  obtain ⟨⟨values, read, paired⟩, -⟩ := read_iff.2 ((map_toLower_groupDigits bytes).trans same)
  obtain ⟨⟨again, read', paired'⟩, -⟩ := read_iff.2 (map_toLower_groupDigits bytes)
  rw [← paired, ← paired', Option.some.inj (read.symm.trans read')]

/-! ### Hyphens and their places -/

/-- The characters of a text that do not stand at the places of hyphens, where the first one stands
at the place `start`. -/
def unhyphened (start : Nat) (cs : List Char) : List Char :=
  ((cs.zipIdx start).filter fun entry => entry.2 ∉ hyphens).map Prod.fst

/-- A text as long as that of a GUID, with hyphens at their places. -/
structure Hyphenated (cs : List Char) : Prop where
  length : cs.length = 36
  hyphen : ∀ i ∈ hyphens, cs[i]? = some '-'

/-- Five groups of characters that hyphens between them make such a text. -/
structure AreGroups (groups : List (List Char)) : Prop where
  lengths : groups.map List.length = [8, 4, 4, 4, 12]

section Hyphens

variable {start : Nat} {cs ds group rest : List Char} {pieces : List (List Char)}

theorem unhyphened_map (f : Char → Char) (start : Nat) (cs : List Char) :
    unhyphened start (cs.map f) = (unhyphened start cs).map f := by
  simp only [unhyphened, List.zipIdx_map, List.filter_map, List.map_map]
  rfl

theorem unhyphened_append (start : Nat) (cs ds : List Char) :
    unhyphened start (cs ++ ds) = unhyphened start cs ++ unhyphened (start + cs.length) ds := by
  simp only [unhyphened, List.zipIdx_append, List.filter_append, List.map_append]

theorem unhyphened_group (clear : ∀ i ∈ hyphens, i < start ∨ start + group.length ≤ i) :
    unhyphened start group = group := by
  have kept : (group.zipIdx start).filter (fun entry => entry.2 ∉ hyphens) =
      group.zipIdx start := by
    rw [List.filter_eq_self]
    rintro ⟨c, i⟩ entry
    obtain ⟨after, before, -⟩ := List.mem_zipIdx entry
    have away : i ∉ hyphens := fun place => by
      have := clear i place
      omega
    simpa using away
  rw [unhyphened, kept, List.zipIdx_map_fst]

theorem unhyphened_group_hyphen (clear : ∀ i ∈ hyphens, i < start ∨ start + group.length ≤ i)
    (place : start + group.length ∈ hyphens) :
    unhyphened start (group ++ '-' :: rest) =
      group ++ unhyphened (start + group.length + 1) rest := by
  have hyphen : unhyphened (start + group.length) ('-' :: rest) =
      unhyphened (start + group.length + 1) rest := by
    simp [unhyphened, place]
  rw [unhyphened_append, unhyphened_group clear, hyphen]

theorem AreGroups.cases (h : AreGroups pieces) : ∃ a b c d e, pieces = [a, b, c, d, e] ∧
    a.length = 8 ∧ b.length = 4 ∧ c.length = 4 ∧ d.length = 4 ∧ e.length = 12 := by
  obtain ⟨a, rest, rfl, la, h⟩ := List.map_eq_cons_iff.1 h.lengths
  obtain ⟨b, rest, rfl, lb, h⟩ := List.map_eq_cons_iff.1 h
  obtain ⟨c, rest, rfl, lc, h⟩ := List.map_eq_cons_iff.1 h
  obtain ⟨d, rest, rfl, ld, h⟩ := List.map_eq_cons_iff.1 h
  obtain ⟨e, rest, rfl, le, h⟩ := List.map_eq_cons_iff.1 h
  rw [List.map_eq_nil_iff.1 h]
  exact ⟨a, b, c, d, e, rfl, la, lb, lc, ld, le⟩

theorem joined_five (a b c d e : List Char) : ['-'].intercalate [a, b, c, d, e] =
    a ++ '-' :: (b ++ '-' :: (c ++ '-' :: (d ++ '-' :: e))) := by
  simp

theorem AreGroups.hyphenated (h : AreGroups pieces) : Hyphenated (['-'].intercalate pieces) := by
  obtain ⟨a, b, c, d, e, rfl, la, lb, lc, ld, le⟩ := h.cases
  constructor
  · simp [la, lb, lc, ld, le]
  · simp [hyphens, List.getElem?_append, la, lb, lc, ld]

theorem AreGroups.unhyphened (h : AreGroups pieces) :
    Guid.unhyphened 0 (['-'].intercalate pieces) = pieces.flatten := by
  obtain ⟨a, b, c, d, e, rfl, la, lb, lc, ld, le⟩ := h.cases
  rw [joined_five, unhyphened_group_hyphen, unhyphened_group_hyphen, unhyphened_group_hyphen,
    unhyphened_group_hyphen, unhyphened_group]
  · simp
  all_goals simp [hyphens, la, lb, lc, ld, le]

theorem split_at {c : Char} {i : Nat} (found : cs[i]? = some c) :
    ∃ before after, cs = before ++ c :: after ∧ before.length = i := by
  obtain ⟨inside, rfl⟩ := List.getElem?_eq_some_iff.1 found
  refine ⟨cs.take i, cs.drop (i + 1), ?_, by simp; omega⟩
  simp

/-- Behind a hyphen, the next one stands where it is counted from there. -/
theorem getElem?_behind {i j : Nat} (length : group.length = i) :
    (group ++ '-' :: rest)[i + 1 + j]? = rest[j]? := by
  rw [List.getElem?_append_right (by omega), length, show i + 1 + j - i = j + 1 by omega,
    List.getElem?_cons_succ]

theorem Hyphenated.exists_groups (h : Hyphenated cs) :
    ∃ pieces, AreGroups pieces ∧ cs = ['-'].intercalate pieces := by
  have first := h.hyphen 8 (by decide)
  have second := h.hyphen 13 (by decide)
  have third := h.hyphen 18 (by decide)
  have fourth := h.hyphen 23 (by decide)
  have length := h.length
  obtain ⟨a, rest, rfl, la⟩ := split_at first
  obtain ⟨b, rest, rfl, lb⟩ := split_at ((getElem?_behind (j := 4) la).symm.trans second)
  obtain ⟨c, rest, rfl, lc⟩ := split_at ((getElem?_behind (j := 4) lb).symm.trans
    ((getElem?_behind (j := 9) la).symm.trans third))
  obtain ⟨d, e, rfl, ld⟩ := split_at ((getElem?_behind (j := 4) lc).symm.trans
    ((getElem?_behind (j := 9) lb).symm.trans ((getElem?_behind (j := 14) la).symm.trans fourth)))
  simp only [List.length_append, List.length_cons] at length
  refine ⟨[a, b, c, d, e], ⟨?_⟩, (joined_five a b c d e).symm⟩
  simp only [List.map_cons, List.map_nil, List.cons.injEq, and_true]
  omega

theorem Hyphenated.length_unhyphened (h : Hyphenated cs) : (unhyphened 0 cs).length = 32 := by
  obtain ⟨pieces, groups, rfl⟩ := h.exists_groups
  obtain ⟨a, b, c, d, e, rfl, la, lb, lc, ld, le⟩ := groups.cases
  rw [groups.unhyphened]
  simp [la, lb, lc, ld, le]

/-- Between hyphens at their places, the other characters are all that a text can choose. -/
theorem Hyphenated.eq_of_unhyphened (left : Hyphenated cs) (right : Hyphenated ds)
    (same : unhyphened 0 cs = unhyphened 0 ds) : cs = ds := by
  obtain ⟨pieces, groups, rfl⟩ := left.exists_groups
  obtain ⟨others, groups', rfl⟩ := right.exists_groups
  rw [groups.unhyphened, groups'.unhyphened] at same
  rw [List.eq_iff_flatten_eq.2 ⟨same, groups.lengths.trans groups'.lengths.symm⟩]

theorem hyphenated_map_toLower : Hyphenated (cs.map Char.toLower) ↔ Hyphenated cs := by
  have hyphen (i : Nat) : (cs.map Char.toLower)[i]? = some '-' ↔ cs[i]? = some '-' := by
    simp [Hexadecimal.toLower_eq_hyphen_iff]
  constructor
  · exact fun h => ⟨by simpa using h.length, fun i place => (hyphen i).1 (h.hyphen i place)⟩
  · exact fun h => ⟨by simpa using h.length, fun i place => (hyphen i).2 (h.hyphen i place)⟩

end Hyphens

/-! ### The accepted texts -/

section Texts

variable {g : Guid} {s : String}

/-- The digits of a GUID, in the order in which every spelling shows them. -/
def digits (g : Guid) : List Char := groupDigits (turnFields g.bytes).toList

def groups (g : Guid) : List (List Char) :=
  let shown := (turnFields g.bytes).toList
  [groupDigits (shown.take 4), groupDigits ((shown.drop 4).take 2),
    groupDigits ((shown.drop 6).take 2), groupDigits ((shown.drop 8).take 2),
    groupDigits (shown.drop 10)]

theorem toList_text (g : Guid) : g.text.toList = ['-'].intercalate g.groups :=
  String.toList_ofList

theorem areGroups (g : Guid) : AreGroups g.groups := by
  constructor
  simp [groups, length_groupDigits]

theorem flatten_groups (g : Guid) : g.groups.flatten = g.digits := by
  simp only [groups, List.flatten_cons, List.flatten_nil, List.append_nil, ← groupDigits_append,
    digits]
  rfl

theorem digits_eq_unhyphened (g : Guid) : unhyphened 0 g.text.toList = g.digits := by
  rw [toList_text, g.areGroups.unhyphened, flatten_groups]

theorem length_digits (g : Guid) : g.digits.length = 32 := by
  rw [digits, length_groupDigits, Vector.length_toList]

theorem digits_injective {other : Guid} (same : g.digits = other.digits) : g = other := by
  have turned := Vector.toList_inj.1 (groupDigits_injective same)
  have bytes := congrArg turnFields turned
  rw [turnFields_turnFields, turnFields_turnFields] at bytes
  cases g
  exact congrArg Guid.mk bytes

theorem guard_bind_eq_some {p : Prop} [Decidable p] {rest : Option Guid} :
    (guard p >>= fun _ => rest) = some g ↔ p ∧ rest = some g := by
  by_cases h : p
  · have passed : guard p = some () := if_pos h
    rw [passed, and_iff_right h]
    rfl
  · have failed : guard p = (none : Option Unit) := if_neg h
    rw [failed]
    exact iff_of_false (Option.some_ne_none g).symm (mt And.left h)

/-- Sixteen bytes in another order make up the GUID that has them in this order. -/
theorem assembled_iff (order : Vector UInt8 16 → Vector UInt8 16)
    (undone : ∀ v, order (order v) = v) :
    (if h : bytes.length = 16 then some (Guid.mk (order ⟨bytes.toArray, by simpa using h⟩))
      else none) = some g ↔ bytes = (order g.bytes).toList := by
  constructor
  · intro made
    split at made
    next whole => rw [← Option.some.inj made, undone, Vector.toList_mk]
    next => exact absurd made (by simp)
  · rintro rfl
    rw [dif_pos (Vector.length_toList)]
    have same : (Vector.mk (order g.bytes).toList.toArray (by simp) : Vector UInt8 16) =
        order g.bytes := Vector.toList_inj.1 rfl
    rw [same, undone]

/-- A text is read when its hyphens are at their places and its digits are read as the bytes. -/
theorem parse?_eq_some_iff : parse? s = some g ↔ Hyphenated s.toList ∧
    ∃ values, (unhyphened 0 s.toList).mapM value? = some values ∧
      pairUp values = (turnFields g.bytes).toList := by
  have hyphenated : Hyphenated s.toList ↔ s.toList.length = 36 ∧
      (hyphens.all fun i => s.toList[i]? == some '-') = true := by
    rw [List.all_eq_true]
    simp only [beq_iff_eq]
    exact ⟨fun h => ⟨h.length, h.hyphen⟩, fun h => ⟨h.1, h.2⟩⟩
  rw [hyphenated, parse?, guard_bind_eq_some, guard_bind_eq_some, Option.bind_eq_bind,
    Option.bind_eq_some_iff, and_assoc]
  simp only [assembled_iff turnFields turnFields_turnFields]
  rfl

/-- The accepted texts of a GUID are its printed text in either case. -/
theorem parse?_iff_text : parse? s = some g ↔ s.toList.map Char.toLower = g.text.toList := by
  have printed : Hyphenated g.text.toList := by
    rw [toList_text]
    exact g.areGroups.hyphenated
  rw [parse?_eq_some_iff]
  constructor
  · rintro ⟨hyphenated, values, read, paired⟩
    have whole : (unhyphened 0 s.toList).length = 2 * (turnFields g.bytes).toList.length := by
      rw [hyphenated.length_unhyphened, Vector.length_toList]
    refine (hyphenated_map_toLower.2 hyphenated).eq_of_unhyphened printed ?_
    rw [unhyphened_map, digits_eq_unhyphened]
    exact read_iff.1 ⟨⟨values, read, paired⟩, whole⟩
  · intro same
    have digits : (unhyphened 0 s.toList).map Char.toLower = g.digits := by
      rw [← unhyphened_map, same, digits_eq_unhyphened]
    exact ⟨hyphenated_map_toLower.1 (same ▸ printed), (read_iff.2 digits).1⟩

end Texts

end Guid

end FirmwareGlue
