import FirmwareGlue.Text.ColumnRanges

/-!
# The width of a text

A text is as wide as the columns that it takes where every character has the same width. Most
characters take one column, ideographs and emoji two, marks that combine with what stands before
them none. Some characters join with others to one shape, so the width of a text is not always the
sum of theirs: a selector after a symbol asks for its picture or for its plain form, a tone of skin
or a joiner makes one emoji of several, letters and tags make flags, and some scripts have
ligatures. What a character is worth depends on what follows it, so a text is read from its end.
-/

namespace FirmwareGlue.Text

/-- What follows a character in a text, as far as the character may join with it. -/
inductive Joinable where
  | nothing
  | emoji
  | toneOfSkin
  | flagLetter
  /-- A flag, of which more than one letter has been read. -/
  | flag
  /-- An emoji after a joiner. -/
  | joinedEmoji
  /-- The mark of a keycap before a joined emoji. -/
  | joinedKeycap
  /-- The letter of a flag before a joined emoji. -/
  | joinedFlagLetter
  /-- An even number of letters of flags before a joined emoji. -/
  | evenJoinedFlag
  /-- An odd number of letters of flags before a joined emoji, more than one. -/
  | oddJoinedFlag
  /-- The tags of the flag of a region before a joined emoji, after so many letters or digits. -/
  | joinedTags (letters digits : Nat)
  | alef
  | lamed
  | joinedLamed
  | coengLetter
  | buginese
  | joinedBuginese
  | bugineseVowel
  | tifinagh
  | joinedTifinagh
  | tifinaghJoiner
  | lisuTone
  | orkhon
  | joinedOrkhon
  /-- The vowel sign E of Kirat Rai. -/
  | kiratE
  /-- The vowel sign AI of Kirat Rai, which two signs E are equivalent to. -/
  | kiratAi
  deriving DecidableEq

/-- What a selector asks for. -/
inductive Presentation where
  | emoji
  | text
  /-- The form of a quotation mark that is as wide as an ideograph. -/
  | fullwidth
  deriving DecidableEq

/-- What follows a character: what it may join with, and the selectors between the two. -/
structure Following where
  joinable : Joinable := .nothing
  selected : List Presentation := []
  deriving DecidableEq

namespace Joinable

/-- The consonants of Tifinagh. -/
def tifinaghConsonants : List (Nat × Nat) := [(0x2D31, 0x2D65), (0x2D6F, 0x2D6F)]

/-- The letters of Khmer that can be written below another letter. -/
def coengLetters : List (Nat × Nat) :=
  [(0x1780, 0x1782), (0x1784, 0x1787), (0x1789, 0x178C), (0x178E, 0x1793), (0x1795, 0x1798),
    (0x179B, 0x179D), (0x17A0, 0x17A0), (0x17A2, 0x17A2), (0x17A7, 0x17A7), (0x17AB, 0x17AC),
    (0x17AF, 0x17AF)]

/-- The letters of Arabic that join with a lam before them. -/
def alefs : List (Nat × Nat) :=
  [(0x622, 0x623), (0x625, 0x625), (0x627, 0x627), (0x671, 0x673), (0x675, 0x675),
    (0x773, 0x774), (0x870, 0x882)]

/-- The letters of Arabic that join with an alef after them. -/
def lams : List (Nat × Nat) :=
  [(0x644, 0x644), (0x6B5, 0x6B8), (0x76A, 0x76A), (0x8A6, 0x8A6), (0x8C7, 0x8C7)]

/-- The letters that flags are made of. -/
def flagLetters : List (Nat × Nat) := [(0x1F1E6, 0x1F1FF)]

/-- The tones of skin. -/
def tonesOfSkin : List (Nat × Nat) := [(0x1F3FB, 0x1F3FF)]

/-- The tags that stand for letters. -/
def tagLetters : List (Nat × Nat) := [(0xE0061, 0xE007A)]

/-- The tags that stand for digits. -/
def tagDigits : List (Nat × Nat) := [(0xE0030, 0xE0039)]

/-- The tag that ends a sequence of tags. -/
def lastTag : Nat := 0xE007F

/-- The flag that tags follow. -/
def blackFlag : Nat := 0x1F3F4

/-- The marks that stand anywhere in a ligature without interrupting it. -/
def transparentMarks : List (Nat × Nat) :=
  [(0x34F, 0x34F), (0x17B4, 0x17B5), (0x180B, 0x180D), (0x180F, 0x180F), (0xFE00, 0xFE0F),
    (0xE0100, 0xE01EF)]

/-- What a character is for the one before it. -/
def ofChar (c : Char) : Joinable :=
  if inRanges alefs c then alef
  else if c = '\u05DC' then lamed
  else if inRanges coengLetters c then coengLetter
  else if c = '\u1A10' then buginese
  else if inRanges tifinaghConsonants c then tifinagh
  else if inRanges [(0xA4FC, 0xA4FD)] c then lisuTone
  else if c.toNat = 0x10C03 then orkhon
  else if c.toNat = 0x16D67 then kiratE
  else if c.toNat = 0x16D68 then kiratAi
  else if inRanges flagLetters c then flagLetter
  else if inRanges tonesOfSkin c then toneOfSkin
  else if inRanges emojiRanges c then emoji
  else nothing

/-- What a joiner makes of what follows it, if it joins anything. -/
def afterJoiner : Joinable → Option Joinable
  | emoji | flag | evenJoinedFlag | oddJoinedFlag | toneOfSkin => some joinedEmoji
  | lamed | joinedLamed => some joinedLamed
  | buginese | joinedBuginese => some joinedBuginese
  | tifinagh | joinedTifinagh => some joinedTifinagh
  | orkhon | joinedOrkhon => some joinedOrkhon
  | coengLetter => some coengLetter
  | bugineseVowel => some bugineseVowel
  | tifinaghJoiner => some tifinaghJoiner
  | lisuTone => some lisuTone
  | _ => none

/-- Whether this can be the end of a ligature. -/
def isLigature : Joinable → Bool
  | alef | lamed | joinedLamed | coengLetter | buginese | joinedBuginese | bugineseVowel | tifinagh
  | joinedTifinagh | tifinaghJoiner | lisuTone | orkhon | joinedOrkhon => true
  | _ => false

/-- Whether a symbol before this is part of a joined emoji, if a selector makes a picture of it. -/
def awaitsPicture : Joinable → Bool
  | joinedEmoji | joinedKeycap => true
  | _ => false

end Joinable

/-- The columns of a character by itself. -/
def columns (c : Char) : Nat :=
  if c.toNat ≤ 0xA0 then 1
  else if c.toNat = 0x17D8 then 3
  else if inRanges wideRanges c then 2
  else if inRanges zeroRanges c then 0
  else 1

namespace Following

/-- What a tag or a flag before tags adds to the width. Tags name a region by two letters or three
digits and a part of it by up to four letters more. -/
def joinedTag? (c : Char) (letters digits : Nat) : Option (Int × Joinable) :=
  if inRanges Joinable.tagLetters c ∧ letters < 6 ∧ digits = 0 then
    some (0, .joinedTags (letters + 1) 0)
  else if inRanges Joinable.tagDigits c ∧ letters ≤ 4 ∧ digits < 3 then
    some (0, .joinedTags letters (digits + 1))
  else if c.toNat = Joinable.blackFlag ∧ (digits = 3 ∨ digits = 0 ∧ 3 ≤ letters) then
    some (0, .emoji)
  else none

/-- What a character adds to the width because it joins with what follows it, and what the two are
for the character before them. -/
def joined? (c : Char) (j : Joinable) : Option (Int × Joinable) :=
  match j with
  | .alef =>
    if inRanges Joinable.lams c then some (0, .nothing)
    else if columns c = 0 && !inRanges interruptingRanges c then some (0, .alef)
    else none
  | .joinedLamed => if c = '\u05D0' then some (0, .nothing) else none
  | .coengLetter => if c = '\u17D2' then some (-1, .nothing) else none
  | .joinedBuginese => if c = '\u1A17' then some (0, .bugineseVowel) else none
  | .bugineseVowel => if c = '\u1A15' then some (0, .nothing) else none
  | .tifinagh => if c = '\u2D7F' then some (1, .tifinaghJoiner) else none
  | .joinedTifinagh =>
    if c = '\u2D7F' then some (1, .tifinaghJoiner)
    else if inRanges Joinable.tifinaghConsonants c then some (0, .nothing)
    else none
  | .tifinaghJoiner =>
    if inRanges Joinable.tifinaghConsonants c then some (-1, .nothing) else none
  | .lisuTone => if inRanges [(0xA4F8, 0xA4FB)] c then some (0, .nothing) else none
  | .joinedOrkhon => if c.toNat = 0x10C32 then some (0, .nothing) else none
  | .toneOfSkin => if inRanges toneBaseRanges c then some (0, .emoji) else none
  | .flagLetter | .flag => if inRanges Joinable.flagLetters c then some (1, .flag) else none
  | .joinedEmoji =>
    if inRanges emojiRanges c then some (0, .emoji)
    else if inRanges Joinable.tonesOfSkin c then some (0, .toneOfSkin)
    else if inRanges Joinable.flagLetters c then some (1, .joinedFlagLetter)
    else if c = '\u20E3' then some (0, .joinedKeycap)
    else if c.toNat = Joinable.lastTag then some (0, .joinedTags 0 0)
    else none
  | .joinedFlagLetter | .oddJoinedFlag =>
    if inRanges Joinable.flagLetters c then some (-1, .evenJoinedFlag) else none
  | .evenJoinedFlag =>
    if inRanges Joinable.flagLetters c then some (3, .oddJoinedFlag) else none
  | .joinedTags letters digits => joinedTag? c letters digits
  | .kiratE =>
    if c.toNat = 0x16D67 then some (0, .kiratAi)
    else if c.toNat = 0x16D68 then some (1, .kiratE)
    else if c.toNat = 0x16D63 ∨ c.toNat = 0x16D69 then some (0, .nothing)
    else none
  | .kiratAi => if c.toNat = 0x16D63 then some (0, .nothing) else none
  | .nothing | .emoji | .joinedKeycap | .lamed | .buginese | .orkhon => none

/-- What a selector asks for. -/
def selector? (c : Char) : Option Presentation :=
  if c = '\uFE0F' then some .emoji
  else if c = '\uFE0E' then some .text
  else if c = '\uFE01' then some .fullwidth
  else none

/-- The quotation marks that have a wide form. -/
def quotationMarks : List Char := ['\u2018', '\u2019', '\u201C', '\u201D']

/-- A selector before what follows. It may stand in a ligature, and a joined emoji may be joined to
a picture. -/
def select (f : Following) (p : Presentation) : Following :=
  if f.joinable.isLigature || (p = .emoji && f.joinable.awaitsPicture) then
    { f with selected := p :: f.selected }
  else ⟨.nothing, [p]⟩

/-- What follows if there is no picture of the character before it. -/
def withoutPicture (f : Following) : Following :=
  if .emoji ∉ f.selected then f
  else if f.joinable.isLigature then { f with selected := f.selected.filter (· ≠ .emoji) }
  else {}

/-- The width that a character adds that no selector after it changes, and what follows the next
one. -/
def unselected (c : Char) (j : Joinable) : Int × Following :=
  match if c = '\u200D' then j.afterJoiner else none with
  | some j => (0, ⟨j, []⟩)
  | none =>
    if j.isLigature && j ≠ .alef && inRanges Joinable.transparentMarks c then (0, ⟨j, []⟩)
    else match joined? c j with
      | some (width, j) => (width, ⟨j, []⟩)
      | none => (columns c, ⟨.ofChar c, []⟩)

/-- The width that a character adds before what follows it, and what follows the next one. -/
def step (c : Char) (f : Following) : Int × Following :=
  if .emoji ∈ f.selected ∧ inRanges emojiStyleRanges c then
    (if f.joinable.awaitsPicture then 0 else 2, ⟨.emoji, []⟩)
  else if c.toNat ≤ 0xA0 then (1, {})
  else match selector? c with
    | some p => (0, f.withoutPicture.select p)
    | none =>
      if .text ∈ f.selected ∧ inRanges textStyleRanges c then (1, {})
      else if .fullwidth ∈ f.selected ∧ c ∈ quotationMarks then (2, {})
      else unselected c f.withoutPicture.joinable

end Following

/-- The width of a text in columns, and what it is for the character before it. -/
def widthFrom : List Char → Int × Following
  | [] => (0, {})
  | c :: rest =>
    let (width, following) := widthFrom rest
    let (added, here) := following.step c
    (width + added, here)

def width (s : String) : Nat := (widthFrom s.toList).1.toNat

end FirmwareGlue.Text
