/-!
# Blank characters

The characters with the Unicode property `White_Space`, and what depends on them: trimming a text
and splitting it into words. The class is wider than the one of the standard library, which knows
four characters of ASCII.
-/

namespace FirmwareGlue.Text

/-- The code points with the property `White_Space`, as closed ranges. -/
def blankRanges : List (Nat × Nat) :=
  [(0x09, 0x0D), (0x20, 0x20), (0x85, 0x85), (0xA0, 0xA0), (0x1680, 0x1680), (0x2000, 0x200A),
    (0x2028, 0x2029), (0x202F, 0x202F), (0x205F, 0x205F), (0x3000, 0x3000)]

def isBlank (c : Char) : Bool :=
  blankRanges.any fun (first, last) => first ≤ c.toNat && c.toNat ≤ last

/-- A list without the elements at either end that satisfy `p`. -/
def trimBy (p : Char → Bool) (cs : List Char) : List Char :=
  ((cs.dropWhile p).reverse.dropWhile p).reverse

/-- A text without the blanks at either end. -/
def trim (s : String) : String :=
  String.ofList (trimBy isBlank s.toList)

/-- A text without the blanks at its end. -/
def trimRight (s : String) : String :=
  String.ofList (s.toList.reverse.dropWhile isBlank).reverse

/-- The pieces of a list between the elements that satisfy `p`; there is one more piece than there
are such elements. -/
def splitBy (p : Char → Bool) : List Char → List (List Char)
  | [] => [[]]
  | c :: cs => if p c then [] :: splitBy p cs else (splitBy p cs).modifyHead (c :: ·)

/-- The pieces of a text between occurrences of a character. -/
def splitAt (separator : Char) (s : String) : List String :=
  (splitBy (· == separator) s.toList).map String.ofList

/-- The words of a text: what is left of the pieces between blanks when empty ones are dropped. -/
def words (s : String) : List String :=
  ((splitBy isBlank s.toList).filter (· ≠ [])).map String.ofList

/-- Whether two texts are equal up to the case of ASCII letters. -/
def equalIgnoringCase (s t : String) : Bool :=
  s.toList.map Char.toLower == t.toList.map Char.toLower

end FirmwareGlue.Text
