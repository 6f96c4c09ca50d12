/-!
# Why markup is refused

The faults of a document, by the construct in which they are found: constructs that are not
closed, tags that do not match, attributes that are not written as a key with a quoted value, and
references that name no character. Positions count bytes: those in a tag from the start of its
name, those of a reference from the start of the text or value that it stands in.
-/

namespace FirmwareGlue.Markup

/-- Why digits are no number. -/
inductive NumberFault where
  | noDigits
  | invalidDigit
  | tooLarge
  deriving DecidableEq

def NumberFault.message : NumberFault → String
  | noDigits => "cannot parse integer from empty string"
  | invalidDigit => "invalid digit found in string"
  | tooLarge => "number too large to fit in target type"

inductive Fault where
  | unclosedTag
  | invalidBang
  | unclosedComment
  | unclosedCData
  | unclosedDoctype
  | unclosedInstruction
  | missingDoctypeName
  | mismatchedEnd (expected found : String)
  | unmatchedEnd (found : String)
  | expectedEquals (position : Nat)
  | expectedValue (position : Nat)
  | unquotedValue (position : Nat)
  | expectedQuote (position : Nat) (quote : Char)
  /-- A key and the same key before it. -/
  | duplicatedKey (position earlier : Nat)
  /-- An ampersand, up to the end of the text. -/
  | unterminatedReference (position last : Nat)
  /-- A name right after an ampersand. -/
  | unknownEntity (position : Nat) (name : String)
  | unexpectedSign
  | invalidNumber (why : NumberFault)
  | illegalCharacter
  | invalidCodePoint (number : Nat)
  deriving DecidableEq

namespace Fault

def positionText (position : Nat) : String := "position " ++ toString position ++ ": "

/-- A range of bytes, without the last. -/
def rangeText (first last : Nat) : String := toString first ++ ".." ++ toString last

/-- What is wrong, without the class of the fault. -/
def detail : Fault → String
  | unclosedTag => "tag not closed: `>` not found before end of input"
  | invalidBang => "unknown or missed symbol in markup"
  | unclosedComment => "comment not closed: `-->` not found before end of input"
  | unclosedCData => "CDATA not closed: `]]>` not found before end of input"
  | unclosedDoctype => "DOCTYPE not closed: `>` not found before end of input"
  | unclosedInstruction =>
    "processing instruction or xml declaration not closed: `?>` not found before end of input"
  | missingDoctypeName =>
    "`<!DOCTYPE>` declaration does not contain a name of a document type"
  | mismatchedEnd expected found =>
    "expected `</" ++ expected ++ ">`, but `</" ++ found ++ ">` was found"
  | unmatchedEnd found => "close tag `</" ++ found ++ ">` does not match any open tag"
  | expectedEquals position =>
    positionText position ++ "attribute key must be directly followed by `=` or space"
  | expectedValue position => positionText position ++ "`=` must be followed by an attribute value"
  | unquotedValue position =>
    positionText position ++ "attribute value must be enclosed in `\"` or `'`"
  | expectedQuote position quote =>
    positionText position ++ "missing closing quote `" ++ String.singleton quote
      ++ "` in attribute value"
  | duplicatedKey position earlier =>
    positionText position ++ "duplicated attribute, previous declaration at position "
      ++ toString earlier
  | unterminatedReference position last =>
    "Error while escaping character at range " ++ rangeText position last
      ++ ": Cannot find ';' after '&'"
  | unknownEntity position name =>
    "at " ++ rangeText position (position + name.utf8ByteSize) ++ ": unrecognized entity `" ++ name
      ++ "`"
  | unexpectedSign => "unexpected number sign"
  | invalidNumber why => why.message
  | illegalCharacter => "0x0 character is not permitted in XML"
  | invalidCodePoint number => "`" ++ toString number ++ "` is not a valid codepoint"

/-- The class of a fault, as its text begins with it. -/
def classText : Fault → String
  | unclosedTag | invalidBang | unclosedComment | unclosedCData | unclosedDoctype
  | unclosedInstruction => "syntax error: "
  | missingDoctypeName | mismatchedEnd .. | unmatchedEnd _ => "ill-formed document: "
  | expectedEquals _ | expectedValue _ | unquotedValue _ | expectedQuote .. | duplicatedKey .. =>
    "error while parsing attribute: "
  | unterminatedReference .. | unknownEntity .. => ""
  | unexpectedSign | invalidNumber _ | illegalCharacter | invalidCodePoint _ =>
    "invalid character reference: "

def message (f : Fault) : String := f.classText ++ f.detail

/-- The texts of what lies behind a fault, the nearest first. What a reference by number is wrong
about lies behind the reference, and what its digits are wrong about behind that. -/
def causes (f : Fault) : List String :=
  match f with
  | invalidNumber why => [f.message, f.message, f.detail, why.message]
  | unexpectedSign | illegalCharacter | invalidCodePoint _ => [f.message, f.message, f.detail]
  | _ => [f.message, f.detail]

end Fault

end FirmwareGlue.Markup
