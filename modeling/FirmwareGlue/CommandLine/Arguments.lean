/-!
# Reading command-line arguments

Options have a long name and may have a letter. A switch takes no value; any other option takes
one, joined to it or in the next argument, which then must not look like an option itself. Letters
of switches may be joined in one argument. After two hyphens alone everything is an operand.

Arguments are read from left to right, and the first one that decides what happens ends the
reading: a question for help or for the version, or one that is refused. An option that is given
again is refused, and so are a second operand and an empty path.
-/

namespace FirmwareGlue.CommandLine

/-- What ends the reading of arguments before they make an invocation. -/
inductive Ending where
  | help
  | version
  | refused
  deriving DecidableEq

inductive Meaning where
  | switch
  | text
  | path
  | ending (ending : Ending)
  deriving DecidableEq

structure Choice where
  letter : Option Char
  name : String
  meaning : Meaning
  deriving DecidableEq

abbrev OptionTable := List Choice

inductive Token where
  | switch (name : String)
  | option (name value : String)
  | operand (value : String)
  deriving DecidableEq

/-- What has been read, and the option that still takes its value from the next argument. -/
abbrev Pieces := List Token × Option Choice

namespace Token

def name? : Token → Option String
  | switch name => some name
  | option name _ => some name
  | operand _ => none

def isOn (tokens : List Token) (name : String) : Bool :=
  .switch name ∈ tokens

def value? (tokens : List Token) (name : String) : Option String :=
  tokens.findSome? fun
    | option other value => if other = name then some value else none
    | _ => none

def operand? (tokens : List Token) : Option String :=
  tokens.findSome? fun
    | operand value => some value
    | _ => none

/-- Adds a token that says what no other has said: each option is given once, and there is one
operand. -/
def add (given : List Token) (token : Token) : Except Ending (List Token) :=
  if token.name? ∈ given.map name? then .error .refused else .ok (given ++ [token])

def addOperand (given : List Token) (value : String) : Except Ending (List Token) :=
  if value = "" then .error .refused else add given (.operand value)

def addValue (given : List Token) (choice : Choice) (value : String) :
    Except Ending (List Token) :=
  if choice.meaning = .path ∧ value = "" then .error .refused
  else add given (.option choice.name value)

end Token

namespace OptionTable

open Token

def readLetters (t : OptionTable) (given : List Token) : List Char → Except Ending Pieces
  | [] => .ok (given, none)
  | letter :: rest =>
    match t.find? (·.letter = some letter) with
    | none => .error .refused
    | some choice =>
      match choice.meaning, rest with
      | .ending ending, _ => .error ending
      | .switch, rest => do readLetters t (← add given (.switch choice.name)) rest
      | _, [] => .ok (given, some choice)
      | _, '=' :: value => do .ok (← addValue given choice (String.ofList value), none)
      | _, value => do .ok (← addValue given choice (String.ofList value), none)

/-- Reads what follows two hyphens: a name, and a value after an equals sign if there is one. -/
def readLong (t : OptionTable) (given : List Token) (text : List Char) : Except Ending Pieces :=
  match t.find? (·.name.toList = text.takeWhile (· ≠ '=')) with
  | none => .error .refused
  | some choice =>
    match choice.meaning, text.dropWhile (· ≠ '=') with
    | .ending ending, [] => .error ending
    | .switch, [] => do .ok (← add given (.switch choice.name), none)
    | .ending _, _ | .switch, _ => .error .refused
    | _, [] => .ok (given, some choice)
    | _, _ :: value => do .ok (← addValue given choice (String.ofList value), none)

/-- Whether an argument looks like an option: a hyphen, and something after it. -/
def looksLikeOption (argument : String) : Bool :=
  match argument.toList with
  | '-' :: _ :: _ => true
  | _ => false

def readOption (t : OptionTable) (given : List Token) (argument : String) :
    Except Ending Pieces :=
  match argument.toList with
  | '-' :: '-' :: text => readLong t given text
  | '-' :: letters => readLetters t given letters
  | _ => .error .refused

def scan (t : OptionTable) (given : List Token) : List String → Except Ending (List Token)
  | [] => .ok given
  | argument :: rest =>
    if argument = "--" then rest.foldlM addOperand given
    else if looksLikeOption argument then
      match readOption t given argument, rest with
      | .error ending, _ => .error ending
      | .ok (given, none), rest => scan t given rest
      | .ok (_, some _), [] => .error .refused
      | .ok (given, some choice), value :: rest =>
        if looksLikeOption value then .error .refused
        else match addValue given choice value with
          | .error ending => .error ending
          | .ok given => scan t given rest
    else match addOperand given argument with
      | .error ending => .error ending
      | .ok given => scan t given rest

/-- Reads arguments up to the first operand: the options before it, the operand, and the arguments
after it. Options that take values cannot stand there, and there has to be an operand. -/
def scanToOperand (t : OptionTable) (given : List Token) :
    List String → Except Ending (List Token × String × List String)
  | [] => .error .refused
  | argument :: rest =>
    if argument = "--" then .error .refused
    else if looksLikeOption argument then
      match readOption t given argument with
      | .ok (given, none) => scanToOperand t given rest
      | .ok (_, some _) => .error .refused
      | .error ending => .error ending
    else .ok (given, argument, rest)

end OptionTable

end FirmwareGlue.CommandLine
