import WindowActions.Json.Read
import WindowActions.Pattern.Assertion
import WindowActions.Text.Blank
import WindowActions.Text.CaseFold

/-!
# Flags and escapes of patterns

Flags hold from where they are set to the end of the group around them. A backslash turns a letter
into a class, a condition or a control character, and any other ASCII character except the angle
brackets into itself.
-/

namespace WindowActions

/-- How a part of a pattern is to be understood. -/
structure PatternFlags where
  /-- Letters stand for all their case variants. -/
  caseless : Bool := false
  /-- The conditions for the start and the end of the text hold of lines too. -/
  multiLine : Bool := false
  dotAll : Bool := false
  /-- A carriage return in front of a line feed belongs to the end of the line. -/
  carriageReturns : Bool := false
  spaced : Bool := false
  /-- Repetitions prefer few turns, and with a question mark behind them many. -/
  fewFirst : Bool := false
deriving DecidableEq, Repr

/-- What a backslash and the characters behind it stand for. -/
inductive PatternAtom where
  | char (c : Char)
  | set (set : CharSet)
  | assertion (assertion : Assertion)

namespace PatternFlags

/-- The text without a comment and the blanks at its start. -/
def skipSpaced : (inComment : Bool) → List Char → List Char
  | _, [] => []
  | true, c :: cs => skipSpaced (c != '\n') cs
  | false, c :: cs =>
    if isBlank c then skipSpaced false cs else if c = '#' then skipSpaced true cs else c :: cs

/-- The text without what means nothing at its start. -/
def skip (flags : PatternFlags) (cs : List Char) : List Char :=
  if flags.spaced then skipSpaced false cs else cs

/-- A set of characters, with their case variants if case does not matter. -/
def cased (flags : PatternFlags) (s : CharSet) : CharSet :=
  if flags.caseless then s.withVariants else s

/-- The set that a character stands for. -/
def charSet (flags : PatternFlags) (c : Char) : CharSet := flags.cased (.single c)

def dotSet (flags : PatternFlags) : CharSet :=
  if flags.dotAll then CharSet.nothing.complement
  else if flags.carriageReturns then (CharSet.ofRanges [(0x0A, 0x0A), (0x0D, 0x0D)]).complement
  else (CharSet.single '\n').complement

/-- The condition that a circumflex stands for. -/
def startAssertion (flags : PatternFlags) : Assertion :=
  if flags.multiLine then (if flags.carriageReturns then .anyLineStart else .lineStart)
  else .textStart

/-- The condition that a dollar sign stands for. -/
def endAssertion (flags : PatternFlags) : Assertion :=
  if flags.multiLine then (if flags.carriageReturns then .anyLineEnd else .lineEnd) else .textEnd

/-- The character with a number, if there is one. -/
def charOfCode? (code : Nat) : Option Char :=
  if code < 0xD800 ∨ (0xDFFF < code ∧ code < 0x110000) then some (Char.ofNat code) else none

/-- Reads a given number of hexadecimal digits. -/
def readHexDigits (flags : PatternFlags) (value : Nat) :
    (count : Nat) → List Char → Option (Nat × List Char)
  | 0, cs => some (value, cs)
  | _ + 1, [] => none
  | count + 1, c :: cs => do
    let digit ← Json.hexValue? c
    readHexDigits flags (value * 16 + digit) count (flags.skip cs)

/-- Reads hexadecimal digits, at least one, up to a closing brace. -/
def readHexBraced (flags : PatternFlags) (value : Option Nat) :
    (fuel : Nat) → List Char → Option (Nat × List Char)
  | 0, _ | _, [] => none
  | fuel + 1, c :: cs =>
    if c = '}' then value.map fun value => (value, flags.skip cs)
    else do
      let digit ← Json.hexValue? c
      readHexBraced flags (some (value.getD 0 * 16 + digit)) fuel (flags.skip cs)

/-- Reads the number of a character, of `count` digits or in braces. -/
def readCode (flags : PatternFlags) (count : Nat) (cs : List Char) :
    Option (PatternAtom × List Char) := do
  let (code, rest) ←
    match flags.skip cs with
    | '{' :: cs => readHexBraced flags none (cs.length + 1) (flags.skip cs)
    | cs => readHexDigits flags 0 count cs
  let c ← charOfCode? code
  return (.char c, rest)

/-- Whether a character can be part of the name of a word condition. -/
def isConditionNameChar (c : Char) : Bool := c.isAlpha || c == '-'

/-- Reads what follows `\b`: the name of a word condition in braces, or nothing. Braces around
anything else are left for the reader of repetitions. -/
def readBoundary : List Char → Option (Assertion × List Char)
  | ['{'] => none
  | '{' :: c :: cs =>
    if isConditionNameChar c then
      match (c :: cs).dropWhile isConditionNameChar with
      | '}' :: rest =>
        match String.ofList ((c :: cs).takeWhile isConditionNameChar) with
        | "start" => some (.wordStart, rest)
        | "end" => some (.wordEnd, rest)
        | "start-half" => some (.wordStartHalf, rest)
        | "end-half" => some (.wordEndHalf, rest)
        | _ => none
      | _ => none
    else some (.boundary, '{' :: c :: cs)
  | cs => some (.boundary, cs)

/-- Reads an escape from behind its backslash. There are no classes by a property. -/
def readEscape (flags : PatternFlags) : List Char → Option (PatternAtom × List Char)
  | [] => none
  | c :: cs =>
    match c with
    | 'x' => readCode flags 2 cs
    | 'u' => readCode flags 4 cs
    | 'U' => readCode flags 8 cs
    | 'd' => some (.set .digits, cs)
    | 'D' => some (.set CharSet.digits.complement, cs)
    | 's' => some (.set .blanks, cs)
    | 'S' => some (.set CharSet.blanks.complement, cs)
    | 'w' => some (.set .words, cs)
    | 'W' => some (.set CharSet.words.complement, cs)
    | 'a' => some (.char '\x07', cs)
    | 'f' => some (.char '\x0c', cs)
    | 't' => some (.char '\t', cs)
    | 'n' => some (.char '\n', cs)
    | 'r' => some (.char '\r', cs)
    | 'v' => some (.char '\x0b', cs)
    | 'A' => some (.assertion .textStart, cs)
    | 'z' => some (.assertion .textEnd, cs)
    | 'b' => (readBoundary cs).map fun (assertion, rest) => (.assertion assertion, rest)
    | 'B' => some (.assertion .noBoundary, cs)
    | '<' => some (.assertion .wordStart, cs)
    | '>' => some (.assertion .wordEnd, cs)
    | c => if c.toNat < 0x80 ∧ ¬c.isAlphanum then some (.char c, cs) else none

end PatternFlags

end WindowActions
