import WindowActions.Json.Basic
import WindowActions.Json.Number
import WindowActions.Reading

/-!
# Reading JSON

The reader is strict: four blank characters, no byte order mark, no trailing text, no control
characters or lone surrogates in strings, no number that is too large for a double, and a limit on
the nesting of containers. Readers go along a list of characters. Those of containers are built
from the reader one level further in, and on the last level there is none.
-/

namespace WindowActions

namespace Json

/-- Whether a character is blank between the parts of a JSON text. -/
def isSpace (c : Char) : Bool :=
  c == ' ' || c == '\n' || c == '\t' || c == '\r'

/-- The text without the blanks at its start. -/
def skipSpace : List Char → List Char
  | [] => []
  | c :: cs => if isSpace c then skipSpace cs else c :: cs

theorem length_skipSpace_le (cs : List Char) : (skipSpace cs).length ≤ cs.length := by
  induction cs with
  | nil => exact Nat.le_refl _
  | cons c cs ih =>
    rw [skipSpace]
    split
    · exact Nat.le_succ_of_le ih
    · exact Nat.le_refl _

abbrev CharReader (α : Type) := (cs : List Char) → Option (Reading Char α cs.length)

def hexValue? (c : Char) : Option Nat :=
  if '0' ≤ c ∧ c ≤ '9' then some (c.toNat - '0'.toNat)
  else if 'a' ≤ c ∧ c ≤ 'f' then some (c.toNat - 'a'.toNat + 10)
  else if 'A' ≤ c ∧ c ≤ 'F' then some (c.toNat - 'A'.toNat + 10)
  else none

/-- The code unit that four hexadecimal digits stand for. -/
def codeUnit? (a b c d : Char) : Option Nat := do
  return (((← hexValue? a) * 16 + (← hexValue? b)) * 16 + (← hexValue? c)) * 16 + (← hexValue? d)

/-- The character of a code unit that is no surrogate. -/
def unitChar? (code : Nat) : Option Char :=
  if code < 0xD800 ∨ 0xDFFF < code then some (Char.ofNat code) else none

/-- The character of a leading and a trailing surrogate. -/
def surrogatesChar? (leading trailing : Nat) : Option Char :=
  if 0xD800 ≤ leading ∧ leading ≤ 0xDBFF ∧ 0xDC00 ≤ trailing ∧ trailing ≤ 0xDFFF then
    some (Char.ofNat (0x10000 + (leading - 0xD800) * 0x400 + (trailing - 0xDC00)))
  else none

/-- The character that a letter behind a backslash stands for. -/
def escapeChar? : Char → Option Char
  | '"' => some '"'
  | '\\' => some '\\'
  | '/' => some '/'
  | 'b' => some '\x08'
  | 'f' => some '\x0c'
  | 'n' => some '\n'
  | 'r' => some '\r'
  | 't' => some '\t'
  | _ => none

/-- Reads the digits of a trailing surrogate from the escape that has to follow a leading one. -/
def readTrailing (leading : Nat) : CharReader Char
  | '\\' :: 'u' :: a :: b :: c :: d :: cs =>
    (codeUnit? a b c d >>= surrogatesChar? leading).map fun char =>
      ⟨char, cs, Nat.lt_add_of_pos_right (by decide : 0 < 6)⟩
  | _ => none

/-- Reads an escape from behind its backslash. -/
def readEscape : CharReader Char
  | 'u' :: a :: b :: c :: d :: cs =>
    match codeUnit? a b c d with
    | none => none
    | some code =>
      match unitChar? code with
      | some char => some ⟨char, cs, Nat.lt_add_of_pos_right (by decide : 0 < 5)⟩
      | none => (readTrailing code cs).map (·.widen (Nat.le_add_right cs.length 5))
  | c :: cs => (escapeChar? c).map fun char => ⟨char, cs, Nat.lt_succ_self _⟩
  | [] => none

def readChar : CharReader Char
  | [] => none
  | c :: cs =>
    if c = '\\' then (readEscape cs).map (·.widen (Nat.le_succ _))
    else if c.toNat < 0x20 then none
    else some ⟨c, cs, Nat.lt_succ_self _⟩

/-- Reads a string from behind its opening quote. -/
def readChars : CharReader (List Char)
  | [] => none
  | '"' :: cs => some ⟨[], cs, Nat.lt_succ_self _⟩
  | c :: cs =>
    match readChar (c :: cs) with
    | none => none
    | some char =>
      have := char.shorter
      (readChars char.rest).map fun more =>
        (more.map (char.value :: ·)).widen (Nat.le_of_lt this)
termination_by cs => cs.length
decreasing_by exact this

def readString : CharReader String
  | '"' :: cs => (readChars cs).map fun r => (r.map String.ofList).widen (Nat.le_succ _)
  | _ => none

/-- The digits at the start of a text, and the text behind them. -/
def digits (cs : List Char) : List Char × List Char :=
  (cs.takeWhile isAsciiDigit, cs.dropWhile isAsciiDigit)

/-- The digits in front of the point: not none, and no zero in front of others. -/
def wholeDigits (cs : List Char) : Option (List Char × List Char) :=
  match digits cs with
  | ([], _) => none
  | ('0' :: _ :: _, _) => none
  | (whole, rest) => some (whole, rest)

/-- The digits behind the point, if there is one: then not none. -/
def fractionDigits : List Char → Option (List Char × List Char)
  | '.' :: cs =>
    match digits cs with
    | ([], _) => none
    | (fraction, rest) => some (fraction, rest)
  | cs => some ([], cs)

/-- The power of ten behind the digits, if there is one. -/
def powerOfTen : List Char → Option (Option Int × List Char)
  | c :: cs =>
    if c = 'e' ∨ c = 'E' then
      let (negative, cs) : Bool × List Char :=
        match cs with
        | '-' :: cs => (true, cs)
        | '+' :: cs => (false, cs)
        | cs => (false, cs)
      match digits cs with
      | ([], _) => none
      | (power, rest) =>
        let power : Int := decimalValue power
        some (some (if negative then -power else power), rest)
    else some (none, c :: cs)
  | [] => some (none, [])

/-- A number behind its sign, and the text behind it. Only a number without a point and a power of
ten is kept as an integer, and minus zero is not. -/
def number (negative : Bool) (cs : List Char) : Option (Json × List Char) := do
  let (whole, behindWhole) ← wholeDigits cs
  let (fraction, behindFraction) ← fractionDigits behindWhole
  let (power, rest) ← powerOfTen behindFraction
  let literal := (if negative then ['-'] else []) ++ cs.take (cs.length - rest.length)
  let real := some (Json.real (String.ofList literal), rest)
  if fraction.isEmpty ∧ power.isNone then
    let value := decimalValue whole
    if value < wordLimit then
      if negative ∧ value = 0 then real
      else some (.integer (if negative then -value else value), rest)
    else if tooLarge whole [] 0 then none
    else real
  else if tooLarge whole fraction (power.getD 0) then none
  else real

def readNumber : CharReader Json := fun cs =>
  let result :=
    match cs with
    | '-' :: cs => number true cs
    | cs => number false cs
  match result with
  | some (value, rest) => if h : rest.length < cs.length then some ⟨value, rest, h⟩ else none
  | none => none

def readLiteral (word : List Char) (value : Json) : CharReader Json := fun cs =>
  if word.isPrefixOf cs then
    if h : (cs.drop word.length).length < cs.length then some ⟨value, cs.drop word.length, h⟩
    else none
  else none

def readMark (mark : Char) : CharReader Unit := fun cs =>
  match h : skipSpace cs with
  | [] => none
  | c :: rest =>
    if c = mark then
      some ⟨(), rest, by
        have := length_skipSpace_le cs
        rw [h] at this
        exact this⟩
    else none

/-- Reads the items of an array behind the first one, and the closing bracket. -/
def readItems (readOne : CharReader Json) : CharReader (List Json) := fun cs =>
  match readMark ']' cs with
  | some close => some (close.map fun _ => [])
  | none =>
    match readMark ',' cs with
    | none => none
    | some comma =>
      match readOne comma.rest with
      | none => none
      | some item =>
        have : item.rest.length < cs.length := Nat.lt_trans item.shorter comma.shorter
        (readItems readOne item.rest).map fun more =>
          (more.map (item.value :: ·)).widen (Nat.le_of_lt this)
termination_by cs => cs.length

def readField (readOne : CharReader Json) : CharReader (String × Json) := fun cs => do
  let name ← readString (skipSpace cs)
  let colon ← readMark ':' name.rest
  let value ← readOne colon.rest
  return ⟨(name.value, value.value), value.rest, by
    have := length_skipSpace_le cs
    have := name.shorter
    have := colon.shorter
    have := value.shorter
    omega⟩

/-- Reads the fields of an object behind the first one, and the closing brace. -/
def readFields (readOne : CharReader Json) : CharReader (List (String × Json)) := fun cs =>
  match readMark '}' cs with
  | some close => some (close.map fun _ => [])
  | none =>
    match readMark ',' cs with
    | none => none
    | some comma =>
      match readField readOne comma.rest with
      | none => none
      | some field =>
        have : field.rest.length < cs.length := Nat.lt_trans field.shorter comma.shorter
        (readFields readOne field.rest).map fun more =>
          (more.map (field.value :: ·)).widen (Nat.le_of_lt this)
termination_by cs => cs.length

/-- Reads an array from behind its opening bracket. -/
def readArray (readOne : CharReader Json) : CharReader (List Json) := fun cs =>
  match readMark ']' cs with
  | some close => some (close.map fun _ => [])
  | none => do
    let item ← readOne cs
    let more ← readItems readOne item.rest
    return (more.map (item.value :: ·)).widen (Nat.le_of_lt item.shorter)

/-- Reads an object from behind its opening brace. -/
def readObject (readOne : CharReader Json) : CharReader (List (String × Json)) := fun cs =>
  match readMark '}' cs with
  | some close => some (close.map fun _ => [])
  | none => do
    let field ← readField readOne cs
    let more ← readFields readOne field.rest
    return (more.map (field.value :: ·)).widen (Nat.le_of_lt field.shorter)

/-- Reads a value without blanks in front of it. -/
def readBare (deeper : Option (CharReader Json)) : CharReader Json
  | '[' :: cs => do
    let items ← readArray (← deeper) cs
    return (items.map .array).widen (Nat.le_succ _)
  | '{' :: cs => do
    let fields ← readObject (← deeper) cs
    return (fields.map .object).widen (Nat.le_succ _)
  | '"' :: cs => (readString ('"' :: cs)).map (·.map .string)
  | 't' :: cs => readLiteral ['t', 'r', 'u', 'e'] (.bool true) ('t' :: cs)
  | 'f' :: cs => readLiteral ['f', 'a', 'l', 's', 'e'] (.bool false) ('f' :: cs)
  | 'n' :: cs => readLiteral ['n', 'u', 'l', 'l'] .null ('n' :: cs)
  | cs => readNumber cs

def readValueWith (deeper : Option (CharReader Json)) : CharReader Json := fun cs =>
  (readBare deeper (skipSpace cs)).map (·.widen (length_skipSpace_le cs))

/-- Reads a value that may hold `levels` levels of containers. -/
def readValue : Nat → CharReader Json
  | 0 => readValueWith none
  | levels + 1 => readValueWith (some (readValue levels))

/-- How many containers may stand inside one another. -/
def maxNesting : Nat := 127

def parse? (text : String) : Option Json :=
  match readValue maxNesting text.toList with
  | none => none
  | some r => if (skipSpace r.rest).isEmpty then some r.value else none

end Json

end WindowActions
