import WindowActions.Pattern.Class
import WindowActions.Pattern.Tree

/-!
# Reading patterns

A pattern is read from left to right. Groups whose end has not been read yet wait on a stack with
what stands in front of them. There is no tree if a group or class is not closed, if a repetition
has nothing to repeat, if an escape, a flag or a kind of group is not known, or if two groups have
one name.
-/

namespace WindowActions

/-- A group, or the whole pattern, whose end has not been read yet. -/
structure OpenGroup where
  /-- The number of the group, if it counts. -/
  capture : Option Nat := none
  /-- The flags at the end of what has been read. -/
  flags : PatternFlags := {}
  /-- The alternatives that are complete, the last one first. -/
  alternatives : List PatternTree := []
  /-- What has been read of the next alternative, the last part first. -/
  parts : List PatternTree := []

namespace OpenGroup

/-- Adds a part to the alternative that is read. -/
def push (g : OpenGroup) (t : PatternTree) : OpenGroup := { g with parts := t :: g.parts }

def alternative (g : OpenGroup) : PatternTree := .concat g.parts.reverse

def next (g : OpenGroup) : OpenGroup :=
  { g with alternatives := g.alternative :: g.alternatives, parts := [] }

def content (g : OpenGroup) : PatternTree :=
  match g.alternatives with
  | [] => g.alternative
  | alternatives => .alternation (g.alternative :: alternatives).reverse

def finish (g : OpenGroup) : PatternTree :=
  match g.capture with
  | some index => .capture index g.content
  | none => .group g.content

/-- Repeats the last part, if there is one that can be repeated. -/
def repeatLast (g : OpenGroup) (least : Nat) (most : Option Nat) (mark : Bool) :
    Option OpenGroup :=
  match g.parts with
  | t :: ts =>
    if t.isOperand then
      some { g with parts := .repetition t least most (mark == g.flags.fewFirst) :: ts }
    else none
  | [] => none

end OpenGroup

structure PatternReader where
  current : OpenGroup := {}
  /-- The groups around the current one, the innermost one first. -/
  around : List OpenGroup := []
  names : List String := []
  /-- How many groups that count have begun. -/
  captures : Nat := 0

/-- What an opening parenthesis begins. -/
inductive GroupStart where
  | group (flags : PatternFlags)
  /-- A group that counts, and perhaps has a name. -/
  | capture (name : Option String)
  /-- Flags for the rest of the group around. -/
  | setFlags (flags : PatternFlags)

namespace PatternFlags

/-- Switches a flag by its letter. Patterns always mean characters, so that flag cannot be
switched off. -/
def switch? (flags : PatternFlags) (on : Bool) : Char → Option PatternFlags
  | 'i' => some { flags with caseless := on }
  | 'm' => some { flags with multiLine := on }
  | 's' => some { flags with dotAll := on }
  | 'R' => some { flags with carriageReturns := on }
  | 'x' => some { flags with spaced := on }
  | 'U' => some { flags with fewFirst := on }
  | 'u' => if on then some flags else none
  | _ => none

/-- Reads flags up to a colon or a closing parenthesis, which is given back too. No flag stands
twice; behind a hyphen, of which there is at most one, flags are switched off. -/
def readFlags (flags : PatternFlags) (seen : List Char) :
    List Char → Option (PatternFlags × List Char × Char × List Char)
  | [] => none
  | c :: cs =>
    if c = ':' ∨ c = ')' then
      if seen.head? = some '-' then none else some (flags, seen, c, cs)
    else if c ∈ seen then none
    else if c = '-' then readFlags flags ('-' :: seen) cs
    else (flags.switch? (!seen.contains '-') c).bind fun flags => readFlags flags (c :: seen) cs

/-- Whether a character can be part of the name of a group. -/
def isGroupNameChar (first : Bool) (c : Char) : Bool :=
  c == '_' || isAlphabetic c ||
    (!first && (c == '.' || c == '[' || c == ']' || isDecimalDigit c || isOtherNumber c))

/-- Reads the name of a group up to its closing angle bracket. -/
def readGroupName (cs : List Char) : Option (String × List Char) :=
  match cs.takeWhile (· != '>'), cs.dropWhile (· != '>') with
  | c :: name, _ :: rest =>
    if isGroupNameChar true c && name.all (isGroupNameChar false) then
      some (String.ofList (c :: name), rest)
    else none
  | _, _ => none

/-- Reads what an opening parenthesis begins, from behind it. Conditions on what stands around a
stretch are not known. -/
def readGroupStart (flags : PatternFlags) (cs : List Char) : Option (GroupStart × List Char) :=
  match flags.skip cs with
  | '?' :: '=' :: _ | '?' :: '!' :: _ | '?' :: '<' :: '=' :: _ | '?' :: '<' :: '!' :: _ => none
  | '?' :: 'P' :: '<' :: cs | '?' :: '<' :: cs =>
    (readGroupName cs).map fun (name, rest) => (.capture (some name), rest)
  | '?' :: cs =>
    match readFlags flags [] cs with
    | some (flags, seen, close, rest) =>
      if close = ':' then some (.group flags, rest)
      else if seen.isEmpty then none
      else some (.setFlags flags, rest)
    | none => none
  | cs => some (.capture none, cs)

def readCount (flags : PatternFlags) (cs : List Char) : Option Nat × List Char :=
  let cs := cs.dropWhile isBlank
  let digits := cs.takeWhile isAsciiDigit
  let rest := flags.skip ((cs.drop digits.length).dropWhile isBlank)
  let value := decimalValue digits
  (if digits.isEmpty ∨ UInt32.size ≤ value then none else some value, rest)

/-- Reads the bounds of a repetition from behind the opening brace to behind the closing one. -/
def readBounds (flags : PatternFlags) (cs : List Char) :
    Option ((Nat × Option Nat) × List Char) := do
  let (least, behind) := readCount flags (flags.skip cs)
  let least ← least
  match behind with
  | '}' :: rest => some ((least, some least), rest)
  | ',' :: behind =>
    match flags.skip behind with
    | '}' :: rest => some ((least, none), rest)
    | cs =>
      match readCount flags cs with
      | (some most, '}' :: rest) => if least ≤ most then some ((least, some most), rest) else none
      | _ => none
  | _ => none

/-- Takes a question mark behind a repetition, and tells whether there is one. -/
def takeMark : List Char → Bool × List Char
  | '?' :: cs => (true, cs)
  | cs => (false, cs)

end PatternFlags

namespace PatternReader

def withCurrent (r : PatternReader) (f : OpenGroup → OpenGroup) : PatternReader :=
  { r with current := f r.current }

def push (r : PatternReader) (t : PatternTree) : PatternReader := r.withCurrent (·.push t)

/-- Repeats the last part of the current group. A question mark can stand in front of the rest of
the text. -/
def repeatLast (r : PatternReader) (least : Nat) (most : Option Nat) (cs : List Char) :
    Option (PatternReader × List Char) :=
  let (mark, rest) := PatternFlags.takeMark cs
  (r.current.repeatLast least most mark).map fun current => ({ r with current }, rest)

def start (r : PatternReader) : GroupStart → Option PatternReader
  | .setFlags flags => some (r.withCurrent fun g => { g.push .flags with flags })
  | .group flags => some { r with current := { flags }, around := r.current :: r.around }
  | .capture name =>
    if name.any (r.names.contains ·) then none
    else some {
      current := { capture := some r.captures, flags := r.current.flags }
      around := r.current :: r.around
      names := name.toList ++ r.names
      captures := r.captures + 1 }

/-- Ends the current group, if it is not the whole pattern. -/
def close (r : PatternReader) : Option PatternReader :=
  match r.around with
  | [] => none
  | outer :: around => some { r with current := outer.push r.current.finish, around }

def atomTree (flags : PatternFlags) : PatternAtom → PatternTree
  | .char c => .set (flags.charSet c) 0
  | .set s => .set s 0
  | .assertion a => .assertion a

/-- Reads what begins with the character `c`. -/
def step (r : PatternReader) (c : Char) (cs : List Char) : Option (PatternReader × List Char) :=
  let flags := r.current.flags
  match c with
  | '(' => do
    let (start, rest) ← flags.readGroupStart cs
    return (← r.start start, rest)
  | ')' => return (← r.close, cs)
  | '|' => some (r.withCurrent (·.next), cs)
  | '[' => do
    let (part, rest) ← flags.readClass cs
    return (r.push (.set part.set part.levels), rest)
  | '?' => r.repeatLast 0 (some 1) cs
  | '*' => r.repeatLast 0 none cs
  | '+' => r.repeatLast 1 none cs
  | '{' => do
    let ((least, most), rest) ← flags.readBounds cs
    r.repeatLast least most (flags.skip rest)
  | '\\' => do
    let (atom, rest) ← flags.readEscape cs
    return (r.push (atomTree flags atom), rest)
  | '.' => some (r.push (.set flags.dotSet 0), cs)
  | '^' => some (r.push (.assertion flags.startAssertion), cs)
  | '$' => some (r.push (.assertion flags.endAssertion), cs)
  | c => some (r.push (.set (flags.charSet c) 0), cs)

def read (r : PatternReader) : (fuel : Nat) → List Char → Option PatternTree
  | 0, _ => none
  | fuel + 1, cs =>
    match r.current.flags.skip cs with
    | [] => if r.around.isEmpty then some r.current.content else none
    | c :: cs =>
      match r.step c cs with
      | none => none
      | some (r, rest) => r.read fuel rest

end PatternReader

/-- The tree of the pattern that a text spells. -/
def PatternTree.ofText? (source : String) : Option PatternTree :=
  PatternReader.read {} (source.length + 1) source.toList

end WindowActions
