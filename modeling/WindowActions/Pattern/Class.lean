import WindowActions.Pattern.Escape

/-!
# Bracketed classes of patterns

A class lists characters, ranges and other classes between brackets. `&&`, `--` and `~~` combine
what stands on their left with what stands on their right, from left to right. Directly behind the
opening bracket, hyphens and one closing bracket stand for themselves. The brackets, each operator
and each list of several items are a level of the class.
-/

namespace WindowActions

def CharSet.asciiClass? : String → Option CharSet
  | "alnum" => some (.ofRanges [(0x30, 0x39), (0x41, 0x5A), (0x61, 0x7A)])
  | "alpha" => some (.ofRanges [(0x41, 0x5A), (0x61, 0x7A)])
  | "ascii" => some (.ofRanges [(0x00, 0x7F)])
  | "blank" => some (.ofRanges [(0x09, 0x09), (0x20, 0x20)])
  | "cntrl" => some (.ofRanges [(0x00, 0x1F), (0x7F, 0x7F)])
  | "digit" => some (.ofRanges [(0x30, 0x39)])
  | "graph" => some (.ofRanges [(0x21, 0x7E)])
  | "lower" => some (.ofRanges [(0x61, 0x7A)])
  | "print" => some (.ofRanges [(0x20, 0x7E)])
  | "punct" => some (.ofRanges [(0x21, 0x2F), (0x3A, 0x40), (0x5B, 0x60), (0x7B, 0x7E)])
  | "space" => some (.ofRanges [(0x09, 0x0D), (0x20, 0x20)])
  | "upper" => some (.ofRanges [(0x41, 0x5A)])
  | "word" => some (.ofRanges [(0x30, 0x39), (0x41, 0x5A), (0x5F, 0x5F), (0x61, 0x7A)])
  | "xdigit" => some (.ofRanges [(0x30, 0x39), (0x41, 0x46), (0x61, 0x66)])
  | _ => none

inductive ClassOperator where
  | intersection | difference | symmetricDifference
deriving DecidableEq, Repr

/-- The set that an operator makes of two. -/
def ClassOperator.apply : ClassOperator → CharSet → CharSet → CharSet
  | intersection => .intersection
  | difference => .difference
  | symmetricDifference => .symmetricDifference

/-- What a class or a part of it stands for, and how many levels write it. -/
structure ClassPart where
  set : CharSet
  levels : Nat

namespace ClassPart

/-- A character, a range or the name of a class. -/
def leaf (set : CharSet) : ClassPart := ⟨set, 0⟩

/-- A list of items, which is a level of its own unless it has one item only. -/
def list (items : List ClassPart) : ClassPart where
  set := .unionAll (items.map (·.set))
  levels :=
    match items with
    | [] => 0
    | [item] => item.levels
    | items => (items.map (·.levels)).foldl max 0 + 1

/-- Two parts with an operator between them. -/
def combine (op : ClassOperator) (left right : ClassPart) : ClassPart :=
  ⟨op.apply left.set right.set, max left.levels right.levels + 1⟩

def bracketed (negated : Bool) (part : ClassPart) : ClassPart :=
  ⟨part.set.negateIf negated, part.levels + 1⟩

end ClassPart

/-- A class whose end has not been read yet. -/
structure OpenClass where
  negated : Bool
  /-- What stands on the left of the last operator. -/
  left : Option (ClassPart × ClassOperator) := none
  /-- What has been listed behind it, the last item first. -/
  items : List ClassPart := []

namespace OpenClass

def push (o : OpenClass) (item : ClassPart) : OpenClass := { o with items := item :: o.items }

/-- What has been read of the class, without its negation. -/
def sofar (o : OpenClass) : ClassPart :=
  let right := ClassPart.list o.items
  match o.left with
  | none => right
  | some (left, op) => .combine op left right

/-- Puts an operator behind what has been read. -/
def operate (o : OpenClass) (op : ClassOperator) : OpenClass :=
  { o with left := some (o.sofar, op), items := [] }

def finish (o : OpenClass) : ClassPart := o.sofar.bracketed o.negated

end OpenClass

namespace PatternFlags

variable (flags : PatternFlags)

/-- Takes at most `fuel` hyphens that stand for themselves. -/
def takeHyphens (o : OpenClass) : (fuel : Nat) → List Char → OpenClass × List Char
  | fuel + 1, '-' :: cs => takeHyphens (o.push (.leaf (flags.charSet '-'))) fuel (flags.skip cs)
  | _, cs => (o, cs)

/-- Reads the start of a class, with at most `fuel` hyphens, from behind its opening bracket. -/
def openClass (fuel : Nat) (cs : List Char) : OpenClass × List Char :=
  let (negated, cs) :=
    match flags.skip cs with
    | '^' :: cs => (true, flags.skip cs)
    | cs => (false, cs)
  match takeHyphens flags { negated } fuel cs with
  | (⟨negated, left, []⟩, ']' :: cs) =>
    (⟨negated, left, [.leaf (flags.charSet ']')]⟩, flags.skip cs)
  | opened => opened

/-- Reads a named ASCII class from behind its opening bracket, if there is one. -/
def readAsciiClass? : List Char → Option (CharSet × List Char)
  | ':' :: cs =>
    let (negated, cs) :=
      match cs with
      | '^' :: cs => (true, cs)
      | cs => (false, cs)
    match cs.dropWhile (· != ':') with
    | ':' :: ']' :: rest =>
      (CharSet.asciiClass? (String.ofList (cs.takeWhile (· != ':')))).map fun set =>
        ((flags.cased set).negateIf negated, rest)
    | _ => none
  | _ => none

/-- Reads one item of a class, which can also be the start of a range. -/
def readClassAtom : List Char → Option (PatternAtom × List Char)
  | [] => none
  | '\\' :: cs => readEscape flags cs
  | c :: cs => some (.char c, cs)

/-- Reads a character, a set or a range of a class. -/
def readClassItem (cs : List Char) : Option (CharSet × List Char) := do
  let (first, behind) ← readClassAtom flags cs
  let behind := flags.skip behind
  let single : Option (CharSet × List Char) :=
    match first with
    | .char c => some (flags.charSet c, behind)
    | .set s => some (s, behind)
    | .assertion _ => none
  match behind with
  | [] => none
  | '-' :: rest =>
    match flags.skip rest with
    | [] => none
    | ']' :: _ | '-' :: _ => single
    | cs =>
      match first, ← readClassAtom flags cs with
      | .char low, (.char high, rest) =>
        if low.toNat ≤ high.toNat then
          some (flags.cased (.ofRanges [(low.toNat, high.toNat)]), rest)
        else none
      | _, _ => none
  | _ => single

/-- Reads the rest of a class that stands in the classes `around`, the innermost one first. -/
def readClassRest (fuel : Nat) (o : OpenClass) (around : List OpenClass) (cs : List Char) :
    Option (ClassPart × List Char) :=
  match fuel with
  | 0 => none
  | fuel + 1 =>
    match flags.skip cs with
    | [] => none
    | '[' :: cs =>
      match readAsciiClass? flags cs with
      | some (item, rest) => readClassRest fuel (o.push (.leaf item)) around rest
      | none =>
        let (inner, rest) := openClass flags fuel cs
        readClassRest fuel inner (o :: around) rest
    | ']' :: cs =>
      match around with
      | [] => some (o.finish, cs)
      | outer :: around => readClassRest fuel (outer.push o.finish) around cs
    | '&' :: '&' :: cs => readClassRest fuel (o.operate .intersection) around cs
    | '-' :: '-' :: cs => readClassRest fuel (o.operate .difference) around cs
    | '~' :: '~' :: cs => readClassRest fuel (o.operate .symmetricDifference) around cs
    | cs => do
      let (item, rest) ← readClassItem flags cs
      readClassRest fuel (o.push (.leaf item)) around rest

/-- Reads a class from behind its opening bracket. -/
def readClass (cs : List Char) : Option (ClassPart × List Char) :=
  let (opened, rest) := openClass flags cs.length cs
  readClassRest flags (cs.length + 1) opened [] rest

end PatternFlags

end WindowActions
