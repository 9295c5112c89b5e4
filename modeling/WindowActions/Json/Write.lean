import WindowActions.Json.Basic
import WindowActions.Text.Quoted

/-!
# Writing JSON

There are two layouts. The compact one has no blanks at all; the indented one puts every item and
field on a line of its own, two blanks further in than its container, and writes empty containers
as `[]` and `{}`. Both escape the quote, the backslash and the control characters of ASCII, and
nothing else.
-/

namespace WindowActions

/-- A character as it is written inside a JSON string. -/
def jsonChar (c : Char) : List Char :=
  match c with
  | '"' => ['\\', '"']
  | '\\' => ['\\', '\\']
  | '\x08' => ['\\', 'b']
  | '\t' => ['\\', 't']
  | '\n' => ['\\', 'n']
  | '\x0c' => ['\\', 'f']
  | '\r' => ['\\', 'r']
  | c =>
    if c.toNat < 0x10 then ['\\', 'u', '0', '0', '0', Nat.digitChar c.toNat]
    else if c.toNat < 0x20 then ['\\', 'u', '0', '0', '1', Nat.digitChar (c.toNat - 0x10)]
    else [c]

def jsonString (s : String) : String :=
  String.ofList ('"' :: s.toList.flatMap jsonChar ++ ['"'])

namespace Json

mutual

def compact : Json → String
  | .null => "null"
  | .bool true => "true"
  | .bool false => "false"
  | .integer n => toString n
  | .real literal => literal
  | .string s => jsonString s
  | .array [] => "[]"
  | .array (item :: items) => "[" ++ item.compact ++ compactItems items ++ "]"
  | .object [] => "\x7b\x7d"
  | .object (⟨name, value⟩ :: fields) =>
    "\x7b" ++ jsonString name ++ ":" ++ value.compact ++ compactFields fields ++ "\x7d"

/-- The compact text of items behind the first one. -/
def compactItems : List Json → String
  | [] => ""
  | item :: items => "," ++ item.compact ++ compactItems items

/-- The compact text of fields behind the first one. -/
def compactFields : List (String × Json) → String
  | [] => ""
  | ⟨name, value⟩ :: fields =>
    "," ++ jsonString name ++ ":" ++ value.compact ++ compactFields fields

end

def newline (depth : Nat) : String :=
  String.ofList ('\n' :: List.replicate (2 * depth) ' ')

mutual

/-- The indented text of a value that stands `depth` levels in. -/
def indentedAt (depth : Nat) : Json → String
  | .array [] => "[]"
  | .array (item :: items) =>
    "[" ++ newline (depth + 1) ++ item.indentedAt (depth + 1) ++ indentedItems (depth + 1) items ++
      newline depth ++ "]"
  | .object [] => "\x7b\x7d"
  | .object (⟨name, value⟩ :: fields) =>
    "\x7b" ++ newline (depth + 1) ++ jsonString name ++ ": " ++ value.indentedAt (depth + 1) ++
      indentedFields (depth + 1) fields ++ newline depth ++ "\x7d"
  | value => value.compact

/-- The indented text of items behind the first one. -/
def indentedItems (depth : Nat) : List Json → String
  | [] => ""
  | item :: items => "," ++ newline depth ++ item.indentedAt depth ++ indentedItems depth items

/-- The indented text of fields behind the first one. -/
def indentedFields (depth : Nat) : List (String × Json) → String
  | [] => ""
  | ⟨name, value⟩ :: fields =>
    "," ++ newline depth ++ jsonString name ++ ": " ++ value.indentedAt depth ++
      indentedFields depth fields

end

def indented (value : Json) : String := value.indentedAt 0

end Json

end WindowActions
