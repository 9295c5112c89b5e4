/-!
# JSON values

The fields of an object keep their order, and a name may occur twice: what a repeated field means
is for its reader to say.
-/

namespace WindowActions

inductive Json where
  | null
  | bool (value : Bool)
  /-- A number written as an integer other than minus zero. -/
  | integer (value : Int)
  | real (literal : String)
  | string (value : String)
  | array (items : List Json)
  | object (fields : List (String × Json))
deriving Inhabited

def Json.natural (n : Nat) : Json := .integer n

end WindowActions
