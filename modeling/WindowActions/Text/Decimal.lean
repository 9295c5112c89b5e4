/-!
# Decimal digits

Numbers are written in the ten ASCII digits, the first one being the most significant.
-/

namespace WindowActions

def isAsciiDigit (c : Char) : Bool := '0' ≤ c && c ≤ '9'

def digitValue (c : Char) : Nat := c.toNat - '0'.toNat

/-- The value of decimal digits behind digits of the value `n`. -/
def decimalValueFrom (n : Nat) (digits : List Char) : Nat :=
  digits.foldl (fun n c => n * 10 + digitValue c) n

def decimalValue (digits : List Char) : Nat := decimalValueFrom 0 digits

@[simp] theorem decimalValueFrom_nil (n : Nat) : decimalValueFrom n [] = n := rfl

theorem decimalValueFrom_cons (n : Nat) (c : Char) (cs : List Char) :
    decimalValueFrom n (c :: cs) = decimalValueFrom (n * 10 + digitValue c) cs := by
  rw [decimalValueFrom, List.foldl_cons, decimalValueFrom]

theorem decimalValueFrom_append (n : Nat) (cs ds : List Char) :
    decimalValueFrom n (cs ++ ds) = decimalValueFrom (decimalValueFrom n cs) ds := by
  simp [decimalValueFrom, List.foldl_append]

end WindowActions
