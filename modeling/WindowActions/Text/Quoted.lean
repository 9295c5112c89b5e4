import WindowActions.Text.Combining
import WindowActions.Text.Printable

/-!
# Quoted text in messages

Messages show a text between double quotes. The quote, the backslash and four control characters
have short escapes; combining and unprintable characters are written by their code point, as in
`\u{301}`, so that a message always shows what the text consists of.
-/

namespace WindowActions

/-- A number in lower-case hexadecimal digits without leading zeros. -/
def hexDigits (n : Nat) : String :=
  String.ofList (Nat.toDigits 16 n)

/-- A character as it is written between the quotes. -/
def quotedChar (c : Char) : String :=
  match c with
  | '\x00' => "\\0"
  | '\t' => "\\t"
  | '\r' => "\\r"
  | '\n' => "\\n"
  | '"' => "\\\""
  | '\\' => "\\\\"
  | c =>
    if isCombining c || !isPrintable c then "\\u\x7b" ++ hexDigits c.toNat ++ "\x7d"
    else String.singleton c

def quoted (s : String) : String :=
  "\"" ++ String.join (s.toList.map quotedChar) ++ "\""

end WindowActions
