import VirtualCamera.Text.Unprintable

/-!
# Quoted text

How a diagnostic shows a text: between double quotes, with the quote, the
backslash and the characters without a shape of their own escaped.  Tab, line
feed, carriage return and the null character have short escapes, the others
are written with their code point in lower-case hexadecimal.
-/

namespace VirtualCamera.Text

/-- The digits of `n` in lower-case hexadecimal. -/
def hex (n : Nat) : String :=
  String.ofList (Nat.toDigits 16 n)

def escaped (c : Char) : String :=
  match c with
  | '"' => "\\\""
  | '\\' => "\\\\"
  | '\t' => "\\t"
  | '\n' => "\\n"
  | '\r' => "\\r"
  | '\x00' => "\\0"
  | c => if isUnprintable c then "\\u\x7b" ++ hex c.toNat ++ "\x7d" else String.singleton c

def quoted (text : String) : String :=
  "\"" ++ String.join (text.toList.map escaped) ++ "\""

/-- A record as a diagnostic shows it: its name, then its fields in order.
`rest` is what follows the last field. -/
def shownRecord (name : String) (fields : List (String × String)) (rest : String) : String :=
  name ++ " \x7b " ++ String.intercalate ", " (fields.map fun f => f.1 ++ ": " ++ f.2) ++ rest ++
    " \x7d"

def shownBool (b : Bool) : String :=
  if b then "true" else "false"

end VirtualCamera.Text
