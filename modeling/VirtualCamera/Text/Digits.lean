/-!
# Decimal digits

The number that a run of decimal digits stands for; digits are those of ASCII.
-/

namespace VirtualCamera.Text

/-- The number that a run of decimal digits stands for. -/
def ofDigits (digits : List Char) : Nat :=
  digits.foldl (fun n d => 10 * n + (d.toNat - '0'.toNat)) 0

/-- Whether characters are a run of decimal digits, at least one. -/
def isDigits (text : List Char) : Bool :=
  !text.isEmpty && text.all Char.isDigit

end VirtualCamera.Text
