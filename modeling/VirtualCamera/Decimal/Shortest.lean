/-!
# The shortest decimal of a floating-point number

A finite number is `significand * 2 ^ exponent`.  All the reals between the
midpoints to its neighbours are read back as it, the midpoints too if the
significand is even.  Its shortest decimal is the multiple of a power of ten
that lies there, with the power as large as possible; of two such multiples the
nearer one, and at the same distance the even one.

The search goes from coarse powers to fine ones in exact arithmetic, so no
digit depends on rounding.
-/

namespace VirtualCamera.Decimal

/-- A positive floating-point number. -/
structure Binary where
  significand : Nat
  exponent : Int
  /-- the neighbour below is only half as far away as the one above -/
  narrowBelow : Bool
  deriving Repr

namespace Binary

/-- The size of a finite number other than zero, without its sign. -/
def ofFloat (x : Float) : Binary :=
  let bits := x.toBits.toNat
  let hidden : Nat := 0x10000000000000
  let fraction := bits % hidden
  let scale := bits / hidden % 0x800
  if scale = 0 then ⟨fraction, -1074, false⟩
  else ⟨hidden + fraction, scale - 1075, fraction == 0 && 1 < scale⟩

/-- The multiple of `10 ^ k` for the number, if one is read back as it.  Lengths
are counted in quarters of the last binary place; `unit` of them, divided by
`scale`, are `10 ^ k`. -/
def multiple? (x : Binary) (k : Int) : Option Nat :=
  let quarter := x.exponent - 2
  let unit := Nat.pow 2 quarter.toNat * Nat.pow 10 (-k).toNat
  let scale := Nat.pow 2 (-quarter).toNat * Nat.pow 10 k.toNat
  let value := 4 * x.significand * unit
  let least := (4 * x.significand - if x.narrowBelow then 1 else 2) * unit
  let most := (4 * x.significand + 2) * unit
  let isInside (d : Nat) : Bool :=
    if x.significand % 2 = 0 then least ≤ d * scale && d * scale ≤ most
    else least < d * scale && d * scale < most
  let below := value / scale
  match isInside below, isInside (below + 1) with
  | true, true =>
    let gap := 2 * value - 2 * below * scale
    some (if gap < scale || (gap = scale && below % 2 = 0) then below else below + 1)
  | true, false => some below
  | false, true => some (below + 1)
  | false, false => none

/-- The digits of the shortest decimal, as a number, and its power of ten. -/
def shortest (x : Binary) : Nat × Int :=
  let powers : List Int := (List.range 650).map fun (i : Nat) => 309 - (i : Int)
  (powers.findSome? fun k => (x.multiple? k).map fun d => (d, k)).getD (0, 0)

end Binary

/-! ## Text -/

/-- `count` zeros. -/
def zeros (count : Nat) : String :=
  String.ofList (List.replicate count '0')

/-- A decimal in writing: with a point and at least one digit on each side of
it from `10 ^ -5` up to `10 ^ 16`, with an exponent outside. -/
def text (digits : Nat) (power : Int) : String :=
  let shown := toString digits
  let point := shown.length + power
  if 0 ≤ power ∧ point ≤ 16 then shown ++ zeros power.toNat ++ ".0"
  else if 0 < point ∧ point ≤ 16 then
    String.ofList (shown.toList.take point.toNat) ++ "." ++
      String.ofList (shown.toList.drop point.toNat)
  else if -5 < point ∧ point ≤ 0 then "0." ++ zeros (-point).toNat ++ shown
  else
    let rest := shown.toList.drop 1
    let tail := if rest.isEmpty then "" else "." ++ String.ofList rest
    let sign := if point < 1 then "e-" else "e+"
    String.ofList (shown.toList.take 1) ++ tail ++ sign ++ toString (point - 1).natAbs

/-- The shortest text that is read back as a finite number. -/
def ofFloat (x : Float) : String :=
  let size := if x == 0 then "0.0" else
    let (digits, power) := (Binary.ofFloat x).shortest
    text digits power
  if x.toBits < 0x8000000000000000 then size else "-" ++ size

end VirtualCamera.Decimal
