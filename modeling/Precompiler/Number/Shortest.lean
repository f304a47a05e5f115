/-! The shortest decimal of a float.

A finite float stands for an interval of real numbers, those that round to it. Of all
decimals in the interval the shortest is written, and of two equally short ones the
nearer. All of it is exact arithmetic on natural numbers: the float is `m · 2^q`, and for
1, 2, … digits its two neighbours on that decimal grid are tried. -/
namespace Precompiler.Number

/-- A decimal: `digits · 10^exponent`. -/
structure Decimal where
  digits : Nat
  exponent : Int
  deriving Repr, DecidableEq

/-- A positive finite float as `m · 2^q`, and whether the float below it is only half as
far away as the one above. -/
structure Binary where
  mantissa : Nat
  exponent : Int
  narrowBelow : Bool

/-- The magnitude of a finite float. -/
def Binary.ofFloat (x : Float) : Binary :=
  let bits := x.toBits.toNat
  let fraction : Nat := bits % Nat.pow 2 52
  let biased : Nat := bits / Nat.pow 2 52 % Nat.pow 2 11
  if biased = 0 then ⟨fraction, -1074, false⟩
  else ⟨fraction + Nat.pow 2 52, (biased : Int) - 1075, fraction = 0 ∧ biased ≠ 1⟩

/-- `a · 2^p ≤ b · 10^q`, for exponents of either sign. -/
def scaledLe (a : Nat) (p : Int) (b : Nat) (q : Int) : Bool :=
  a * Nat.pow 2 p.toNat * Nat.pow 10 (-q).toNat ≤ b * Nat.pow 10 q.toNat * Nat.pow 2 (-p).toNat

/-- `a · 2^p < b · 10^q`, for exponents of either sign. -/
def scaledLt (a : Nat) (p : Int) (b : Nat) (q : Int) : Bool :=
  a * Nat.pow 2 p.toNat * Nat.pow 10 (-q).toNat < b * Nat.pow 10 q.toNat * Nat.pow 2 (-p).toNat

/-- Whether a decimal rounds to a float. The ends of the interval do so for an even
mantissa. -/
def Binary.admits (b : Binary) (d : Decimal) : Bool :=
  let low := if b.narrowBelow then 4 * b.mantissa - 1 else 4 * b.mantissa - 2
  let high := 4 * b.mantissa + 2
  let below := !scaledLt high (b.exponent - 2) d.digits d.exponent
  let above := scaledLe low (b.exponent - 2) d.digits d.exponent
  let notHigh := !scaledLe high (b.exponent - 2) d.digits d.exponent
  let notLow := scaledLt low (b.exponent - 2) d.digits d.exponent
  if b.mantissa % 2 = 0 then below && above else notHigh && notLow

/-- The least `e` from `start` on, within `tries` steps, with `b < 10^e`. -/
def Binary.magnitudeFrom (b : Binary) : Nat → Int → Int
  | 0, e => e
  | tries + 1, e =>
    if scaledLt b.mantissa b.exponent 1 e then e else b.magnitudeFrom tries (e + 1)

/-- The float's neighbours on the grid of `10^unit`: the one below with its distance, and
whether the one above is nearer. -/
def Binary.floorAt (b : Binary) (unit : Int) : Nat × Ordering :=
  let num := b.mantissa * Nat.pow 2 b.exponent.toNat * Nat.pow 10 (-unit).toNat
  let den := Nat.pow 2 (-b.exponent).toNat * Nat.pow 10 unit.toNat
  (num / den, compare (2 * (num % den)) den)

/-- The decimal of a float on the grid of `10^unit`, if one of its neighbours there rounds
to the float. -/
def Binary.onGrid (b : Binary) (unit : Int) : Option Decimal :=
  let (floor, half) := b.floorAt unit
  let low : Decimal := ⟨floor, unit⟩
  let high : Decimal := ⟨floor + 1, unit⟩
  match b.admits low, b.admits high with
  | false, false => none
  | true, false => some low
  | false, true => some high
  | true, true =>
    match half with
    | .lt => some low
    | .gt => some high
    | .eq => some (if floor % 2 = 0 then low else high)

/-- The first decimal with at most `n + extra` digits, tried from `n` digits on. -/
def Binary.shortestFrom (b : Binary) (magnitude : Int) : Nat → Nat → Decimal
  | 0, n => ⟨(b.floorAt (magnitude - n)).1, magnitude - n⟩
  | extra + 1, n =>
    match b.onGrid (magnitude - n) with
    | some d => d
    | none => b.shortestFrom magnitude extra (n + 1)

/-- A decimal without zeros at the end of its digits; `n` bounds their number. -/
def Decimal.normalize : Nat → Decimal → Decimal
  | 0, d => d
  | n + 1, d =>
    if d.digits ≠ 0 ∧ d.digits % 10 = 0 then Decimal.normalize n ⟨d.digits / 10, d.exponent + 1⟩
    else d

/-- The shortest decimal that reads back as a positive finite float. -/
def shortest (x : Float) : Decimal :=
  let b := Binary.ofFloat x
  let magnitude := b.magnitudeFrom 700 (-330)
  Decimal.normalize 20 (b.shortestFrom magnitude 17 1)

end Precompiler.Number
