import Precompiler.Number.Shortest

/-! Decimals as text.

A layout says how the digits of a float are set: where the point goes, when an exponent is
written, and what stands for the numbers that have no digits. -/
namespace Precompiler.Number

/-- How floats are written. -/
structure Layout where
  /-- The numbers of digits before the point for which no exponent is written; zero and
  less count the zeros between the point and the first digit. -/
  positional : Int → Bool
  /-- Whether a whole number written without an exponent gets `.0`. -/
  markWhole : Bool
  zero : String
  negativeZero : String
  nan : String
  infinity : String

/-- A run of zeros. -/
def zeros (n : Int) : String := String.ofList (List.replicate n.toNat '0')

/-- The text of a positive decimal. -/
def Layout.writeDecimal (layout : Layout) (d : Decimal) : String :=
  let digits := toString d.digits
  let before := (digits.length : Int) + d.exponent
  if layout.positional before then
    if 0 ≤ d.exponent then digits ++ zeros d.exponent ++ (if layout.markWhole then ".0" else "")
    else if 0 < before then
      (digits.take before.toNat).toString ++ "." ++ (digits.drop before.toNat).toString
    else "0." ++ zeros (-before) ++ digits
  else
    let rest := (digits.drop 1).toString
    (digits.take 1).toString ++ (if rest == "" then "" else "." ++ rest) ++ "e" ++
      toString (before - 1)

/-- The text of a float. -/
def Layout.write (layout : Layout) (x : Float) : String :=
  if x.isNaN then layout.nan
  else if x == 0 then (if x.toBits == (0 : Float).toBits then layout.zero else layout.negativeZero)
  else
    let magnitude := if x.isInf then layout.infinity else layout.writeDecimal (shortest x)
    if x < 0 then "-" ++ magnitude else magnitude

end Precompiler.Number
