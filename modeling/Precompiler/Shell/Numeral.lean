import Precompiler.Shell.Syntax

/-! Numbers as scripts write them: in decimal digits, and, where a base may be given, behind
`0x` or `0`. -/
namespace Precompiler.Shell

def natText (n : Nat) : Text := (toString n).toList

/-- The number at the front of a text, with a sign; nothing is zero. -/
def intOf (text : Text) : Int :=
  match text.dropWhile isBlank with
  | '-' :: rest => -((String.ofList (rest.takeWhile Char.isDigit)).toNat?.getD 0 : Nat)
  | '+' :: rest | rest => ((String.ofList (rest.takeWhile Char.isDigit)).toNat?.getD 0 : Nat)

def isInt (text : Text) : Bool :=
  match text with
  | '-' :: rest | '+' :: rest | rest => !rest.isEmpty && rest.all Char.isDigit

def valueOfDigits (base : Nat) (digits : Text) : Nat :=
  digits.foldl (fun n c =>
    n * base + (if c.isDigit then c.toNat - 48 else if c.toNat ≥ 97 then c.toNat - 87 else c.toNat - 55)) 0

/-- The base of a number without sign, as its first characters tell, and its digits. -/
def baseOf (text : Text) : Nat × Text :=
  match text with
  | '0' :: 'x' :: rest | '0' :: 'X' :: rest => (16, rest)
  | '0' :: c :: rest => if c.isDigit then (8, c :: rest) else (10, text)
  | _ => (10, text)

def isDigitOf (base : Nat) (c : Char) : Bool :=
  if base == 16 then c.isDigit || ('a' ≤ c && c ≤ 'f') || ('A' ≤ c && c ≤ 'F')
  else c.isDigit && c.toNat - 48 < base

/-- The number at the front of a text, with a sign, in any base. -/
def numberOf (text : Text) : Int :=
  let value (text : Text) : Int :=
    let (base, digits) := baseOf text
    valueOfDigits base (digits.takeWhile (isDigitOf base))
  match text.dropWhile isBlank with
  | '-' :: rest => -(value rest)
  | '+' :: rest | rest => value rest

/-- Whether a text is a number in any base. -/
def isNumeral (text : Text) : Bool :=
  let isAll (text : Text) : Bool :=
    let (base, digits) := baseOf text
    !digits.isEmpty && digits.all (isDigitOf base)
  match text.dropWhile isBlank with
  | '-' :: rest | '+' :: rest | rest => isAll rest

end Precompiler.Shell
