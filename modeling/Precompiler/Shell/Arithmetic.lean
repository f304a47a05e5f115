import Precompiler.Shell.Numeral

/-! Arithmetic: expressions over whole numbers of 64 bits, in which a name stands for the
number that its variable holds. -/
namespace Precompiler.Shell

/-- Numbers of the shell have 64 bits. -/
def wrapped (n : Int) : Int := Int.bmod n (Nat.pow 2 64)

/-- An operator of arithmetic: its mark, what must not follow the mark, and its meaning. -/
structure ArithmeticOperator where
  mark : Text
  notBefore : Text
  apply : Int → Int → Option Int

/-- An operator that always has a value. -/
def plainOperator (mark notBefore : String) (f : Int → Int → Int) : ArithmeticOperator :=
  ⟨mark.toList, notBefore.toList, fun a b => some (wrapped (f a b))⟩

def bitOperator (mark notBefore : String) (f : Nat → Nat → Nat) : ArithmeticOperator :=
  plainOperator mark notBefore fun a b => f (a % Nat.pow 2 64).toNat (b % Nat.pow 2 64).toNat

/-- The operators of arithmetic, loosest first; those of a line bind equally. -/
def arithmeticLevels : List (List ArithmeticOperator) :=
  let truth (b : Bool) : Int := if b then 1 else 0
  [[plainOperator "||" "" fun a b => truth (a != 0 || b != 0)],
    [plainOperator "&&" "" fun a b => truth (a != 0 && b != 0)],
    [bitOperator "|" "|" Nat.lor],
    [bitOperator "^" "" Nat.xor],
    [bitOperator "&" "&" Nat.land],
    [plainOperator "==" "" fun a b => truth (a == b), plainOperator "!=" "" fun a b => truth (a != b)],
    [plainOperator "<=" "" fun a b => truth (a ≤ b), plainOperator ">=" "" fun a b => truth (a ≥ b),
      plainOperator "<" "<" fun a b => truth (a < b), plainOperator ">" ">" fun a b => truth (a > b)],
    [plainOperator "<<" "" fun a b => a * Nat.pow 2 (b % 64).toNat,
      plainOperator ">>" "" fun a b => a / Nat.pow 2 (b % 64).toNat],
    [plainOperator "+" "" (· + ·), plainOperator "-" "" (· - ·)],
    [plainOperator "*" "" (· * ·),
      ⟨['/'], [], fun a b => if b == 0 then none else some (Int.tdiv a b)⟩,
      ⟨['%'], [], fun a b => if b == 0 then none else some (Int.tmod a b)⟩]]

open Precompiler.Text (Scan)

/-- Blanks and line ends. -/
def spaces : Scan Unit := do discard (Scan.many fun c => isBlank c || c == '\n')

def operatorAhead (level : List ArithmeticOperator) : Scan ArithmeticOperator := do
  spaces
  let rest ← Scan.rest
  let isNext (op : ArithmeticOperator) : Bool :=
    op.mark.isPrefixOf rest && ((rest.drop op.mark.length).head?.all (!op.notBefore.contains ·))
  match level.find? isNext with
  | some op => do
    Scan.exactly op.mark
    return op
  | none => failure

/-- A chain of operators of given levels over operands. -/
def operators (operand : Scan Int) : List (List ArithmeticOperator) → Scan Int
  | [] => operand
  | level :: tighter => do
    let first ← operators operand tighter
    let others ← Scan.repeated (do
      let op ← operatorAhead level
      return (op, ← operators operand tighter))
    match others.foldlM (fun a (op, b) => op.apply a b) first with
    | some value => return value
    | none => failure

/-- An operand: a number, a variable, or an expression in parentheses. -/
def operandWithin (valueOf : Text → Text) : Nat → Scan Int
  | 0 => failure
  | n + 1 => do
    spaces
    match ← Scan.peek? with
    | some '(' => do
      Scan.char '('
      let value ← conditionalValue (operandWithin valueOf n)
      spaces
      Scan.char ')'
      return value
    | some '-' => do Scan.char '-'; return wrapped (-(← operandWithin valueOf n))
    | some '+' => do Scan.char '+'; operandWithin valueOf n
    | some '~' => do Scan.char '~'; return -(← operandWithin valueOf n) - 1
    | some '!' => do
      Scan.char '!'
      return if (← operandWithin valueOf n) == 0 then 1 else 0
    | some c =>
      let word ← Scan.some isNameChar
      if c.isDigit then if isNumeral word then return wrapped (numberOf word) else failure
      else
        let value := valueOf word
        if value.isEmpty then return 0
        else if isNumeral value then return wrapped (numberOf value) else failure
    | none => failure
where
  /-- An expression, or a choice between two of them. -/
  conditionalValue (operand : Scan Int) : Scan Int := do
    let test ← operators operand arithmeticLevels
    spaces
    if ← Scan.skip? ['?'] then
      let yes ← operators operand arithmeticLevels
      spaces
      Scan.char ':'
      let no ← operators operand arithmeticLevels
      return if test != 0 then yes else no
    return test

def arithmetic? (valueOf : Text → Text) (expression : Text) : Option Int :=
  Scan.whole? (do
    let value ← operandWithin.conditionalValue (operandWithin valueOf 16)
    spaces
    return value) expression

end Precompiler.Shell
