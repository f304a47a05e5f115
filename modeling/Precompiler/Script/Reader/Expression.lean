import Precompiler.Script.Reader.Compound

/-! Expressions read: values, the steps of chains, and operators by how strongly they bind. -/
namespace Precompiler.Script

namespace Read

section Values

variable (p : Goal → Surrounding → Read (Expr × Bool)) (here : Surrounding)

/-! ### Values -/

def templateParts : List TemplatePart → Read (List Expr)
  | [] => return []
  | .text s :: rest => return .literal (.string s) :: (← templateParts rest)
  | .code tokens :: rest => do
    let outer := (← get).tokens
    modify fun r => { r with tokens := .symbol "\x7b" :: tokens ++ [.symbol "\x7d"] }
    let code ← block p { here with isGlobal := false }
    if !(← get).tokens.isEmpty then failure
    modify fun r => { r with tokens := outer }
    return code :: (← templateParts rest)

def field : Read (String × Expr) := do
  let name ← match ← next with
    | .name s => pure s
    | .string s => pure s
    | _ => failure
  symbol ":"
  return (name, ← bracketed p here)

/-- What a word stands for: a call if a parenthesis follows, a variable otherwise. -/
def wordValue (word : String) : Read Expr := do
  if ← skipSymbol? "(" then return .call word (← listed ")" (bracketed p here))
  if callOnly.contains word then failure
  useName word
  return .variable word

/-- An expression without operators and steps. -/
def primary : Read Expr := do
  match ← next with
  | .int n => return .literal (.int n)
  | .float x => return .literal (.float x)
  | .char c => return .literal (.char c)
  | .string s => return .literal (.string s)
  | .template parts => return .template (← templateParts p here parts)
  | .name word => wordValue p here word
  | .keyword "true" => return .literal (.bool true)
  | .keyword "false" => return .literal (.bool false)
  | .keyword "this" => return .this
  | .keyword word => compound p here word
  | .symbol "(" =>
    if ← skipSymbol? ")" then return .idle
    let e ← bracketed p here
    symbol ")"
    return e
  | .symbol "[" => return .array (← listed "]" (bracketed p here))
  | .symbol "#\x7b" =>
    let fields ← listed "\x7d" (field p here)
    if distinct (fields.map (·.1)) then return .map fields else failure
  | .symbol "|" => closure p (← listed "|" freshName)
  | .symbol "||" => closure p []
  | .symbol "\x7b" => do
    modify fun r => { r with tokens := .symbol "\x7b" :: r.tokens }
    block p { here with isGlobal := false }
  | _ => failure

/-- The names of functions that cannot be asked of a value. -/
def neverMethods : List String := ["print", "debug", "eval", "Fn", "is_def_var", "is_def_fn"]

/-- A step behind a dot. -/
def dotted (isOptional : Bool) : Read Step := do
  match ← next with
  | .name word =>
    if ← skipSymbol? "(" then
      if neverMethods.contains word then failure
      return .method word (← listed ")" (bracketed p here)) isOptional
    if callOnly.contains word then failure
    return .property word isOptional
  | _ => failure

/-- One step of a chain, if there is one. -/
def step? : Read (Option Step) := do
  if ← skipSymbol? "." then return some (← dotted p here false)
  if ← skipSymbol? "?." then return some (← dotted p here true)
  let indexed (isOptional : Bool) : Read (Option Step) := do
    let place ← bracketed p here
    symbol "]"
    return some (.index place isOptional)
  if ← skipSymbol? "[" then return ← indexed false
  if ← skipSymbol? "?[" then return ← indexed true
  return none

/-- A primary expression with the steps behind it. -/
def chained : Read Expr := do
  let root ← primary p here
  match ← untilDone (step? p here) ((← get).tokens.length + 1) with
  | [] => return root
  | steps => return .chain root steps

/-- The negative of an expression. A literal is negated right away. -/
def negative : Expr → Expr
  | .literal (.int n) =>
    if n = Value.minInt then .literal (.float (-(Value.toFloat n))) else .literal (.int (-n))
  | .literal (.float x) => .literal (.float (-x))
  | e => .negated e

/-- An expression without operators between two values. -/
def unaryWithin : Nat → Read Expr
  | 0 => failure
  | n + 1 => do
    if ← skipSymbol? "-" then return negative (← unaryWithin n)
    if ← skipSymbol? "+" then return .unchanged (← unaryWithin n)
    if ← skipSymbol? "!" then return .opposite (← unaryWithin n)
    chained p here

end Values

/-! ### Operators -/

/-- How strongly the operator with a symbol binds, and what it makes of two expressions. -/
def operatorOf : String → Option (Nat × (Expr → Expr → Expr))
  | "||" => some (30, .disjunction)
  | "|" => some (30, .operation .bitOr)
  | "^" => some (30, .operation .bitXor)
  | "&&" => some (60, .conjunction)
  | "&" => some (60, .operation .bitAnd)
  | "==" => some (90, .operation .equal)
  | "!=" => some (90, .operation .unequal)
  | "in" => some (110, fun a b => .isIn a b false)
  | "!in" => some (110, fun a b => .isIn a b true)
  | "<" => some (130, .operation .less)
  | "<=" => some (130, .operation .lessOrEqual)
  | ">" => some (130, .operation .greater)
  | ">=" => some (130, .operation .greaterOrEqual)
  | "??" => some (135, .orElse)
  | ".." => some (140, .operation .exclusiveRange)
  | "..=" => some (140, .operation .inclusiveRange)
  | "+" => some (150, .operation .plus)
  | "-" => some (150, .operation .minus)
  | "*" => some (180, .operation .times)
  | "/" => some (180, .operation .divide)
  | "%" => some (180, .operation .modulo)
  | "**" => some (190, .operation .power)
  | "<<" => some (210, .operation .shiftLeft)
  | ">>" => some (210, .operation .shiftRight)
  | _ => none

def operatorAhead : Read (Option (Nat × (Expr → Expr → Expr))) := do
  match ← peek? with
  | some (.symbol s) => return operatorOf s
  | some (.keyword "in") => return operatorOf "in"
  | _ => return none

/-- An expression continued by the operators that bind at least as strongly as `least`.
Only powers group to the right. -/
def climb (operand : Read Expr) : Nat → Nat → Expr → Read Expr
  | 0, _, _ => failure
  | n + 1, least, left => do
    match ← operatorAhead with
    | none => return left
    | some (strength, make) =>
      if strength < least then return left
      discard next
      let right ← climb operand n (if strength == 190 then strength else strength + 1) (← operand)
      climb operand n least (make left right)

section Whole

variable (p : Goal → Surrounding → Read (Expr × Bool)) (here : Surrounding)

def wholeExpression : Read Expr := do
  let n := (← get).tokens.length + 1
  let operand := unaryWithin p here n
  climb operand n 0 (← operand)

end Whole

end Read

end Precompiler.Script
