import Precompiler.Script.Reader.Basic

/-! Functions, conditionals, choices and loops read. -/
namespace Precompiler.Script

namespace Read

variable (p : Goal → Surrounding → Read (Expr × Bool)) (here : Surrounding)

/-! ### Functions -/

/-- A function's body, read apart from the variables around it. What it has from outside is
given back with it. -/
def functionBody (parameters : List String) (goal : Goal) : Read (Expr × List String) := do
  let outer ← get
  set { outer with declared := parameters.map (·, false), captured := [] }
  let (body, _) ← p goal ⟨false, false, true⟩
  let captured := (← get).captured
  modify fun r => { r with declared := outer.declared, captured := outer.captured }
  return (body, captured)

/-- A function without a name, after its parameters. -/
def closure (parameters : List String) : Read Expr := do
  if !distinct parameters then failure
  let (body, captured) ← functionBody p parameters .statement
  captured.forM useName
  let name := "anon$" ++ toString (← get).functions.length
  modify fun r => { r with functions := r.functions ++ [⟨name, captured ++ parameters, body⟩] }
  return .closure name captured

/-- A function with a name. -/
def functionDefinition : Read Unit := do
  let name ← freshName
  symbol "("
  let parameters ← listed ")" freshName
  if !distinct parameters then failure
  let (body, _) ← functionBody p parameters .block
  let functions := (← get).functions
  if functions.any fun f => f.name == name && f.parameters.length == parameters.length then failure
  set { ← get with functions := functions ++ [Function.mk name parameters body] }

/-! ### Compound expressions -/

/-- A conditional after its first word; `n` bounds the number of alternatives. -/
def conditionalWithin : Nat → Read Expr
  | 0 => failure
  | n + 1 => do
    let test ← expression p here
    let yes ← block p { here with isGlobal := false }
    if ← skipKeyword? "else" then
      if ← skipKeyword? "if" then return .choiceOf test yes (← conditionalWithin n)
      return .choiceOf test yes (← block p { here with isGlobal := false })
    return .choiceOf test yes .idle

mutual

/-- The value of a literal, also of an array or a map of literals, or of a range of literal
numbers. -/
def literalValue : Expr → Option Value
  | .literal value => some value
  | .array elements => (literalValues elements).map .array
  | .map fields => (literalFields fields).map .map
  | .operation .exclusiveRange (.literal (.int a)) (.literal (.int b)) => some (.range a b false)
  | .operation .inclusiveRange (.literal (.int a)) (.literal (.int b)) => some (.range a b true)
  | _ => none

def literalValues : List Expr → Option (List Value)
  | [] => some []
  | e :: rest => do return (← literalValue e) :: (← literalValues rest)

def literalFields : List (String × Expr) → Option (List (String × Value))
  | [] => some []
  | (name, e) :: rest => do return Value.setField name (← literalValue e) (← literalFields rest)

end

/-- Whether a number is named behind a range that is not empty. -/
def namesNumberBehindRange : List Value → Bool
  | [] => false
  | .range low high isInclusive :: rest =>
    let isEmpty := if isInclusive then low > high else low ≥ high
    (!isEmpty && rest.any fun v => v.kind = .int || v.kind = .float) || namesNumberBehindRange rest
  | _ :: rest => namesNumberBehindRange rest

/-- The alternatives of a pattern of a choice. -/
def alternatives (e : Expr) : List Expr :=
  match e with
  | .operation .bitOr a b => alternatives a ++ [b]
  | e => [e]

/-- The branches of a choice, up to its closing brace; the default comes without values. -/
def branches : Read (List (Option (List Value) × Option Expr × Expr)) := do
  untilDone (do
    if ← skipSymbol? "\x7d" then return none
    let values ← if ← skipSymbol? "_" then pure none
      else do
        match (alternatives (← expression p here)).mapM literalValue with
        | some values => pure (some values)
        | none => failure
    let guard ← if ← skipKeyword? "if" then some <$> expression p here else pure none
    if values.isNone && guard.isSome then failure
    symbol "=>"
    let (body, isClosed) ← p .statement { here with isGlobal := false }
    if !(← skipSymbol? ",") then
      match ← peek? with
      | some (.symbol s) => if s != "\x7d" && !isClosed then failure
      | some _ => if !isClosed then failure
      | none => failure
    return some (values, guard, body)) ((← get).tokens.length + 1)

/-- A choice after its first word. The default, if there is one, comes last. -/
def choice : Read Expr := do
  let subject ← expression p here
  symbol "\x7b"
  let all ← branches p here
  let cases := all.filterMap fun (values, guard, body) => values.map (Branch.mk · guard body)
  if namesNumberBehindRange (cases.flatMap fun ⟨values, _, _⟩ => values) then failure
  match all.reverse with
  | (none, _, body) :: before =>
    if before.any fun (values, _) => values.isNone then failure
    return .choice subject cases body
  | _ =>
    if cases.length != all.length then failure
    return .choice subject cases .idle

/-- A loop over the elements of something, after its first word. -/
def each : Read Expr := do
  let (item, counter) ← if ← skipSymbol? "(" then do
      let item ← freshName
      symbol ","
      let counter ← freshName
      symbol ")"
      if item == counter then failure
      pure (item, some counter)
    else do pure (← freshName, none)
  keyword "in"
  let source ← expression p here
  locally do
    counter.forM fun c => declare c false
    declare item false
    return .each item counter source (← loopBody p here)

/-- A loop that runs its body before its test, after its first word. -/
def loopOnce : Read Expr := do
  let body ← loopBody p here
  let wish ← if ← skipKeyword? "while" then pure true else do keyword "until"; pure false
  return .loopOnce body (← expression p here) wish

/-- What a keyword begins, if it can be the value of an expression. -/
def compound (word : String) : Read Expr := do
  match word with
  | "if" => conditionalWithin p here ((← get).tokens.length + 1)
  | "switch" => choice p here
  | "while" =>
    let test ← expression p here
    return .loop test true (← loopBody p here)
  | "loop" => return .loop (.literal (.bool true)) true (← loopBody p here)
  | "do" => loopOnce p here
  | "for" => each p here
  | _ => failure

end Read

end Precompiler.Script
