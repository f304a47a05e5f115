import Precompiler.Script.Chain

/-! Hook scripts run.

The evaluation of an expression is said for any way of evaluating the expressions within it;
then the levels and rounds are counted down. -/
namespace Precompiler.Script

open Run

namespace Context

variable (ctx : Context)

def call (name : String) (arguments : List Expr) : Run Value := do
  let values ← arguments.mapM ctx.run
  match name, values with
  | "print", [v] => print v.text; return .unit
  | "print", [] => print ""; return .unit
  | "debug", [v] => print v.inner; return .unit
  | "Fn", [.string s] => return .function s []
  | "is_def_var", [.string s] => return .bool (← lookup? s).isSome
  | "is_def_fn", [.string s, .int n] => return .bool (ctx.function? s n.toNat).isSome
  | _, _ =>
    match ctx.function? name values.length, values with
    | some f, _ => return (← ctx.invoke f values none).1
    | none, [] => if name == "exit" then throw (.quit .unit) else fault
    | none, receiver :: rest =>
      let answer ← ctx.ready name receiver rest
      match answer.changed, arguments with
      | some v, .variable target :: _ => write target v
      | _, _ => pure ()
      return answer.result

/-- Puts a variable into a cell, unless it is in one already, and gives the cell. -/
def share (name : String) : Run Value := do
  match ← lookup? name with
  | none => ctx.read name
  | some b =>
    match b.value with
    | .cell n => return .cell n
    | v =>
      let n := (← get).cells.size
      modify fun m => { m with
        cells := m.cells.push v
        scope := rebind name (.cell n) m.scope }
      return .cell n

/-- The values of statements in turn, and the last one. What can do nothing but give a value
that nobody asks for is left out. -/
def statements : List Expr → Run Value
  | [] => return .unit
  | [e] => ctx.run e
  | e :: rest => do
    if !e.isPure then discard (ctx.run e)
    statements rest

/-- Runs the body of a loop: the loop's value if the body leaves it. -/
def round (body : Expr) : Run (Option Value) := do
  let (result, m) := (ctx.run body).run.run (← get)
  set m
  match result with
  | .ok _ | .error .nextRound => return none
  | .error (.leave v) => return some v
  | .error signal => throw signal

/-- Runs a body for every element of a list. -/
def eachOf (bindElement : Value → Nat → Run Unit) (body : Expr) : List Value → Nat → Run Value
  | [], _ => return .unit
  | v :: rest, i => do
    tick
    match ← locally (do bindElement v i; ctx.round body) with
    | some result => return result
    | none => eachOf bindElement body rest (i + 1)

/-- Runs a body for so many numbers from a first one on. -/
def eachNumber (bindElement : Value → Nat → Run Unit) (body : Expr) : Nat → Int → Nat → Run Value
  | 0, _, _ => return .unit
  | count + 1, n, i => do
    tick
    match ← locally (do bindElement (.int n) i; ctx.round body) with
    | some result => return result
    | none => eachNumber bindElement body count (n + 1) (i + 1)

def each (bindElement : Value → Nat → Run Unit) (source : Value) (body : Expr) : Run Value :=
  match source with
  | .array xs => ctx.eachOf bindElement body xs 0
  | .string s => ctx.eachOf bindElement body (s.toList.map .char) 0
  | .range low high isInclusive =>
    ctx.eachNumber bindElement body ((if isInclusive then high + 1 else high) - low).toNat low 0
  | _ => fault

/-- Whether a value is meant by one of the values of a branch. -/
def isMeant (v case : Value) : Bool :=
  match case with
  | .range .. => false
  | case => case.kind = v.kind && case.isEqual v

/-- Whether a number lies in one of the ranges of a branch. -/
def isInRange (v case : Value) : Bool :=
  match case, v with
  | .range low high isInclusive, .int n => low ≤ n && (if isInclusive then n ≤ high else n < high)
  | .range low high isInclusive, .float x =>
    Value.toFloat low ≤ x && (if isInclusive then x ≤ Value.toFloat high else x < Value.toFloat high)
  | _, _ => false

/-- The body of the first branch of a kind whose condition holds. -/
def firstBranch (isChosen : Value → Bool) : List Branch → Run (Option Expr)
  | [] => return none
  | ⟨values, guard, body⟩ :: rest => do
    if !values.any isChosen then return ← firstBranch isChosen rest
    match guard with
    | none => return some body
    | some g => if ← truth (← ctx.run g) then return some body else firstBranch isChosen rest

/-- The value of a choice. Ranges are looked at only if no branch names the value itself. -/
def choose (v : Value) (branches : List Branch) (otherwise : Expr) : Run Value := do
  let isNamed := branches.any fun ⟨values, _, _⟩ => values.any (isMeant v)
  match ← ctx.firstBranch (if isNamed then isMeant v else isInRange v) branches with
  | some body => ctx.run body
  | none => ctx.run otherwise

def negative (v : Value) : Run Value := do
  match v with
  | .int n => ofOption (Value.int? (-n))
  | .float x => return .float (-x)
  | _ => fault

end Context

/-- The value of an expression, with at most `n` levels and rounds below it. -/
def evaluate (functions : List Function) : Nat → Expr → Run Value
  | 0, _ => throw .stopped
  | n + 1, e => do
    let ctx : Context := ⟨functions, evaluate functions n⟩
    match e with
    | .literal v => return v
    | .variable name => ctx.read name
    | .this => Context.theReceiver
    | e =>
      tick
      match e with
      | .template parts =>
        let texts ← parts.mapM ctx.run
        ofOption (Operator.text? (texts.foldl (fun s v => s ++ v.text) ""))
      | .array elements => return .array (← elements.mapM ctx.run)
      | .map fields =>
        let values ← fields.mapM fun (name, v) => do return (name, ← ctx.run v)
        return .map (Operator.mixed [] values)
      | .chain root steps => ctx.chain root steps
      | .call name arguments => ctx.call name arguments
      | .operation op a b =>
        let a ← ctx.run a
        let b ← ctx.run b
        ofOption (op.result? a b)
      | .both a b =>
        if ← Context.truth (← ctx.run a) then return .bool (← Context.truth (← ctx.run b))
        else return .bool false
      | .either a b =>
        if ← Context.truth (← ctx.run a) then return .bool true
        else return .bool (← Context.truth (← ctx.run b))
      | .orElse a b =>
        let v ← ctx.run a
        if v.isUnit then ctx.run b else return v
      | .isIn a b isNegated =>
        let v ← ctx.run a
        let whole ← ctx.run b
        return .bool ((← ofOption (Library.contains? whole v)) != isNegated)
      | .negated a => Context.negative (← ctx.run a)
      | .unchanged a =>
        match ← ctx.run a with
        | .int m => return .int m
        | .float x => return .float x
        | _ => fault
      | .opposite a => return .bool !(← Context.truth (← ctx.run a))
      | .closure name captured => return .function name (← captured.mapM ctx.share)
      | .block body => locally (ctx.statements body)
      | .declare name value isConstant =>
        bind name (← ctx.run value) isConstant
        return .unit
      | .assign place op value =>
        let v ← ctx.run value
        ctx.change place fun old =>
          match op with
          | none => return v
          | some op => ofOption (op.update? old v)
        return .unit
      | .assignMissing place value =>
        let old ← ctx.run place
        if old.isUnit then
          let v ← ctx.run value
          ctx.change place fun _ => return v
        return .unit
      | .conditional test yes no =>
        if ← Context.truth (← ctx.run test) then ctx.run yes else ctx.run no
      | .choice subject branches otherwise => ctx.choose (← ctx.run subject) branches otherwise
      | .loop test wish body =>
        if (← Context.truth (← ctx.run test)) != wish then return .unit
        match ← ctx.round body with
        | some v => return v
        | none => evaluate functions n (.loop test wish body)
      | .loopOnce body test wish =>
        match ← ctx.round body with
        | some v => return v
        | none =>
          if (← Context.truth (← ctx.run test)) != wish then return .unit
          evaluate functions n (.loopOnce body test wish)
      | .each item counter source body =>
        let bindElement (v : Value) (i : Nat) : Run Unit := do
          counter.forM fun c => bind c (.int i) false
          bind item v false
        ctx.each bindElement (← ctx.run source) body
      | .leave value => throw (.leave (← ctx.run value))
      | .nextRound => throw .nextRound
      | .giveBack value => throw (.giveBack (← ctx.run value))
      | .raise value => throw (.thrown (← ctx.run value))
      | .attempt body name handler =>
        let (result, m) := (ctx.run body).run.run (← get)
        set m
        match result with
        | .error (.thrown v) =>
          locally do
            name.forM fun x => bind x v false
            discard (ctx.run handler)
          return .unit
        | .ok v => return v
        | .error signal => throw signal
      | _ => fault

/-- The levels and rounds that a script may take; the count of steps ends it earlier. -/
def maxRounds : Nat := 4000000

/-- How a script ends: the lines that it has printed, and its value, unless it fails. -/
def run (script : Script) (bindings : List (String × Value)) : List String × Option Value :=
  let (result, m) := (evaluate script.functions maxRounds script.body).run.run
    ⟨bindings.map fun (name, v) => ⟨name, v, false⟩, #[], none, 0, 0, []⟩
  let value := match result with
    | .ok v | .error (.giveBack v) | .error (.quit v) => some v
    | _ => none
  (m.printed.reverse, value)

end Precompiler.Script
