import Precompiler.Script.Reader.Expression

/-! Statements and scripts read. Expressions and blocks nest up to a limit. -/
namespace Precompiler.Script

namespace Read

section Statements

variable (p : Goal → Surrounding → Read (Expr × Bool)) (here : Surrounding)

/-- The operator of a symbol that changes something in place. -/
def changeOf : String → Option Operator
  | "+=" => some .plus
  | "-=" => some .minus
  | "*=" => some .times
  | "/=" => some .divide
  | "%=" => some .modulo
  | "**=" => some .power
  | "<<=" => some .shiftLeft
  | ">>=" => some .shiftRight
  | "&=" => some .bitAnd
  | "|=" => some .bitOr
  | "^=" => some .bitXor
  | _ => none

/-- Refuses what cannot be assigned to. -/
def checkTarget (target : Expr) : Read Unit := do
  if !target.isPlace then failure
  match target with
  | .variable name => if ((← get).declared.lookup name).getD false then failure
  | _ => return ()

/-- The value that is assigned to a target, behind the symbol of the assignment. -/
def assigned (target : Expr) : Read Expr := do
  discard next
  checkTarget target
  expression p here

/-- An expression, or an assignment to what it stands for. -/
def expressionStatement : Read Expr := do
  let e ← expression p here
  match ← peek? with
  | some (.symbol "=") => return .assignment e (← assigned p here e)
  | some (.symbol "??=") => return .assignMissing e (← assigned p here e)
  | some (.symbol s) =>
    match changeOf s with
    | some op => return .assign e (some op) (← assigned p here e)
    | none => return e
  | _ => return e

/-- A declaration after its first word. -/
def declaration (isConstant : Bool) : Read Expr := do
  let name ← freshName
  let value ← if ← skipSymbol? "=" then expression p here else pure .idle
  declare name isConstant
  return .declare name value isConstant

/-- What a script shows to others, after its first word: a declaration, or a variable that there is, maybe
under another name. Nobody looks at it. -/
def exported : Read Expr := do
  match ← next with
  | .keyword "let" => declaration p here false
  | .keyword "const" => declaration p here true
  | .name name =>
    if ← skipKeyword? "as" then discard freshName
    return .block [.chain (.variable name) [], .idle]
  | _ => failure

/-- A guarded block after its first word. -/
def attempt : Read Expr := do
  let body ← block p { here with isGlobal := false }
  keyword "catch"
  let name ← if ← skipSymbol? "(" then do
      let name ← freshName
      symbol ")"
      pure (some name)
    else pure none
  locally do
    name.forM fun n => declare n false
    return .attempt body.unasked name (← block p { here with isGlobal := false })

/-- The value behind a word that ends something, or the unit. -/
def valueOrUnit : Read Expr := do if ← atEnd then return .idle else expression p here

/-- What a keyword begins, and whether it may stand without a semicolon. -/
def keywordStatement (word : String) : Read (Expr × Bool) := do
  match word with
  | "if" | "switch" | "while" | "loop" | "for" => discard next; return (← compound p here word, true)
  | "do" => discard next; return (← compound p here word, false)
  | "try" => discard next; return (← attempt p here, true)
  | "let" => discard next; return (← declaration p here false, false)
  | "const" => discard next; return (← declaration p here true, false)
  | "return" => discard next; return (.giveBack (← valueOrUnit p here), false)
  | "throw" => discard next; return (.raise (← valueOrUnit p here), false)
  | "break" =>
    discard next
    if !here.isInLoop then failure
    return (.leave (← valueOrUnit p here), false)
  | "continue" =>
    discard next
    if !here.isInLoop then failure
    return (.nextRound, false)
  | "fn" =>
    discard next
    if !here.isGlobal then failure
    functionDefinition p
    return (.idle, true)
  | "private" =>
    discard next
    keyword "fn"
    if !here.isGlobal then failure
    functionDefinition p
    return (.idle, true)
  | "export" =>
    discard next
    if !here.isGlobal then failure
    return (← exported p here, false)
  | _ => return (← expressionStatement p here, false)

/-- A statement, and whether it may stand without a semicolon. -/
def oneStatement : Read (Expr × Bool) := do
  match ← peek? with
  | some (.keyword word) => keywordStatement p here word
  | some (.symbol "\x7b") => return (← block p { here with isGlobal := false }, true)
  | _ => return (← expressionStatement p here, false)

/-- Whether a function comes next; it leaves no statement. -/
def functionAhead : Read Bool := do
  match ← peek? with
  | some (.keyword word) => return word == "fn" || word == "private"
  | _ => return false

/-- Statements up to a closing brace, or up to the end of the script. Semicolons on their own
are skipped. -/
def statements (isWhole : Bool) : Read (List Expr) := do
  let found ← untilDone (do
    let isOver ← if isWhole then pure (← get).tokens.isEmpty else skipSymbol? "\x7d"
    if isOver then return none
    if ← skipSymbol? ";" then return some none
    let isFunction ← functionAhead
    let (e, isClosed) ← p .statement here
    let isLast ← if isWhole then pure (← get).tokens.isEmpty
      else do
        match ← peek? with
        | some (.symbol s) => pure (s == "\x7d")
        | _ => pure false
    if !(← skipSymbol? ";") && !isLast && !isClosed then failure
    return some (if isFunction then none else some e)) ((← get).tokens.length + 1)
  return found.filterMap id

end Statements

/-- The levels of expressions and blocks within one another. -/
def maxLevels : Nat := 64

/-- The levels that the body of a function may reach. -/
def maxLevelsInFunction : Nat := 32

/-- Reads for a goal, with at most so many levels below it. -/
def goal : Nat → Goal → Surrounding → Read (Expr × Bool)
  | 0, _, _ => failure
  | n + 1, g, here => do
    if here.isInFunction && n < maxLevels - maxLevelsInFunction then failure
    let p := goal n
    match g with
    | .expression => return (← wholeExpression p here, false)
    | .bracketed => return (← expression p here, false)
    | .statement => oneStatement p here
    | .block =>
      symbol "\x7b"
      return (.block (← locally (statements p here false)), true)

end Read

/-- A script, if it can be read. Scripts that import others, and constants asked of `global`, are left out. -/
def ofText? (text : String) : Option Script := do
  let tokens ← Token.ofText? text
  let (body, reader) ← (Read.statements (Read.goal Read.maxLevels) ⟨false, true, false⟩ true).run
    ⟨tokens, [], [], []⟩
  return ⟨.block body, reader.functions⟩

end Precompiler.Script
