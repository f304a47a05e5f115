import Precompiler.Toml.Scalar

/-! TOML documents.

A document is read line by line: headers say which table is meant, and key lines add to
it. A document that breaks any rule of the format is no document at all. -/
namespace Precompiler.Toml

open Text

/-! ### Values -/

/-- Values and dotted keys nest less deep than this. -/
def nestingLimit : Nat := 80

def isKeyChar (c : Char) : Bool := c.isAlphanum || c == '_' || c == '-'

/-- Takes one part of a key, with the blanks around it. -/
def keyPart : Scan String := do
  spaces
  let part ← match ← Scan.peek? with
    | some '"' | some '\'' => lineString
    | _ => String.ofList <$> Scan.some isKeyChar
  spaces
  return part

/-- Takes a key: the parts before the last one, and the last one. -/
def key : Scan (List String × String) := do
  let parts ← Scan.separated keyPart (Scan.char '.')
  match parts.getLast? with
  | some last => if parts.length < nestingLimit then return (parts.dropLast, last) else failure
  | none => failure

def comment : Scan Unit := do
  Scan.char '#'
  discard (Scan.many isPrintable)

/-- Takes blanks, line ends and comments. -/
def gap : Scan Unit := do
  discard (Scan.repeated (discard (Scan.some isSpace) <|> newline <|> comment))

/-- The inline table with some keys, if no two of them are in each other's way. -/
def inlineTable (pairs : List ((List String × String) × Toml)) : Option Toml :=
  (pairs.foldlM (fun (fields : Fields) ((path, last), value) =>
    fields.addDotted last value path) []).map (.table .inline)

/-- Takes an array behind its bracket. -/
def arrayBody (element : Scan Toml) : Scan Toml := do
  let item := do
    gap
    let v ← element
    gap
    return v
  let elements ← Scan.separated item (Scan.char ',') <|> pure []
  if !elements.isEmpty then discard (Scan.skip? [','])
  gap
  Scan.char ']'
  return .array elements

/-- Takes an inline table behind its brace. -/
def inlineBody (element : Scan Toml) : Scan Toml := do
  let item := do
    let k ← key
    Scan.char '='
    spaces
    let v ← element
    spaces
    return (k, v)
  let pairs ← Scan.separated item (Scan.char ',') <|> pure []
  spaces
  Scan.char '\x7d'
  match inlineTable pairs with
  | some made => return made
  | none => failure

/-- Takes a value in which arrays and inline tables nest at most `n` deep. -/
def valueWithin (n : Nat) : Scan Toml := do
  match ← Scan.peek? with
  | some '"' | some '\'' => .string <$> stringValue
  | some 't' => do Scan.exactly "true".toList; return .boolean true
  | some 'f' => do Scan.exactly "false".toList; return .boolean false
  | some '[' =>
    match n with
    | 0 => failure
    | n + 1 => do Scan.char '['; arrayBody (valueWithin n)
  | some '\x7b' =>
    match n with
    | 0 => failure
    | n + 1 => do Scan.char '\x7b'; inlineBody (valueWithin n)
  | _ => dateTimeValue <|> floatValue <|> integerValue

def value : Scan Toml := valueWithin (nestingLimit - 1)

/-! ### Lines -/

/-- What a line says. -/
inductive Statement where
  | header (path : List String) (last : String)
  | doubleHeader (path : List String) (last : String)
  | assign (path : List String) (last : String) (value : Toml)
  | nothing

/-- Takes what a line says, comment and line end apart. -/
def statement : Scan Statement := do
  spaces
  match ← Scan.peek? with
  | some '[' =>
    if ← Scan.skip? ['[', '['] then do
      let (path, last) ← key
      Scan.exactly [']', ']']
      return .doubleHeader path last
    else do
      Scan.char '['
      let (path, last) ← key
      Scan.char ']'
      return .header path last
  | none | some '#' | some '\n' | some '\r' => return .nothing
  | _ => do
    let (path, last) ← key
    Scan.char '='
    spaces
    return .assign path last (← value)

def line : Scan Statement := do
  if (← get).isEmpty then failure
  let said ← statement
  spaces
  comment <|> pure ()
  newline <|> Scan.atEnd
  return said

/-- A document read so far: its fields, and the table that key lines add to. -/
structure Draft where
  fields : Fields
  current : List String

/-- The document after one more line. -/
def Draft.add (draft : Draft) : Statement → Option Draft
  | .nothing => some draft
  | .header path last =>
    (draft.fields.under (Fields.alter last openTable) path).map (⟨·, path ++ [last]⟩)
  | .doubleHeader path last =>
    (draft.fields.under (Fields.alter last addTable) path).map (⟨·, path ++ [last]⟩)
  | .assign path last value =>
    (draft.fields.under (Fields.addDotted last value path) draft.current).map (⟨·, draft.current⟩)

/-- The fields of a document. A byte order mark at its front does not count. -/
def parse? (text : String) : Option Fields := do
  let chars := match text.toList with
    | '\ufeff' :: rest => rest
    | rest => rest
  let statements ← Scan.whole? (Scan.repeated line) chars
  return (← statements.foldlM Draft.add ⟨[], []⟩).fields

end Precompiler.Toml
