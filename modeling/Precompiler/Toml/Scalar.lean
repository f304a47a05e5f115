import Precompiler.Text.Scan
import Precompiler.Toml.Value

/-! TOML strings, numbers and dates. -/
namespace Precompiler.Toml

open Text

/-! ### Characters -/

def isSpace (c : Char) : Bool := c == ' ' || c == '\t'

/-- Whether a character may stand in a comment, and, quotes and backslashes apart, in a
string: no control character but the tab. -/
def isPrintable (c : Char) : Bool := c == '\t' || (32 ≤ c.toNat && c.toNat ≠ 127)

def isHexDigit (c : Char) : Bool :=
  c.isDigit || ('a' ≤ c && c ≤ 'f') || ('A' ≤ c && c ≤ 'F')

def digitValue (c : Char) : Nat :=
  if c.isDigit then c.toNat - 48 else if 'a' ≤ c then c.toNat - 87 else c.toNat - 55

/-- The number that digits stand for. -/
def valueIn (base : Nat) (digits : List Char) : Nat :=
  digits.foldl (fun n d => n * base + digitValue d) 0

def newline : Scan Unit := Scan.exactly ['\n'] <|> Scan.exactly ['\r', '\n']

def spaces : Scan Unit := do discard (Scan.many isSpace)

/-! ### Strings -/

/-- Takes `n` hexadecimal digits that number a character. -/
def codePoint (n : Nat) : Scan Char := do
  let digits := (← get).take n
  if digits.length = n && digits.all isHexDigit then
    set ((← get).drop n)
    let code := valueIn 16 digits
    if code.isValidChar then return Char.ofNat code else failure
  else failure

/-- Takes what follows the backslash of an escape. -/
def escaped : Scan Char := do
  match ← Scan.next with
  | 'b' => return Char.ofNat 8
  | 't' => return '\t'
  | 'n' => return '\n'
  | 'f' => return Char.ofNat 12
  | 'r' => return '\r'
  | '"' => return '"'
  | '\\' => return '\\'
  | 'u' => codePoint 4
  | 'U' => codePoint 8
  | _ => failure

def basicChar : Scan Char := do
  let c ← Scan.sat fun c => isPrintable c && c != '"'
  if c == '\\' then escaped else return c

/-- Takes a line end with the blanks before it and all blanks and line ends after it. -/
def foldedLine : Scan Unit := do
  spaces
  newline
  discard (Scan.repeated (discard (Scan.some isSpace) <|> newline))

/-- Takes one piece of a multi-line basic string. -/
def blockBasicPiece : Scan (List Char) :=
  (do newline; return ['\n'])
  <|> (do Scan.char '\\'; foldedLine; return [])
  <|> (do return [← basicChar])

/-- Takes one piece of a multi-line literal string. -/
def blockLiteralPiece : Scan (List Char) :=
  (do newline; return ['\n'])
  <|> (do return [← Scan.sat fun c => isPrintable c && c != '\''])

/-- Takes one or two quotes that do not end a multi-line string. -/
def blockQuotes (quote : Char) : Scan (List Char) := do
  let (quotes, rest) := (← get).span (· == quote)
  if quotes.length ≤ 2 && !quotes.isEmpty && !rest.isEmpty then
    set rest
    return quotes
  else failure

/-- Takes a multi-line string behind its three quotes. A line end right there does not
count, and up to two quotes may stand before the closing ones. -/
def block (quote : Char) (piece : Scan (List Char)) : Scan String := do
  newline <|> pure ()
  let pieces ← Scan.repeated (piece <|> blockQuotes quote)
  let quotes ← Scan.many (· == quote)
  if 3 ≤ quotes.length && quotes.length ≤ 5 then
    return String.ofList (pieces.flatten ++ quotes.drop 3)
  else failure

def lineString : Scan String := do
  match ← Scan.next with
  | '"' => do
    let chars ← Scan.repeated basicChar
    Scan.char '"'
    return String.ofList chars
  | '\'' => do
    let chars ← Scan.many fun c => isPrintable c && c != '\''
    Scan.char '\''
    return String.ofList chars
  | _ => failure

def stringValue : Scan String := do
  if ← Scan.skip? ['"', '"', '"'] then block '"' blockBasicPiece
  else if ← Scan.skip? ['\'', '\'', '\''] then block '\'' blockLiteralPiece
  else lineString

/-! ### Numbers -/

/-- Takes digits of a kind, with single underscores between them. -/
def grouped (kind : Char → Bool) : Scan (List Char) := do
  return (← Scan.separated (Scan.some kind) (Scan.char '_')).flatten

/-- Takes digits of a kind with single underscores between them, of which none may be left
over. -/
def groupedFully (kind : Char → Bool) : Scan (List Char) := do
  let digits ← grouped kind
  if (← Scan.peek?) == some '_' then failure else return digits

/-- Takes a sign; whether it is a minus. -/
def sign : Scan Bool := do
  if ← Scan.skip? ['-'] then return true
  discard (Scan.skip? ['+'])
  return false

/-- Takes the digits of a whole number: no zeros at the front. -/
def wholeDigits : Scan (List Char) := do
  match ← Scan.peek? with
  | some '0' => do discard Scan.next; return ['0']
  | _ => groupedFully Char.isDigit

/-- Takes the digits of an exponent with its sign. -/
def exponent : Scan Int := do
  discard (Scan.sat fun c => c == 'e' || c == 'E')
  let negative ← sign
  let n := valueIn 10 (← groupedFully Char.isDigit)
  return if negative then -(n : Int) else n

/-- Whether `digits · 10^exponent` is too large for a float: it lies halfway beyond the
largest one, or further. -/
def overflows (digits : Nat) (exponent : Int) : Bool :=
  if digits = 0 then false
  else if exponent > 400 then true
  else if exponent < 0 && (toString digits).length < exponent.natAbs then false
  else
    let limit := Nat.pow 2 1024 - Nat.pow 2 970
    if 0 ≤ exponent then limit ≤ digits * Nat.pow 10 exponent.toNat
    else limit * Nat.pow 10 exponent.natAbs ≤ digits

/-- Takes a float. One too large is refused, but only a positive one. -/
def floatValue : Scan Toml := (do
    let negative ← sign
    let whole ← wholeDigits
    let fraction ← (do Scan.char '.'; some <$> groupedFully Char.isDigit) <|> pure none
    let power ← (some <$> exponent) <|> pure none
    if fraction.isNone && power.isNone then failure
    let after := fraction.getD []
    let exponent := power.getD 0 - Int.ofNat after.length
    if !negative && overflows (valueIn 10 (whole ++ after)) exponent then failure
    return .float)
  <|> (do
    discard sign
    Scan.exactly ['i', 'n', 'f'] <|> Scan.exactly ['n', 'a', 'n']
    return .float)

/-- The largest whole number is 2⁶³ - 1, the smallest -2⁶³. -/
def bounded (n : Int) : Scan Toml :=
  if -(Nat.pow 2 63 : Int) ≤ n ∧ n < Nat.pow 2 63 then return .integer n else failure

/-- Takes a whole number. -/
def integerValue : Scan Toml := do
  if ← Scan.skip? ['0', 'x'] then bounded (valueIn 16 (← groupedFully isHexDigit))
  else if ← Scan.skip? ['0', 'o'] then
    bounded (valueIn 8 (← groupedFully fun c => '0' ≤ c && c ≤ '7'))
  else if ← Scan.skip? ['0', 'b'] then
    bounded (valueIn 2 (← groupedFully fun c => c == '0' || c == '1'))
  else do
    let negative ← sign
    let n := valueIn 10 (← wholeDigits)
    bounded (if negative then -(n : Int) else n)

/-! ### Dates -/

/-- Takes `n` digits that make a number within bounds. -/
def fixedDigits (n low high : Nat) : Scan Nat := do
  let digits := (← get).take n
  if digits.length = n && digits.all Char.isDigit then
    set ((← get).drop n)
    let value := valueIn 10 digits
    if low ≤ value && value ≤ high then return value else failure
  else failure

/-- How many days a month has. -/
def daysIn (year month : Nat) : Nat :=
  if month = 2 then
    if year % 4 = 0 && (year % 100 ≠ 0 || year % 400 = 0) then 29 else 28
  else if month = 4 || month = 6 || month = 9 || month = 11 then 30
  else 31

def date : Scan Unit := do
  let year ← fixedDigits 4 0 9999
  Scan.char '-'
  let month ← fixedDigits 2 1 12
  Scan.char '-'
  discard (fixedDigits 2 1 (daysIn year month))

/-- Takes a time of day, which has seconds. -/
def time : Scan Unit := do
  discard (fixedDigits 2 0 23)
  Scan.char ':'
  discard (fixedDigits 2 0 59)
  Scan.char ':'
  discard (fixedDigits 2 0 60)
  if ← Scan.skip? ['.'] then discard (Scan.some Char.isDigit)

/-- Takes a distance from universal time. -/
def offset : Scan Unit :=
  discard (Scan.sat fun c => c == 'Z' || c == 'z')
  <|> (do
    discard (Scan.sat fun c => c == '+' || c == '-')
    discard (fixedDigits 2 0 23)
    Scan.char ':'
    discard (fixedDigits 2 0 59))

/-- Takes a date, a time of day, or both. -/
def dateTimeValue : Scan Toml := (do
    date
    (do
      discard (Scan.sat fun c => c == 'T' || c == 't' || c == ' ')
      time
      offset <|> pure ()) <|> pure ()
    return .dateTime)
  <|> (do time; return .dateTime)

end Precompiler.Toml
