/-! The tokens of a JSON text.

The text is read byte by byte. What stands in a string is kept as it was written, raw
bytes beside escapes: whether it is text is asked only where the string is used. The same
goes for the size of a number, but not for its form. -/
namespace Precompiler.Json

/-- A piece of a string: a byte as it stands, or the code unit of an escape. -/
inductive Piece where
  | byte (b : UInt8)
  | unit (n : Nat)
  deriving DecidableEq

inductive Token where
  | openArray
  | closeArray
  | openObject
  | closeObject
  | colon
  | comma
  | string (pieces : List Piece)
  /-- A number, or one of the words `null`, `true` and `false`. -/
  | word (text : List Char)

/-- Where in a token the reader stands. The pieces so far come last first. -/
inductive Lexing where
  | between
  | inWord (text : List Char)
  | inString (pieces : List Piece)
  | inEscape (pieces : List Piece)
  | inUnit (pieces : List Piece) (digits value : Nat)

/-- Bytes of numbers and words. -/
def isWordByte (b : UInt8) : Bool :=
  let c := Char.ofNat b.toNat
  ('a' ≤ c && c ≤ 'z') || ('A' ≤ c && c ≤ 'Z') || c.isDigit || c == '+' || c == '-' || c == '.'

def hexValue? (b : UInt8) : Option Nat :=
  let n := b.toNat
  if 48 ≤ n && n ≤ 57 then some (n - 48)
  else if 65 ≤ n && n ≤ 70 then some (n - 55)
  else if 97 ≤ n && n ≤ 102 then some (n - 87)
  else none

/-! ### The form of a number -/

/-- Digits at the front of a text, and the rest. -/
def digitsOf (text : List Char) : List Char × List Char := text.span Char.isDigit

/-- Whether a text is empty or an exponent. -/
def isExponent : List Char → Bool
  | [] => true
  | e :: rest =>
    (e == 'e' || e == 'E') &&
      let digits := match rest with
        | '+' :: r | '-' :: r => r
        | r => r
      !digits.isEmpty && digits.all Char.isDigit

/-- Whether a text is what may follow the whole part of a number. -/
def isFraction : List Char → Bool
  | '.' :: rest => !(digitsOf rest).1.isEmpty && isExponent (digitsOf rest).2
  | rest => isExponent rest

/-- Whether a text is a number without sign: no zeros at the front, and digits on both
sides of the point. -/
def isMagnitude : List Char → Bool
  | '0' :: rest => isFraction rest
  | text => !(digitsOf text).1.isEmpty && isFraction (digitsOf text).2

def isNumber : List Char → Bool
  | '-' :: rest => isMagnitude rest
  | text => isMagnitude text

/-- Whether a text is a number or one of the three words. -/
def isWord (text : List Char) : Bool :=
  text == "null".toList || text == "true".toList || text == "false".toList || isNumber text

/-! ### Reading -/

/-- The token that a byte makes up alone. -/
def markOf (b : UInt8) : Option Token :=
  match Char.ofNat b.toNat with
  | '[' => some .openArray
  | ']' => some .closeArray
  | '\x7b' => some .openObject
  | '\x7d' => some .closeObject
  | ':' => some .colon
  | ',' => some .comma
  | _ => none

/-- Whether a byte may stand between tokens. -/
def isSpace (b : UInt8) : Bool := b == 32 || b == 9 || b == 10 || b == 13

/-- The byte that an escape of one letter stands for. -/
def shortEscape (b : UInt8) : Option UInt8 :=
  match Char.ofNat b.toNat with
  | '"' => some 34
  | '\\' => some 92
  | '/' => some 47
  | 'b' => some 8
  | 'f' => some 12
  | 'n' => some 10
  | 'r' => some 13
  | 't' => some 9
  | _ => none

/-- One byte between tokens. -/
def lexBetween (tokens : List Token) (b : UInt8) : Option (List Token × Lexing) :=
  if isSpace b then some (tokens, .between)
  else if b == 34 then some (tokens, .inString [])
  else if isWordByte b then some (tokens, .inWord [Char.ofNat b.toNat])
  else (markOf b).map fun token => (token :: tokens, .between)

/-- The tokens with a word added, if it is one. -/
def endWord (tokens : List Token) (text : List Char) : Option (List Token) :=
  if isWord text.reverse then some (.word text.reverse :: tokens) else none

def lexByte : List Token × Lexing → UInt8 → Option (List Token × Lexing)
  | (tokens, .between), b => lexBetween tokens b
  | (tokens, .inWord text), b =>
    if isWordByte b then some (tokens, .inWord (Char.ofNat b.toNat :: text))
    else (endWord tokens text).bind (lexBetween · b)
  | (tokens, .inString pieces), b =>
    if b == 34 then some (.string pieces.reverse :: tokens, .between)
    else if b == 92 then some (tokens, .inEscape pieces)
    else if b < 32 then none
    else some (tokens, .inString (.byte b :: pieces))
  | (tokens, .inEscape pieces), b =>
    if b == 117 then some (tokens, .inUnit pieces 0 0)
    else (shortEscape b).map fun c => (tokens, .inString (.byte c :: pieces))
  | (tokens, .inUnit pieces digits value), b =>
    (hexValue? b).map fun d =>
      if digits < 3 then (tokens, .inUnit pieces (digits + 1) (value * 16 + d))
      else (tokens, .inString (.unit (value * 16 + d) :: pieces))

def tokens? (bytes : ByteArray) : Option (List Token) :=
  match bytes.toList.foldlM lexByte ([], .between) with
  | some (tokens, .between) => some tokens.reverse
  | some (tokens, .inWord text) => (endWord tokens text).map List.reverse
  | _ => none

end Precompiler.Json
