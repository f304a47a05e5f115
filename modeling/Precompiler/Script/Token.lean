import Precompiler.Script.Value
import Precompiler.Text.Blank

/-! The tokens of hook scripts.

A script is cut into tokens from left to right, each as long as it can be. A template holds
the tokens of the expressions in it. A minus sign belongs to the number behind it unless a
value stands in front. -/
namespace Precompiler.Script

mutual

inductive Token where
  | int (n : Int)
  | float (x : Float)
  | char (c : Char)
  | string (s : String)
  | template (parts : List TemplatePart)
  /-- A name that scripts may give. -/
  | name (s : String)
  | keyword (s : String)
  | symbol (s : String)

inductive TemplatePart where
  | text (s : String)
  | code (tokens : List Token)

end

namespace Token

/-- The words with a meaning of their own. -/
def keywords : List String :=
  ["true", "false", "let", "const", "if", "else", "switch", "do", "while", "until", "loop", "for",
    "in", "continue", "break", "return", "throw", "try", "catch", "import", "export", "as", "fn",
    "private", "this", "global"]

/-- The words that are kept for the future and that nobody may use. -/
def reservedWords : List String :=
  ["public", "protected", "super", "new", "use", "module", "package", "var", "static", "shared",
    "with", "is", "goto", "match", "case", "default", "void", "null", "nil", "spawn", "thread", "go",
    "sync", "async", "await", "yield"]

/-- The symbols, longest first; some have no meaning and are there to be refused. -/
def symbols : List String :=
  ["..=", "<<=", ">>=", "**=", "===", "!==", "...", "??=", "::<",
    "=>", "==", "!=", "<=", ">=", "&&", "||", "??", "?.", "?[", "..", "+=", "-=", "*=", "/=", "%=",
    "&=", "|=", "^=", "**", "<<", ">>", "::", "#\x7b", "++", "--", "->", "<-", ":=", ":;", "<|", "|>",
    "(*", "*)", "#!", "!.",
    "+", "-", "*", "/", "%", "<", ">", "=", "!", "&", "|", "^", "(", ")", "[", "]", "\x7b", "\x7d",
    ",", ";", ":", ".", "?", "#", "@", "$", "~"]

def isNameStart (c : Char) : Bool := c.isAlpha || c == '_'

def isNameChar (c : Char) : Bool := c.isAlphanum || c == '_'

/-- Whether a word begins with a letter, underscores apart. -/
def startsWithLetter (chars : List Char) : Bool :=
  ((chars.dropWhile (· == '_')).head?.map Char.isAlpha).getD false

def ofWord (chars : List Char) : Token :=
  let word := String.ofList chars
  if keywords.contains word then keyword word
  else if reservedWords.contains word || !startsWithLetter chars then symbol word
  else name word

/-- Whether a text is a name that scripts may give. -/
def isName (text : String) : Bool :=
  match text.toList with
  | [] => false
  | c :: rest =>
    isNameStart c && rest.all isNameChar &&
      match ofWord (c :: rest) with
      | name _ => true
      | _ => false

/-- Whether a minus sign behind a token is an operator between two values. -/
def endsValue : Token → Bool
  | symbol s => s == ")" || s == "]" || s == "\x7d"
  | keyword s => s == "true" || s == "false" || s == "this"
  | _ => true

/-! ### Numbers -/

def digitValue (c : Char) : Nat :=
  if c.isDigit then c.toNat - 48 else if c.toNat ≥ 97 then c.toNat - 87 else c.toNat - 55

def isDigitIn (base : Nat) (c : Char) : Bool :=
  (c.isDigit || ('a' ≤ c && c ≤ 'f') || ('A' ≤ c && c ≤ 'F')) && digitValue c < base

def valueIn (base : Nat) (digits : List Char) : Nat :=
  digits.foldl (fun n c => n * base + digitValue c) 0

/-- Digits with underscores between or behind them; the digits, and the rest. -/
def digitsIn (base : Nat) (text : List Char) : List Char × List Char :=
  let (taken, rest) := text.span fun c => isDigitIn base c || c == '_'
  (taken.filter (· != '_'), rest)

/-- The base that the letter behind a leading zero announces. -/
def baseOf (c : Char) : Option Nat :=
  match c with
  | 'x' | 'X' => some 16
  | 'o' | 'O' => some 8
  | 'b' | 'B' => some 2
  | _ => none

/-- Digits behind a point, if what follows the digits so far is the point of a float: digits
must follow it, or something that cannot begin a name. -/
def fractionOf (text : List Char) : Option (List Char × List Char) :=
  match text with
  | '.' :: c :: rest =>
    if c.isDigit then some (digitsIn 10 (c :: rest))
    else if c == '_' || c == '.' || isNameStart c then none
    else some ([], c :: rest)
  | _ => none

/-- An exponent with its sign. -/
def exponentOf (text : List Char) : Option (Int × List Char) :=
  match text with
  | e :: rest =>
    if e != 'e' then none
    else
      let (isNegative, digits) := match rest with
        | '-' :: digits => (true, digits)
        | '+' :: digits => (false, digits)
        | digits => (false, digits)
      if (digits.head?.map Char.isDigit).getD false then
        let (exponent, rest) := digitsIn 10 digits
        let n : Int := valueIn 10 exponent
        some (if isNegative then -n else n, rest)
      else none
  | [] => none

/-- The float with given digits and exponent. -/
def floatOf (isNegative : Bool) (whole fraction : List Char) (exponent : Int) : Float :=
  let e := exponent - fraction.length
  let m := valueIn 10 (whole ++ fraction)
  let x :=
    if e > 400 ∧ m ≠ 0 then Float.ofScientific 1 false 400
    else if e < -100000 then 0
    else Float.ofScientific m (decide (e < 0)) e.natAbs
  if isNegative then -x else x

/-- A number. A whole number that is too large becomes a float. -/
def number (isNegative : Bool) (text : List Char) : Option (Token × List Char) :=
  let based := match text with
    | '0' :: c :: rest => (baseOf c).map fun base => (base, rest)
    | _ => none
  match based with
  | some (base, rest) =>
    let (digits, rest) := digitsIn base rest
    let n := valueIn base digits
    if digits.isEmpty || n ≥ Nat.pow 2 64 then none
    else
      let signed : Int := if n < Nat.pow 2 63 then n else (n : Int) - Nat.pow 2 64
      some (int (if isNegative then -signed else signed), rest)
  | none =>
    let (whole, rest) := digitsIn 10 text
    let (fraction?, rest) := match fractionOf rest with
      | some (fraction, rest) => (some fraction, rest)
      | none => (none, rest)
    let (exponent?, rest) := match exponentOf rest with
      | some (exponent, rest) => (some exponent, rest)
      | none => (none, rest)
    let n : Int := valueIn 10 whole
    let signed := if isNegative then -n else n
    if fraction?.isNone && exponent?.isNone && Value.minInt ≤ signed && signed ≤ Value.maxInt then
      some (int signed, rest)
    else
      some (float (floatOf isNegative whole (fraction?.getD []) (exponent?.getD 0)), rest)

/-! ### Text -/

def codePoint (n : Nat) : Option Char :=
  if n < 0xD800 || (0xDFFF < n && n < 0x110000) then some (Char.ofNat n) else none

/-- The character that an escape of so many hexadecimal digits stands for. -/
def hexEscape (count : Nat) (text : List Char) : Option (Char × List Char) :=
  let digits := text.take count
  if digits.length == count && digits.all (isDigitIn 16) then
    (codePoint (valueIn 16 digits)).map (·, text.drop count)
  else none

/-- The character that an escape behind its backslash stands for; of the quotes, only the one
around the text has an escape. -/
def escape (quote : Char) (text : List Char) : Option (Char × List Char) :=
  match text with
  | 't' :: rest => some ('\t', rest)
  | 'n' :: rest => some ('\n', rest)
  | 'r' :: rest => some ('\r', rest)
  | '\\' :: rest => some ('\\', rest)
  | 'x' :: rest => hexEscape 2 rest
  | 'u' :: rest => hexEscape 4 rest
  | 'U' :: rest => hexEscape 8 rest
  | c :: rest => if c == quote then some (c, rest) else none
  | [] => none

/-- The characters up to a closing quote, last one first. A doubled quote is a quote, and a
backslash at the end of a line joins it with the next one. -/
def quotedText (quote : Char) : Nat → List Char → List Char → Option (List Char × List Char)
  | 0, _, _ => none
  | n + 1, done, text =>
    match text with
    | [] => none
    | '\n' :: _ => none
    | '\\' :: '\n' :: rest => quotedText quote n done (rest.dropWhile Text.isBlank)
    | '\\' :: '\r' :: '\n' :: rest => quotedText quote n done (rest.dropWhile Text.isBlank)
    | '\\' :: rest =>
      match escape quote rest with
      | some (c, rest) => quotedText quote n (c :: done) rest
      | none => none
    | c :: rest =>
      if c == quote then
        match rest with
        | d :: rest' => if d == quote then quotedText quote n (c :: done) rest' else some (done, rest)
        | [] => some (done, rest)
      else quotedText quote n (c :: done) rest

/-- What follows a comment between its two marks, which nest. -/
def afterComment : Nat → Nat → List Char → List Char
  | 0, _, text => text
  | n + 1, depth, text =>
    match text with
    | '*' :: '/' :: rest => if depth ≤ 1 then rest else afterComment n (depth - 1) rest
    | '/' :: '*' :: rest => afterComment n (depth + 1) rest
    | _ :: rest => afterComment n depth rest
    | [] => []

/-! ### Tokens -/

/-- The symbol at the front of a text. -/
def symbolAt (text : List Char) : Option (Token × List Char) :=
  let isWordIn := match text with
    | '!' :: 'i' :: 'n' :: c :: _ => !isNameChar c
    | ['!', 'i', 'n'] => true
    | _ => false
  if isWordIn then some (symbol "!in", text.drop 3)
  else (symbols.find? fun s => s.toList.isPrefixOf text).map fun s => (symbol s, text.drop s.length)

/-- The token at the front of a text, which begins with neither a blank nor a comment nor a
template. -/
def tokenAt (last : Option Token) (text : List Char) : Option (Token × List Char) :=
  match text with
  | '"' :: rest =>
    (quotedText '"' (rest.length + 1) [] rest).map fun (chars, rest) =>
      (string (String.ofList chars.reverse), rest)
  | '\'' :: rest =>
    match quotedText '\'' (rest.length + 1) [] rest with
    | some ([c], rest) => some (char c, rest)
    | _ => none
  | '-' :: c :: rest =>
    if c.isDigit && !(last.map endsValue).getD false then number true (c :: rest)
    else symbolAt text
  | c :: _ =>
    if c.isDigit then number false text
    else if isNameStart c then
      let (word, rest) := text.span isNameChar
      some (ofWord word, rest)
    else symbolAt text
  | [] => none

/-- A template without expressions is a string. -/
def ofParts : List TemplatePart → Token
  | [] => string ""
  | [.text s] => string s
  | parts => template parts

/-- Parts of a template with one more piece of text. -/
def addText (chars : List Char) (parts : List TemplatePart) : List TemplatePart :=
  if chars.isEmpty then parts else .text (String.ofList chars.reverse) :: parts

mutual

/-- The tokens of a text, last one first. Within a template they end at the brace that
closes the expression; `braces` are those open within it. -/
def tokensWithin : Nat → Bool → Nat → List Token → List Char → Option (List Token × List Char)
  | 0, _, _, _, _ => none
  | n + 1, inTemplate, braces, done, text =>
    match text with
    | [] => if inTemplate then none else some (done, [])
    | '/' :: '/' :: rest =>
      tokensWithin n inTemplate braces done (rest.dropWhile fun c => c != '\n' && c != '\r')
    | '/' :: '*' :: rest => tokensWithin n inTemplate braces done (afterComment rest.length 1 rest)
    | '\x60' :: rest =>
      let rest := match rest with
        | '\n' :: rest => rest
        | '\r' :: '\n' :: rest => rest
        | rest => rest
      match partsWithin n [] [] rest with
      | some (parts, rest) => tokensWithin n inTemplate braces (ofParts parts.reverse :: done) rest
      | none => none
    | c :: rest =>
      if Text.isBlank c then tokensWithin n inTemplate braces done rest
      else if inTemplate && braces == 0 && c == '\x7d' then some (done, rest)
      else
        match tokenAt done.head? text with
        | none => none
        | some (token, rest) =>
          let braces := match token with
            | symbol "\x7b" | symbol "#\x7b" => braces + 1
            | symbol "\x7d" => braces - 1
            | _ => braces
          tokensWithin n inTemplate braces (token :: done) rest

/-- The parts of a template, last one first; `chars` is the text under way. -/
def partsWithin : Nat → List Char → List TemplatePart → List Char →
    Option (List TemplatePart × List Char)
  | 0, _, _, _ => none
  | n + 1, chars, parts, text =>
    match text with
    | [] => none
    | '\x60' :: '\x60' :: rest => partsWithin n ('\x60' :: chars) parts rest
    | '\x60' :: rest => some (addText chars parts, rest)
    | '$' :: '\x7b' :: rest =>
      match tokensWithin n true 0 [] rest with
      | some (tokens, rest) => partsWithin n [] (.code tokens.reverse :: addText chars parts) rest
      | none => none
    | c :: rest => partsWithin n (c :: chars) parts rest

end

/-- The tokens of a script, if it is made of tokens. -/
def ofText? (text : String) : Option (List Token) :=
  (tokensWithin (2 * text.length + 2) false 0 [] text.toList).map fun (tokens, _) => tokens.reverse

end Token

end Precompiler.Script
