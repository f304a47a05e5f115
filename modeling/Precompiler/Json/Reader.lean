import Precompiler.Json.Lexer
import Precompiler.Json.Value

/-! JSON texts read.

Reading has two stages. The first finds the *outline* of a text: how its tokens nest. It
asks nothing of strings and numbers but their form, and nesting may be of any depth. The
second makes values of outlines. There a string must be text, a number must fit into a
float, and nesting is limited. A reader that skips a part of a text therefore takes in
that part what it would refuse elsewhere. -/
namespace Precompiler.Json

/-- How the tokens of a text nest. -/
inductive Outline where
  | word (text : List Char)
  | string (pieces : List Piece)
  | array (elements : List Outline)
  | object (fields : List (List Piece × Outline))
  deriving Inhabited

/-! ### From tokens to an outline -/

/-- An array or object under way, its members last first. -/
inductive Frame where
  | array (elements : List Outline)
  | object (fields : List (List Piece × Outline)) (name : List Piece)

/-- What may come next. -/
inductive Expected where
  | value
  | elementOrClose
  | nameOrClose (fields : List (List Piece × Outline))
  | name (fields : List (List Piece × Outline))
  | colon (fields : List (List Piece × Outline)) (name : List Piece)
  /-- After the last member so far of the innermost array or object. -/
  | commaOrClose
  | nothing (whole : Outline)

/-- A text read so far: the arrays and objects around the place, innermost first. -/
structure Nesting where
  around : List Frame
  expected : Expected

/-- The place after a value. -/
def Nesting.close (around : List Frame) (value : Outline) : Nesting :=
  match around with
  | [] => ⟨[], .nothing value⟩
  | .array elements :: outer => ⟨.array (value :: elements) :: outer, .commaOrClose⟩
  | .object fields name :: outer => ⟨.object ((name, value) :: fields) [] :: outer, .commaOrClose⟩

/-- The place after the token with which a value begins. -/
def Nesting.begin (around : List Frame) : Token → Option Nesting
  | .word text => some (close around (.word text))
  | .string pieces => some (close around (.string pieces))
  | .openArray => some ⟨.array [] :: around, .elementOrClose⟩
  | .openObject => some ⟨around, .nameOrClose []⟩
  | _ => none

def Nesting.step (n : Nesting) (token : Token) : Option Nesting :=
  match n.expected, token, n.around with
  | .value, _, around => begin around token
  | .elementOrClose, .closeArray, .array _ :: outer => some (close outer (.array []))
  | .elementOrClose, _, around => begin around token
  | .nameOrClose _, .closeObject, outer => some (close outer (.object []))
  | .nameOrClose fields, .string name, outer => some ⟨outer, .colon fields name⟩
  | .name fields, .string name, outer => some ⟨outer, .colon fields name⟩
  | .colon fields name, .colon, outer => some ⟨.object fields name :: outer, .value⟩
  | .commaOrClose, .comma, .array elements :: outer => some ⟨.array elements :: outer, .value⟩
  | .commaOrClose, .comma, .object fields _ :: outer => some ⟨outer, .name fields⟩
  | .commaOrClose, .closeArray, .array elements :: outer =>
    some (close outer (.array elements.reverse))
  | .commaOrClose, .closeObject, .object fields _ :: outer =>
    some (close outer (.object fields.reverse))
  | _, _, _ => none

def outline? (bytes : ByteArray) : Option Outline :=
  match (tokens? bytes).bind fun tokens => tokens.foldlM Nesting.step ⟨[], .value⟩ with
  | some ⟨_, .nothing whole⟩ => some whole
  | _ => none

/-! ### Strings -/

/-- The UTF-8 bytes of a code point added to some bytes. -/
def pushCode (bytes : ByteArray) (n : Nat) : ByteArray :=
  bytes ++ (String.singleton (Char.ofNat n)).toUTF8

/-- The bytes of a string. Two escapes may make up one character together; half of such a
pair is no text. -/
def stringBytes? (bytes : ByteArray) : List Piece → Option ByteArray
  | [] => some bytes
  | .byte b :: rest => stringBytes? (bytes.push b) rest
  | .unit high :: rest =>
    if high < 0xD800 ∨ 0xDFFF < high then stringBytes? (pushCode bytes high) rest
    else if 0xDBFF < high then none
    else
      match rest with
      | .unit low :: rest =>
        if 0xDC00 ≤ low ∧ low ≤ 0xDFFF then
          stringBytes? (pushCode bytes (0x10000 + (high - 0xD800) * 1024 + (low - 0xDC00))) rest
        else none
      | _ => none

/-- The text of a string, if it is text. -/
def string? (pieces : List Piece) : Option String :=
  (stringBytes? ByteArray.empty pieces).bind String.fromUTF8?

/-! ### Numbers -/

/-- Digits are taken into a number as long as it stays below 2⁶⁴; the number, and how
many digits are left over. -/
def significand (n : Nat) : List Char → Nat × Nat
  | [] => (n, 0)
  | d :: rest =>
    let next := n * 10 + (d.toNat - 48)
    if next < Nat.pow 2 64 then significand next rest else (n, rest.length + 1)

/-- `f · 10^exponent`, one multiplication or division by a power of ten at a time. -/
def scale : Nat → Float → Int → Option Float
  | 0, f, _ => some f
  | n + 1, f, exponent =>
    if exponent.natAbs ≤ 308 then
      let power := Float.ofScientific 1 false exponent.natAbs
      if 0 ≤ exponent then
        if (f * power).isInf then none else some (f * power)
      else some (f / power)
    else if f == 0 then some f
    else if 0 ≤ exponent then none
    else scale n (f / Float.ofScientific 1 false 308) (exponent + 308)

def decimalValue (digits : List Char) : Nat :=
  digits.foldl (fun n d => n * 10 + (d.toNat - 48)) 0

/-- The value of an exponent's digits behind its mark and sign. -/
def exponentOf : List Char → Int
  | [] => 0
  | _ :: '-' :: digits => -Int.ofNat (decimalValue digits)
  | _ :: '+' :: digits => Int.ofNat (decimalValue digits)
  | _ :: digits => Int.ofNat (decimalValue digits)

/-- The float of a number without sign, given by the digits before the point, those after
it, and the exponent with its mark. Digits beyond the significand count only by their
place. -/
def magnitude? (whole fraction exponent : List Char) : Option Float :=
  let (n, dropped) := significand 0 whole
  let (n, unread) := significand n fraction
  let power := exponentOf exponent
  if power.natAbs < Nat.pow 2 31 then
    scale 8 n.toUInt64.toFloat (dropped - Int.ofNat (fraction.length - unread) + power)
  else if n ≠ 0 ∧ 0 < power then none
  else some 0

/-- The value of a number: a whole one is exact from -2⁶³ up to 2⁶⁴. -/
def number? (text : List Char) : Option Json :=
  let (negative, magnitude) := match text with
    | '-' :: rest => (true, rest)
    | rest => (false, rest)
  let (whole, rest) := digitsOf magnitude
  let (fraction, exponent) := match rest with
    | '.' :: rest => digitsOf rest
    | rest => ([], rest)
  let n := decimalValue whole
  if rest.isEmpty && !negative && n < Nat.pow 2 64 then some (.int n)
  else if rest.isEmpty && negative && 0 < n && n ≤ Nat.pow 2 63 then some (.int (-(n : Int)))
  else (magnitude? whole fraction exponent).map fun f => .float (if negative then -f else f)

def word? (text : List Char) : Option Json :=
  if text == "null".toList then some .null
  else if text == "true".toList then some (.bool true)
  else if text == "false".toList then some (.bool false)
  else number? text

/-! ### Values -/

/-- The value of an outline, if it nests at most so many arrays and objects. -/
def ofOutline? : Nat → Outline → Option Json
  | _, .word text => word? text
  | _, .string pieces => (string? pieces).map .str
  | 0, _ => none
  | n + 1, .array elements => (elements.mapM (ofOutline? n)).map .arr
  | n + 1, .object fields =>
    (fields.mapM fun (name, value) => do
      let name ← string? name
      let value ← ofOutline? n value
      pure (name, value)).map ofFields

/-- Values may nest as many arrays and objects. -/
def maxDepth : Nat := 127

def parse? (bytes : ByteArray) : Option Json := (outline? bytes).bind (ofOutline? maxDepth)

end Precompiler.Json
