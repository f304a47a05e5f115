import Precompiler.Failure
import Precompiler.Text.Blank

/-! Charsets.

Templates are read, and modules written, in UTF-8 or in Latin-1. Reading is strict: bytes
that are no text in the charset are refused, and so is a text with a character that the
charset does not have. A byte order mark is a character like any other. -/
namespace Precompiler

/-- The supported charsets. -/
inductive Charset where
  | utf8
  | latin1
  deriving Repr, DecidableEq

namespace Charset

/-- The name by which a charset is shown. -/
def name : Charset → String
  | utf8 => "utf-8"
  | latin1 => "latin1"

/-- The spellings under which a charset is known, in small letters. -/
def spellings : Charset → List String
  | utf8 => ["utf-8", "utf8"]
  | latin1 => ["latin1", "latin-1", "iso-8859-1", "iso8859-1"]

/-- The charset with a given name, in letters of either case. -/
def ofName (name : String) : Except Failure Charset :=
  if utf8.spellings.contains (Text.lower name) then .ok utf8
  else if latin1.spellings.contains (Text.lower name) then .ok latin1
  else .error (.unsupportedCharset name)

/-- The text of bytes, if they are text in the charset. -/
def decode? : Charset → ByteArray → Option String
  | utf8, bytes => String.fromUTF8? bytes
  | latin1, bytes => some (String.ofList (bytes.toList.map fun b => Char.ofNat b.toNat))

/-- The byte of a character of Latin-1. -/
def latin1Byte? (c : Char) : Option UInt8 :=
  if c.toNat < 256 then some (UInt8.ofNat c.toNat) else none

/-- The bytes of a text, if the charset has all its characters. -/
def encode? : Charset → String → Option ByteArray
  | utf8, text => some text.toUTF8
  | latin1, text => (text.toList.mapM latin1Byte?).map List.toByteArray

/-- The text of the bytes at a path. -/
def decode (charset : Charset) (bytes : ByteArray) (path : String) : Except Failure String :=
  match charset.decode? bytes with
  | some text => .ok text
  | none => .error (.encoding "decode" path charset.name)

/-- The bytes of a text that is meant for a path. -/
def encode (charset : Charset) (text : String) (path : String) : Except Failure ByteArray :=
  match charset.encode? text with
  | some bytes => .ok bytes
  | none => .error (.encoding "encode" path charset.name)

end Charset

end Precompiler
