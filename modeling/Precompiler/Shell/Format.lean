import Precompiler.Shell.Numeral

/-! Formatted text: escapes, and formats with directives for arguments. -/
namespace Precompiler.Shell

/-! ### Escapes -/

/-- The value of up to `n` octal digits at the front of a text, and the rest. -/
def octal : Nat → Nat → Text → Nat × Text
  | 0, value, text => (value, text)
  | n + 1, value, text =>
    match text with
    | c :: rest => if '0' ≤ c && c ≤ '7' then octal n (value * 8 + (c.toNat - 48)) rest else (value, text)
    | [] => (value, text)

/-- What an escape after its backslash stands for, and the rest. -/
def escapeAt (text : Text) : Text × Text :=
  match text with
  | [] => (['\\'], [])
  | c :: rest =>
    match c with
    | 'n' => (['\n'], rest)
    | 't' => (['\t'], rest)
    | 'r' => (['\r'], rest)
    | 'a' => (['\x07'], rest)
    | 'b' => (['\x08'], rest)
    | 'f' => (['\x0c'], rest)
    | 'v' => (['\x0b'], rest)
    | 'e' => (['\x1b'], rest)
    | '\\' => (['\\'], rest)
    | c =>
      if '0' ≤ c && c ≤ '7' then
        let (value, rest) := octal 3 0 (c :: rest)
        ([Char.ofNat (value % 256)], rest)
      else (['\\', c], rest)

/-- A text with its escapes replaced. A zero in front of octal digits is not one of them, and
`\c` ends the text. -/
def unescape : Nat → Text → Text
  | 0, text => text
  | n + 1, text =>
    match text.span (· != '\\') with
    | (plain, []) => plain
    | (plain, _ :: 'c' :: _) => plain
    | (plain, _ :: '0' :: rest) =>
      let (value, rest) := octal 3 0 rest
      plain ++ Char.ofNat (value % 256) :: unescape n rest
    | (plain, _ :: rest) =>
      let (chars, rest) := escapeAt rest
      plain ++ chars ++ unescape n rest

/-! ### Formatted text -/

/-- The layout of a directive: its flags, its width, and its precision. -/
structure Directive where
  flags : Text
  width : Nat
  precision : Option Nat

/-- The directive behind a percent sign, up to its letter. -/
def Directive.read (text : Text) : Directive × Text :=
  let (flags, text) := text.span fun c => c == '-' || c == '0' || c == '+' || c == ' ' || c == '#'
  let (width, text) := text.span Char.isDigit
  let number (digits : Text) : Nat := (intOf digits).toNat
  match text with
  | '.' :: text =>
    let (precision, text) := text.span Char.isDigit
    (⟨flags, number width, some (number precision)⟩, text)
  | text => (⟨flags, number width, none⟩, text)

/-- The number that an argument gives: in digits of some base, or the code of the character
behind a quote. -/
def argumentNumber (argument : Text) : Int :=
  match argument with
  | '\'' :: c :: _ | '"' :: c :: _ => c.toNat
  | argument => numberOf argument

def Directive.apply (d : Directive) (letter : Char) (argument : Text) : Text :=
  let digits (base : Nat) : Text :=
    let n := argumentNumber argument
    let digits := Nat.toDigits base (if n < 0 then Nat.pow 2 64 - n.natAbs else n.toNat)
    if d.flags.contains '#' && base == 16 then '0' :: 'x' :: digits
    else if d.flags.contains '#' && base == 8 then '0' :: digits else digits
  let short (text : Text) : Text := text.take (d.precision.getD text.length)
  let text : Text := match letter with
    | 's' => short argument
    | 'b' => short (unescape argument.length argument)
    | 'c' => argument.take 1
    | 'x' => digits 16
    | 'X' => (digits 16).map Char.toUpper
    | 'o' => digits 8
    | 'u' => digits 10
    | _ =>
      let n := argumentNumber argument
      let sign : Text := if n < 0 then ['-'] else if d.flags.contains '+' then ['+']
        else if d.flags.contains ' ' then [' '] else []
      let digits := natText n.natAbs
      sign ++ List.replicate ((d.precision.getD 1) - digits.length) '0' ++ digits
  let missing := d.width - text.length
  if d.flags.contains '-' then text ++ List.replicate missing ' '
  else if d.flags.contains '0' && letter != 's' && letter != 'b' && letter != 'c' then
    match text with
    | '-' :: digits => '-' :: List.replicate missing '0' ++ digits
    | text => List.replicate missing '0' ++ text
  else List.replicate missing ' ' ++ text

/-- Whether a directive's letter asks for a number. -/
def wantsNumber (letter : Char) : Bool := "diouxX".toList.contains letter

/-- One pass of a format over arguments: the text, the arguments left over, and those that
should have been numbers. -/
def formatOnce : Nat → Text → List Text → Text × List Text × List Text
  | 0, _, arguments => ([], arguments, [])
  | n + 1, format, arguments =>
    match format with
    | [] => ([], arguments, [])
    | '\\' :: rest =>
      let (chars, rest) := escapeAt rest
      let (text, left, faults) := formatOnce n rest arguments
      (chars ++ text, left, faults)
    | '%' :: '%' :: rest =>
      let (text, left, faults) := formatOnce n rest arguments
      ('%' :: text, left, faults)
    | '%' :: rest =>
      let (directive, rest) := Directive.read rest
      match rest with
      | [] => (['%'], arguments, [])
      | letter :: rest =>
        let argument := arguments.headD []
        let (text, left, faults) := formatOnce n rest (arguments.drop 1)
        let isFault := wantsNumber letter && !arguments.isEmpty && !isNumeral argument
        (directive.apply letter argument ++ text, left, if isFault then argument :: faults else faults)
    | c :: rest =>
      let (text, left, faults) := formatOnce n rest arguments
      (c :: text, left, faults)

/-- A format is used again as long as there are arguments, at most `n` times: the text, and the
arguments that should have been numbers. -/
def formatAll : Nat → Text → List Text → Text × List Text
  | 0, _, _ => ([], [])
  | n + 1, format, arguments =>
    let (text, left, faults) := formatOnce format.length format arguments
    if left.isEmpty || left.length == arguments.length then (text, faults)
    else
      let (more, others) := formatAll n format left
      (text ++ more, faults ++ others)

end Precompiler.Shell
