import Precompiler.Text.Visible

/-! Texts between quotes, for the log.

A quoted text fits on one line and can be read back: quotes, backslashes and line ends are
escaped, and so is every character that would not show. The text of a path is quoted in
the same way but escapes the single quote too. -/
namespace Precompiler.Text

def hex (n : Nat) : List Char := Nat.toDigits 16 n

/-- How a character stands between quotes; `escaped` are quotes that need a backslash. -/
def quotedChar (escaped : List Char) (c : Char) : List Char :=
  if c == '\x00' then ['\\', '0']
  else if c == '\t' then ['\\', 't']
  else if c == '\n' then ['\\', 'n']
  else if c == '\r' then ['\\', 'r']
  else if c == '\\' || escaped.contains c then ['\\', c]
  else if isVisible c then [c]
  else "\\u\x7b".toList ++ hex c.toNat ++ ['\x7d']

def quoted (s : String) : String :=
  "\"" ++ String.ofList (s.toList.flatMap (quotedChar ['"'])) ++ "\""

def quotedPath (path : String) : String :=
  "\"" ++ String.ofList (path.toList.flatMap (quotedChar ['"', '\''])) ++ "\""

end Precompiler.Text
