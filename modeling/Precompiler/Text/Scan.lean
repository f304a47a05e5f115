/-! Scanning text.

A scan takes characters from the front of a text and may give up; one that gives up has
taken nothing, so alternatives can be tried in turn. Repetition is bounded by the length
of the text, since every round takes at least one character. -/
namespace Precompiler.Text

/-- A step that reads from the front of a text, or gives up. -/
abbrev Scan := StateT (List Char) Option

namespace Scan

/-- The text that is left. -/
def rest : Scan (List Char) := get

/-- The next character, left in place. -/
def peek? : Scan (Option Char) := do return (← get).head?

def next : Scan Char := do
  match ← get with
  | [] => failure
  | c :: rest => set rest; return c

/-- Takes the next character if it is of a kind. -/
def sat (kind : Char → Bool) : Scan Char := do
  let c ← next
  if kind c then return c else failure

def char (c : Char) : Scan Unit := do discard (sat (· == c))

/-- Takes given characters. -/
def exactly : List Char → Scan Unit
  | [] => pure ()
  | c :: rest => do char c; exactly rest

/-- Takes given characters if they come next, and says whether they did. -/
def skip? (text : List Char) : Scan Bool := do
  if text.isPrefixOf (← get) then
    set ((← get).drop text.length)
    return true
  else return false

def many (kind : Char → Bool) : Scan (List Char) := do
  let (taken, rest) := (← get).span kind
  set rest
  return taken

def some (kind : Char → Bool) : Scan (List Char) := do
  let taken ← many kind
  if taken.isEmpty then failure else return taken

/-- Repeats a scan until it gives up, at most `n` times. -/
def repeatUpTo {α : Type} (scan : Scan α) : Nat → Scan (List α)
  | 0 => return []
  | n + 1 => (do
    let a ← scan
    return a :: (← repeatUpTo scan n)) <|> return []

/-- Repeats a scan until it gives up. -/
def repeated {α : Type} (scan : Scan α) : Scan (List α) := do
  repeatUpTo scan (← get).length

/-- Takes one thing, then as many more as there are separators. -/
def separated {α : Type} (item : Scan α) (separator : Scan Unit) : Scan (List α) := do
  let first ← item
  return first :: (← repeated (do separator; item))

/-- Succeeds at the end of the text. -/
def atEnd : Scan Unit := do
  if (← get).isEmpty then return () else failure

/-- A scan of a whole text. -/
def whole? {α : Type} (scan : Scan α) (text : List Char) : Option α :=
  match scan.run text with
  | .some (a, []) => .some a
  | _ => none

end Scan

end Precompiler.Text
