import Precompiler.Shell.Numeral

/-! Texts as lines, and what is done with all the lines of a text. -/
namespace Precompiler.Shell

/-- The lines of a text; the last one may lack its end. -/
def linesOf (text : Text) : List Text × Bool :=
  match (text.splitOn '\n').reverse with
  | [] => ([], true)
  | [] :: before => (before.reverse, true)
  | last :: before => ((last :: before).reverse, false)

def ofLines (lines : List Text) (isEnded : Bool) : Text :=
  if lines.isEmpty then [] else ['\n'].intercalate lines ++ (if isEnded then ['\n'] else [])

/-! ### Parts of lines -/

/-- The ranges of numbers in a list such as `1,3-5`. -/
def numberRanges (text : Text) : List (Nat × Option Nat) :=
  (text.splitOn ',').map fun item =>
    match item.splitOn '-' with
    | [[], high] => (1, some (intOf high).toNat)
    | [low, []] => ((intOf low).toNat, none)
    | low :: high :: _ => ((intOf low).toNat, some (intOf high).toNat)
    | _ => ((intOf item).toNat, some (intOf item).toNat)

/-- The things of a list whose numbers lie in ranges. -/
def pickRanges {α : Type} (ranges : List (Nat × Option Nat)) (things : List α) : List α :=
  (things.zipIdx.filter fun (_, i) =>
    ranges.any fun (low, high) => low ≤ i + 1 && high.all (i + 1 ≤ ·)).map (·.1)

def sortTexts (texts : List Text) : List Text := texts.mergeSort fun a b => !b.lex a fun c d => c < d

/-- Texts with repetitions in a row counted. -/
def countRows : List Text → List (Nat × Text)
  | [] => []
  | t :: rest =>
    match countRows rest with
    | (n, u) :: others => if t == u then (n + 1, u) :: others else (1, t) :: (n, u) :: others
    | [] => [(1, t)]

/-! ### Ends and counts -/

/-- The first lines or characters of a text, and the rest. -/
def splitHead (kind : Char) (count : Nat) (text : Text) : Text × Text :=
  if kind == 'c' then text.splitAt count
  else
    let (lines, isEnded) := linesOf text
    if lines.length ≤ count then (text, [])
    else (ofLines (lines.take count) true, ofLines (lines.drop count) isEnded)

/-- The last lines or characters of a text. -/
def tailPart (kind : Char) (count : Nat) (isFromStart : Bool) (text : Text) : Text :=
  let size := if kind == 'c' then text.length else (linesOf text).1.length
  (splitHead kind (if isFromStart then count - 1 else size - count) text).2

def countWords (text : Text) : Nat :=
  ((text.splitOnP fun c => isBlank c || c == '\n').filter (· != [])).length

/-- The numbers that `seq` writes. -/
def numbersFrom (low step high : Int) : List Int :=
  if step == 0 then []
  else
    let count := if step > 0 then (high - low) / step else (low - high) / (-step)
    if (step > 0 && high < low) || (step < 0 && low < high) then []
    else (List.range (min count.toNat 100000 + 1)).map fun (i : Nat) => low + step * i

end Precompiler.Shell
