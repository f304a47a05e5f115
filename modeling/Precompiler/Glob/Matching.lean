import Precompiler.Glob.Pattern

/-! Matching.

A pattern is run over a text from left to right. At each point the run keeps the set of
places that it may have reached, one truth value for every place between two bytes, from
before the first to behind the last. -/
namespace Precompiler.Glob

/-- A set of places in a text. -/
abbrev Places := List Bool

/-- The places one byte further on, over bytes of a kind. -/
def step (kind : UInt8 → Bool) (text : List UInt8) (places : Places) : Places :=
  false :: List.zipWith (fun here b => here && kind b) places text

/-- All places from the first one on. -/
def onward (places : Places) : Places := go false places
where
  go (reached : Bool) : Places → Places
    | [] => []
    | here :: rest => (reached || here) :: go (reached || here) rest

def union (a b : Places) : Places := List.zipWith (· || ·) a b

def isSeparator (b : UInt8) : Bool := b == 47

/-- The ranges of single bytes that make up a range of characters. Of characters with
several bytes, each byte is a member of its own. -/
def byteRanges (low high : Char) : List (UInt8 × UInt8) :=
  let lows := (String.singleton low).toUTF8.toList
  let highs := (String.singleton high).toUTF8.toList
  if low == high then lows.map fun b => (b, b)
  else
    match lows.getLast?, highs with
    | some a, b :: rest => lows.dropLast.map (fun b => (b, b)) ++ (a, b) :: rest.map fun b => (b, b)
    | _, _ => []

def inClass (ranges : List (Char × Char)) (b : UInt8) : Bool :=
  ranges.any fun (low, high) => (byteRanges low high).any fun (a, z) => a ≤ b && b ≤ z

/-- Whether a sequence of pieces is nothing at all. -/
def isNothing (pieces : List Piece) : Bool := (sequenceNesting pieces).parts == 0

mutual

/-- The places behind a piece. -/
def Piece.run (text : List UInt8) : Piece → Places → Places
  | .literal c, places =>
    (String.singleton c).toUTF8.toList.foldl (fun places b => step (· == b) text places) places
  | .any, places => step (fun _ => true) text places
  | .star, places => onward places
  | .leading, places => union places (step isSeparator text (onward places))
  | .trailing, places => onward (step isSeparator text places)
  | .middle, places =>
    let below := step isSeparator text places
    union below (step isSeparator text (onward below))
  | .oneOf negated ranges, places => step (fun b => inClass ranges b != negated) text places
  | .choice branches, places =>
    if (branchNesting branches).parts = 0 then places
    else runBranches text branches places

/-- The places behind a sequence of pieces. -/
def runSequence (text : List UInt8) : List Piece → Places → Places
  | [], places => places
  | piece :: rest, places => runSequence text rest (piece.run text places)

/-- The places behind any of some branches; those that are nothing do not count. -/
def runBranches (text : List UInt8) : List (List Piece) → Places → Places
  | [], places => places.map fun _ => false
  | branch :: rest, places =>
    let others := runBranches text rest places
    if isNothing branch then others else union (runSequence text branch places) others

end

def Pattern.isMatch (pattern : Pattern) (text : List UInt8) : Bool :=
  match pattern with
  | [.leading] => true
  | _ => ((runSequence text pattern (true :: text.map fun _ => false)).getLast?).getD false

end Precompiler.Glob
