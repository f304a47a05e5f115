/-! Glob patterns.

A pattern is matched against the bytes of a path. A question mark stands for any one byte
and a star for any number of them, separators included; two stars between separators
stand for any number of whole directories. Braces hold alternatives. -/
namespace Precompiler.Glob

inductive Piece where
  | literal (c : Char)
  /-- Any byte. -/
  | any
  /-- Any bytes. -/
  | star
  /-- At the front: nothing, or directories with the separator after them. -/
  | leading
  /-- At the end: a separator and anything. -/
  | trailing
  /-- Between two parts: a separator, with or without directories and another one. -/
  | middle
  /-- One byte out of a class, or one that is not in it. -/
  | oneOf (negated : Bool) (ranges : List (Char × Char))
  | choice (branches : List (List Piece))
  deriving Inhabited

abbrev Pattern := List Piece

/-! ### Reading classes -/

/-- A class read so far, its ranges last first. -/
structure ClassDraft where
  ranges : List (Char × Char)
  /-- Whether nothing has been read yet. -/
  isFirst : Bool
  /-- Whether a hyphen waits for the end of its range. -/
  inRange : Bool

/-- The class with the end of the last range set; a range must not run backwards. -/
def ClassDraft.extend (draft : ClassDraft) (c : Char) : Option ClassDraft :=
  match draft.ranges with
  | (low, _) :: before => if c < low then none else some ⟨(low, c) :: before, false, false⟩
  | [] => none

/-- The class with one more character. -/
def ClassDraft.add (draft : ClassDraft) (c : Char) : Option ClassDraft :=
  if draft.inRange then draft.extend c
  else if c == '-' && !draft.isFirst then some { draft with inRange := true }
  else some ⟨(c, c) :: draft.ranges, false, false⟩

/-- Reads a class up to its bracket: its ranges, and the text behind it. A bracket that
comes first is a member, and so is a hyphen at either end. -/
def readClass : ClassDraft → List Char → Option (List (Char × Char) × List Char)
  | _, [] => none
  | draft, c :: rest =>
    if c == ']' && !draft.isFirst then
      let ranges := if draft.inRange then ('-', '-') :: draft.ranges else draft.ranges
      some (ranges.reverse, rest)
    else
      match draft.add c with
      | some draft => readClass draft rest
      | none => none

/-! ### Reading patterns -/

/-- A group of alternatives under way: what stood before it, and its finished branches,
each last first. -/
structure Group where
  before : Pattern
  finished : List Pattern

/-- A pattern read so far: the groups around the place, innermost first, the pieces of the
branch under way, last first, and the character before the place. -/
structure Draft where
  groups : List Group
  pieces : Pattern
  previous : Option Char

namespace Draft

def push (draft : Draft) (piece : Piece) (last : Char) : Draft :=
  { draft with pieces := piece :: draft.pieces, previous := some last }

def openGroup (draft : Draft) : Draft := ⟨⟨draft.pieces, []⟩ :: draft.groups, [], some '\x7b'⟩

/-- Ends a branch; outside of groups a comma is a character like any other. -/
def comma (draft : Draft) : Draft :=
  match draft.groups with
  | [] => draft.push (.literal ',') ','
  | group :: outer =>
    ⟨{ group with finished := draft.pieces.reverse :: group.finished } :: outer, [], some ','⟩

def closeGroup (draft : Draft) : Option Draft :=
  match draft.groups with
  | [] => none
  | group :: outer =>
    let branches := (draft.pieces.reverse :: group.finished).reverse
    some ⟨outer, .choice branches :: group.before, some '\x7d'⟩

/-- Two stars that are just two stars. -/
def twoStars (draft : Draft) : Draft := (draft.push .star '*').push .star '*'

/-- Whether two stars may stand for directories, given what is before them. -/
def afterBoundary (draft : Draft) : Bool :=
  draft.previous == some '/' ||
    (!draft.groups.isEmpty && (draft.previous == some ',' || draft.previous == some '\x7b'))

/-- Two stars behind a boundary take up the separator before them. Stars in a row stand
for directories once. -/
def directories (draft : Draft) (piece : Piece) (last : Char) : Draft :=
  match draft.pieces with
  | .leading :: _ => { draft with previous := some last }
  | .trailing :: _ => { draft with previous := some last }
  | _ :: before => ⟨draft.groups, piece :: before, some last⟩
  | [] => draft.push piece last

/-- Two stars, and the text behind what they take up. -/
def stars (draft : Draft) (rest : List Char) : Draft × List Char :=
  if draft.pieces.isEmpty then
    match rest with
    | [] => (draft.push .leading '*', [])
    | '/' :: rest => (draft.push .leading '/', rest)
    | _ => (draft.twoStars, rest)
  else if !draft.afterBoundary then (draft.twoStars, rest)
  else
    match rest with
    | [] => (draft.directories .trailing '*', [])
    | '/' :: rest => (draft.directories .middle '/', rest)
    | c :: _ =>
      if (c == ',' || c == '\x7d') && !draft.groups.isEmpty then
        (draft.directories .trailing '*', rest)
      else (draft.twoStars, rest)

end Draft

/-- Reads a pattern whose text has at most so many characters. -/
def readWithin : Nat → Draft → List Char → Option Draft
  | _, draft, [] => some draft
  | 0, _, _ => none
  | n + 1, draft, c :: rest =>
    match c with
    | '?' => readWithin n (draft.push .any c) rest
    | '*' =>
      match rest with
      | '*' :: rest =>
        let (draft, rest) := draft.stars rest
        readWithin n draft rest
      | _ => readWithin n (draft.push .star c) rest
    | '[' =>
      let (negated, members) := match rest with
        | '!' :: r | '^' :: r => (true, r)
        | r => (false, r)
      match readClass ⟨[], true, false⟩ members with
      | some (ranges, rest) => readWithin n (draft.push (.oneOf negated ranges) ']') rest
      | none => none
    | '\x7b' => readWithin n draft.openGroup rest
    | '\x7d' =>
      match draft.closeGroup with
      | some draft => readWithin n draft rest
      | none => none
    | ',' => readWithin n draft.comma rest
    | '\\' =>
      match rest with
      | e :: rest => readWithin n (draft.push (.literal e) e) rest
      | [] => none
    | _ => readWithin n (draft.push (.literal c) c) rest

/-- The pattern that a text describes. -/
def Pattern.ofText? (text : String) : Option Pattern :=
  match readWithin text.length ⟨[], [], none⟩ text.toList with
  | some ⟨[], pieces, _⟩ => some pieces.reverse
  | _ => none

/-! ### How deep a pattern nests -/

/-- The nesting of a sequence of parts: how many there are, and how deep the deepest one
nests. -/
structure Nesting where
  parts : Nat
  depth : Nat

/-- A sequence of parts as one thing, which nests deeper if there are several. -/
def Nesting.whole (n : Nesting) : Nat := if n.parts > 1 then n.depth + 1 else n.depth

def Nesting.append (a b : Nesting) : Nesting := ⟨a.parts + b.parts, max a.depth b.depth⟩

def byteCount (c : Char) : Nat := (String.singleton c).utf8ByteSize

def memberCount (ranges : List (Char × Char)) : Nat :=
  ranges.foldl (fun n (low, high) =>
    n + byteCount low + if low == high then 0 else byteCount high - 1) 0

mutual

/-- The nesting of one piece. -/
def Piece.nesting : Piece → Nesting
  | .literal c => ⟨byteCount c, 0⟩
  | .any => ⟨1, 0⟩
  | .star => ⟨1, 1⟩
  | .leading => ⟨1, 4⟩
  | .trailing => ⟨2, 1⟩
  | .middle => ⟨1, 4⟩
  | .oneOf _ ranges => ⟨1, if memberCount ranges > 1 then 2 else 1⟩
  | .choice branches =>
    match branchNesting branches with
    | ⟨0, _⟩ => ⟨0, 0⟩
    | inside => ⟨1, inside.whole + 1⟩

/-- The nesting of a sequence of pieces. -/
def sequenceNesting : List Piece → Nesting
  | [] => ⟨0, 0⟩
  | piece :: rest => piece.nesting.append (sequenceNesting rest)

/-- The nesting of alternatives; those without parts do not count. -/
def branchNesting : List (List Piece) → Nesting
  | [] => ⟨0, 0⟩
  | branch :: rest =>
    let inside := sequenceNesting branch
    let others := branchNesting rest
    if inside.parts = 0 then others else ⟨others.parts + 1, max inside.whole others.depth⟩

end

/-- Patterns that nest deeper than this are not usable together with others. -/
def nestingLimit : Nat := 250

/-- Whether a pattern nests too deep. -/
def Pattern.isTooDeep (pattern : Pattern) : Bool :=
  (sequenceNesting pattern).depth + 1 > nestingLimit

/-! ### Putting patterns together -/

/-- Which patterns can be put together into one set. That is up to the library which does it: it refuses
patterns that nest too deep or take up too much room, but it has no reason to refuse no patterns. -/
class Joining where
  joins : List Pattern → Bool
  joins_nil : joins [] = true

end Precompiler.Glob
