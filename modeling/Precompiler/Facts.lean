import Precompiler.Files.Resolve

/-! What was given as input.

The shape of a module depends on the sources as they were given, not on the templates
found in them: one file alone is *single*, several sources or a directory are *bulk*, and
no source at all is neither. -/
namespace Precompiler

/-- How many sources there are, and whether there is one and it is a directory. -/
structure InputFacts where
  count : Nat
  isSingleDirectory : Bool
  deriving Repr, DecidableEq

namespace InputFacts

/-- The facts of so many sources; `directory` says whether the first one is a directory,
and counts only if it is the only one. -/
def of (count : Nat) (directory : Bool) : InputFacts := ⟨count, count = 1 && directory⟩

/-- The facts of given sources. -/
def ofSources (files : Files) (sources : List Path) : InputFacts :=
  match sources with
  | [source] => of 1 (files.isDirectory source)
  | _ => of sources.length false

def isSingleFile (facts : InputFacts) : Bool := facts.count = 1 && !facts.isSingleDirectory

def isBulk (facts : InputFacts) : Bool := facts.count > 1 || facts.isSingleDirectory

/-- No input is single and bulk at once. -/
theorem not_single_and_bulk (facts : InputFacts) :
    ¬(facts.isSingleFile = true ∧ facts.isBulk = true) := by
  intro ⟨hs, hb⟩
  simp only [isSingleFile, Bool.and_eq_true, decide_eq_true_eq, Bool.not_eq_true'] at hs
  simp only [isBulk, hs.2, Bool.or_false, decide_eq_true_eq] at hb
  omega

end InputFacts

end Precompiler
