import Precompiler.Batch
import Precompiler.Standard

/-! A small world to run batches in.

The theorems on batches are tried on a few files and an engine that gives sources back. -/
namespace Precompiler

namespace Sample

/-- An engine whose payloads are the sources, but for `B`, which it rejects. -/
def engine : Engine where
  parse source := if source = "B" then .error (.compile "stdin" "unexpected B") else .ok (.str source)
  precompile ast _ := .ok (match ast with | .str source => source | _ => "")
  parseNotes _ := []
  precompileNotes _ _ := []

/-- Files with these texts, seen from the root. -/
def files (texts : List (Location × String)) : Files where
  tree := ⟨texts.map fun (spot, text) => (spot, .file text.toUTF8 false)⟩
  here := some []

/-- A world in which nothing has been shown yet. -/
def world (texts : List (Location × String)) : World := ⟨files texts, []⟩

/-- A world in which there are directories, too. -/
def worldWith (directories : List Location) (texts : List (Location × String)) : World :=
  ⟨⟨⟨directories.map (·, .directory false) ++ (files texts).tree.entries⟩, some []⟩, []⟩

/-- Bare payloads. -/
def options : Options := {Options.standard with simple := true}

/-- The pattern of these options. -/
def pattern : ExtensionPattern :=
  ⟨"handlebars|hbs", ["handlebars".toList, "hbs".toList], by decide⟩

theorem extensionPattern_options : options.extensionPattern = .ok pattern := rfl

/-- What the templates of so many sources have in common, with these options. -/
def setup (count : Nat) (directory : Bool) : Setup := ⟨pattern, ⟨count, directory⟩⟩

end Sample

end Precompiler
