import Precompiler.Engine.Basic

/-! Hooks from scripts.

A hook script takes the syntax tree, and its own value is the new tree. A script that gives
nothing back has most likely forgotten the tree, so that is a failure. In which language
scripts are written is left open. -/
namespace Precompiler

/-- What a script does with a tree: the lines that it prints, and what it gives back, if anything, unless it
fails with a message. -/
abbrev HookScript := Ast → List String × Except String (Option Ast)

/-- The language of hook scripts. A text is a script in it, or there is a message that tells why not. -/
class ScriptLanguage where
  compile : String → Except String HookScript

namespace Hook

/-- The tree that a script gives back. -/
def treeOf (label : String) : Except String (Option Ast) → Except Failure Ast
  | .ok (some tree) => .ok tree
  | .ok none => .error (.postParse label "script did not return an AST")
  | .error message => .error (.postParse label message)

def ofScript (label : String) (script : HookScript) : Hook where
  label
  apply ast := ((script ast).1, treeOf label (script ast).2)

/-- The hook of the script in a file, which is also its label. -/
def load [ScriptLanguage] (files : Files) (path : Path) : Except Failure Hook := do
  let text ← match (files.read? path).bind String.fromUTF8? with
    | some text => pure text
    | none => throw (.io (.readingHook path))
  match ScriptLanguage.compile text with
  | .ok script => return ofScript path script
  | .error message => throw (.postParse path message)

end Hook

end Precompiler
