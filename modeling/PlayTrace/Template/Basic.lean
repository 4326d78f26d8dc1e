import PlayTrace.Atom
import PlayTrace.Fault

/-!
# Templates

A template is an atom with placeholders. `Template.instantiate` fills every placeholder from a
binding and fails when the binding lacks one; literals become constants.
-/

namespace PlayTrace

/-- An argument of a template: a placeholder, named by its variable, or a literal text. -/
inductive Token where
  | placeholder (name : String)
  | literal (text : String)
deriving DecidableEq

namespace Token

/-- The variable of a placeholder. -/
def variableName? : Token → Option String
  | placeholder v => some v
  | literal _ => none

/-- A token as it is written. -/
def text : Token → String
  | placeholder v => v
  | literal t => t

end Token

/-- A predicate name with arguments some of which are placeholders, and the text it was read
from. -/
structure Template where
  source : String
  name : String
  tokens : List Token
deriving DecidableEq

namespace Template

/-- The variables of a template in the order of their first appearance. -/
def variableNames (t : Template) : List String := (t.tokens.filterMap Token.variableName?).eraseDups

/-- Whether a variable appears in the template. -/
def uses (t : Template) (name : String) : Bool := t.variableNames.contains name

/-- What the variables of a template stand for. -/
abbrev Binding := String → Option Argument

/-- The argument that a token of a template becomes under a binding. -/
def bindToken (source : String) (binding : Binding) : Token → Except Fault Argument
  | .literal t => .ok (.constant t)
  | .placeholder v =>
    match binding v with
    | some a => .ok a
    | none => .error (.unbound v source)

/-- The atom that a template becomes under a binding. -/
def instantiate (t : Template) (binding : Binding) : Except Fault Atom := do
  return ⟨t.name, ← t.tokens.mapM (bindToken t.source binding)⟩

end Template

end PlayTrace
