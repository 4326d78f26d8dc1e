import PlayTrace.Text.Case
import PlayTrace.Text.Digit

/-!
# Ground atoms

The facts and actions of a trace: a predicate name with its arguments, each an object with a type
or a bare constant. In the numeric notation a fact is a fluent, an atom with the integer it is
assigned.

Atoms are equal when they are built alike. They become text only at the end, in capitals, so two
different atoms may be written alike.
-/

namespace PlayTrace

/-- An object with its type. -/
structure Object where
  name : String
  type : String
deriving DecidableEq

/-- What a predicate or action is applied to. -/
inductive Argument where
  | object (o : Object)
  | constant (text : String)
deriving DecidableEq

/-- A name applied to arguments. -/
structure Atom where
  name : String
  args : List Argument
deriving DecidableEq

/-- A fact: an atom that holds, or a fluent with its value. -/
inductive Fact where
  | plain (a : Atom)
  | fluent (a : Atom) (value : Int)
deriving DecidableEq

/-- The mark that variables begin with. -/
def variableMark : Char := '?'

/-- The name of a variable without its mark. -/
def stripMark (name : String) : String :=
  String.ofList (name.toList.filter (· ≠ variableMark))

namespace Object

/-- The object that is the only one of its variable. -/
def singleton (name type : String) : Object := ⟨stripMark name, type⟩

/-- The object that stands for a variable at a cell. Its name contains the column and the row, which
have to be writable; `Domain.objectAnywhere` checks that. -/
def atCell (name type : String) (x y : Int) : Object :=
  ⟨s!"{stripMark name}_{x}_{y}", type⟩

/-- An object with its type, as text. -/
def render (o : Object) : String := s!"{o.name} - {o.type}"

end Object

/-- An argument as text: objects with their type, constants bare. -/
def Argument.render : Argument → String
  | object o => o.render
  | constant t => t

namespace Atom

/-- The atom with more at the end of its name. -/
def withSuffix (a : Atom) (suffix : String) : Atom := { a with name := a.name ++ suffix }

/-- The atom with more arguments at the end. -/
def withArgs (a : Atom) (extra : List Argument) : Atom := { a with args := a.args ++ extra }

/-- An atom as text, in capitals. -/
def render (a : Atom) : String :=
  Text.upper ("(" ++ " ".intercalate (a.name :: a.args.map Argument.render) ++ ")")

end Atom

namespace Fact

/-- The atom of a fact, with the value of a fluent forgotten. -/
def atom : Fact → Atom
  | plain a => a
  | fluent a _ => a

/-- Whether the value of a fact can be written. -/
def isWritable : Fact → Bool
  | plain _ => true
  | fluent _ value => Text.isWritable value

/-- A fact as text. The value of a fluent has to be writable, as the coordinates of a grid are. -/
def render : Fact → String
  | plain a => a.render
  | fluent a value => "(= " ++ a.render ++ " " ++ toString value ++ ")"

end Fact

/-- A state as text. -/
def renderState (facts : List Fact) : String :=
  "(" ++ " ".intercalate (facts.map Fact.render) ++ ")"

end PlayTrace
