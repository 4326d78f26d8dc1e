import PlayTrace.Template.Basic
import PlayTrace.Text.Blank

/-!
# Reading templates

A template is written as a list in parentheses, its words separated by blanks: first the name of the
predicate, then the arguments. A question mark, a letter and further letters, digits or underscores,
all of ASCII, make a placeholder; any other argument is a literal. Neither names nor literals hold
question marks or parentheses.
-/

namespace PlayTrace

namespace Template

/-- Why a text is not a template. The last component of each cause is the whole text. -/
inductive SyntaxFault where
  /-- there is no text; `shown` is what there is instead -/
  | notText (shown : String)
  /-- the text is not in parentheses -/
  | unwrapped (source : String)
  /-- there is nothing between the parentheses -/
  | nameless (source : String)
  /-- the name holds a question mark or parenthesis -/
  | badName (name source : String)
  /-- an argument holds a question mark or parenthesis without being a placeholder -/
  | badArgument (argument source : String)
deriving DecidableEq

/-- The wording of a cause. -/
def SyntaxFault.message : SyntaxFault → String
  | notText shown => s!"template must be a string, got {shown}"
  | unwrapped s => s!"template must be wrapped in parentheses: {Text.quoted s}"
  | nameless s => s!"template has no predicate name: {Text.quoted s}"
  | badName n s => s!"invalid predicate name {Text.quoted n} in {Text.quoted s}"
  | badArgument a s => s!"malformed argument {Text.quoted a} in {Text.quoted s}"

/-- A letter of ASCII. -/
def isAsciiLetter (c : Char) : Bool := ('a' ≤ c && c ≤ 'z') || ('A' ≤ c && c ≤ 'Z')

/-- A character that may follow the first letter of a placeholder. -/
def isNameCharacter (c : Char) : Bool := isAsciiLetter c || ('0' ≤ c && c ≤ '9') || c == '_'

/-- Whether characters make a placeholder. -/
def isPlaceholderChars : List Char → Bool
  | m :: c :: cs => m == variableMark && isAsciiLetter c && cs.all isNameCharacter
  | _ => false

/-- Whether a text is a placeholder. -/
def isPlaceholder (s : String) : Bool := isPlaceholderChars s.toList

/-- A character that no name and no literal holds. -/
def isReserved (c : Char) : Bool := c == variableMark || c == '(' || c == ')'

/-- The token that a word of a template is. -/
def token? (word : List Char) : Option Token :=
  if isPlaceholderChars word then some (.placeholder (String.ofList word))
  else if word.any isReserved then none
  else some (.literal (String.ofList word))

/-- The text between the parentheses, for a text that begins and ends with one. -/
def unwrap? (cs : List Char) : Option (List Char) :=
  if cs.head? = some '(' && cs.getLast? = some ')' then some (cs.drop 1).dropLast else none

/-- Reads the arguments of a template. -/
def parseArguments (source : String) : List (List Char) → Except SyntaxFault (List Token)
  | [] => .ok []
  | w :: ws =>
    match token? w with
    | none => .error (.badArgument (String.ofList w) source)
    | some t => do return t :: (← parseArguments source ws)

/-- Reads a template. -/
def parse (source : String) : Except SyntaxFault Template :=
  match unwrap? (Text.trimChars Text.isBlank source.toList) with
  | none => .error (.unwrapped source)
  | some inside =>
    match Text.splitWords inside with
    | [] => .error (.nameless source)
    | name :: args =>
      if name.any isReserved then .error (.badName (String.ofList name) source)
      else do return ⟨source, String.ofList name, ← parseArguments source args⟩

/-- A template with single spaces between its words. -/
def render (t : Template) : String :=
  "(" ++ " ".intercalate (t.name :: t.tokens.map Token.text) ++ ")"

end Template

end PlayTrace
