import PlayTrace.Number.Shortest
import PlayTrace.Text.Digit
import PlayTrace.Text.Quoted

/-!
# Document values

The values that a configuration document is made of. The entries of a mapping are kept in the order
of the document; a mapping read from a document has distinct keys.

A value has two texts. `Value.plain` is the text that stands for the value where a text is wanted:
a text stands for itself. `Value.shown` is the text by which a message shows the value: there, and
inside lists and mappings, texts are quoted. Where a document is read, both are asked for only of a
value without overlong integers, `Value.isWritable`: an integer is never written with more digits
than it may be read from.

A text is a sequence of characters, so a surrogate without its partner, which is no character, has
no counterpart here. The undefined number is a value like any other: as a key of a mapping it is the
same wherever it comes from.
-/

namespace PlayTrace

/-- A value of a document. -/
inductive Value where
  | null
  | bool (b : Bool)
  | int (n : Int)
  | float (x : Number)
  | text (s : String)
  | list (items : List Value)
  | mapping (entries : List (Value × Value))

namespace Value

instance : Inhabited Value := ⟨null⟩

/-- The word for a truth value. -/
def boolWord : Bool → String
  | true => "True"
  | false => "False"

mutual

/-- The text by which a message shows the value. -/
def shown : Value → String
  | null => "None"
  | bool b => boolWord b
  | int n => toString n
  | float x => x.text
  | text s => Text.quoted s
  | list items => "[" ++ ", ".intercalate (shownItems items) ++ "]"
  | mapping entries => "\x7b" ++ ", ".intercalate (shownEntries entries) ++ "\x7d"

/-- The texts by which a message shows the items of a list. -/
def shownItems : List Value → List String
  | [] => []
  | v :: vs => shown v :: shownItems vs

/-- The texts by which a message shows the entries of a mapping. -/
def shownEntries : List (Value × Value) → List String
  | [] => []
  | (k, v) :: es => (shown k ++ ": " ++ shown v) :: shownEntries es

end

/-- The text that stands for the value where a text is wanted. -/
def plain : Value → String
  | text s => s
  | v => shown v

mutual

/-- Whether all integers in a value can be written. -/
def isWritable : Value → Bool
  | int n => Text.isWritable n
  | list items => areWritable items
  | mapping entries => areWritableEntries entries
  | null | bool _ | float _ | text _ => true

/-- Whether all integers in the items of a list can be written. -/
def areWritable : List Value → Bool
  | [] => true
  | v :: vs => isWritable v && areWritable vs

/-- Whether all integers in the entries of a mapping can be written. -/
def areWritableEntries : List (Value × Value) → Bool
  | [] => true
  | (k, v) :: es => isWritable k && isWritable v && areWritableEntries es

end

/-- Whether a value counts as present: the null value, false, zero, and empty texts, lists and
mappings do not. -/
def isPresent : Value → Bool
  | null => false
  | bool b => b
  | int n => n ≠ 0
  | float x => !x.isZero
  | text s => !s.isEmpty
  | list items => !items.isEmpty
  | mapping entries => !entries.isEmpty

/-- Whether a value is the given text. -/
def isText (key : String) : Value → Bool
  | text s => s == key
  | _ => false

/-- The value that a mapping gives to a text. -/
def lookup? (entries : List (Value × Value)) (key : String) : Option Value :=
  (entries.find? fun e => e.1.isText key).map Prod.snd

/-- The number that a truth value, integer or floating-point number stands for. -/
def toNumber? : Value → Option Number
  | bool b => some (.ofInt (if b then 1 else 0))
  | int n => some (.ofInt n)
  | float x => some x
  | _ => none

/-- Whether two values are one key of a mapping. Lists and mappings are never keys, and numbers
are compared in value whatever their form; the undefined number is a key like any other. -/
def sameKey : Value → Value → Bool
  | null, null => true
  | text s, text t => s == t
  | v, w =>
    match v.toNumber?, w.toNumber? with
    | some a, some b => a.isSame b
    | _, _ => false

/-- Gives a key of a mapping a value: in its place if the key is present, at the end otherwise. -/
def setEntry (key value : Value) : List (Value × Value) → List (Value × Value)
  | [] => [(key, value)]
  | e :: es => if e.1.sameKey key then (e.1, value) :: es else e :: setEntry key value es

end Value

end PlayTrace
