import PlayTrace.Document.Yaml.Node
import PlayTrace.Document.Yaml.Scalar
import PlayTrace.Text.Lines

/-!
# YAML documents

Reading a YAML text into a document value. A text without a document stands for the null value. When
a mapping repeats a key, the last value counts and stands where the first stood; lists and mappings
are not accepted as keys.

Of several scalars without a value, and other faults that are found when the nodes of the document
get their values, the one counts that lies least deep, and of those the first: the lists and
mappings of a document are gone through one after the other, each without those inside of it, which
come later.

A text is taken in by portions, and a character that may not occur is found when its portion is.
-/

namespace PlayTrace

namespace Yaml

namespace Node

/-- The value of a scalar. -/
def scalarValue (text : String) ( isPlain : Bool) : Except Fault Value :=
  if isPlain then plainValue text else .ok (.text text)

/-- The value of a key. The equals sign alone is a text there. -/
def keyValue : Node → Except Fault Value
  | scalar s isPlain => if s == "=" then .ok (.text s) else scalarValue s isPlain
  | list _ | mapping _ | unmergeable => .error .malformed

/-! ### Faults by depth -/

/-- The cause for which something has no value. -/
def faultOf? {α : Type} : Except Fault α → Option Fault
  | .ok _ => none
  | .error f => some f

/-- Joins the first faults found at each depth in one part of a document and in the next. -/
def joinDepths : List (Option Fault) → List (Option Fault) → List (Option Fault)
  | [], bs => bs
  | as, [] => as
  | a :: as, b :: bs => (a <|> b) :: joinDepths as bs

mutual

/-- The first fault at each depth below a node that stands in a list or mapping, beginning with that
of the node itself if it is a scalar. -/
def faultDepths : Node → List (Option Fault)
  | scalar s isPlain => [faultOf? (scalarValue s isPlain)]
  | list items => none :: itemFaultDepths items
  | mapping entries => none :: entryFaultDepths entries
  | unmergeable => [none, some .malformed]

/-- The first fault at each depth in the items of a list. -/
def itemFaultDepths : List Node → List (Option Fault)
  | [] => []
  | n :: ns => joinDepths (faultDepths n) (itemFaultDepths ns)

/-- The first fault at each depth in the entries of a mapping. -/
def entryFaultDepths : List (Node × Node) → List (Option Fault)
  | [] => []
  | (k, v) :: es =>
    joinDepths [faultOf? k.keyValue] (joinDepths (faultDepths v) (entryFaultDepths es))

end

/-- The fault of a document that counts. -/
def fault? (n : Node) : Option Fault := n.faultDepths.findSome? id

/-! ### Values -/

mutual

/-- The value of a node. -/
def toValue : Node → Except Fault Value
  | scalar s isPlain => scalarValue s isPlain
  | list items => do return .list (← itemValues items)
  | mapping entries => do return .mapping (← entryValues [] entries)
  | unmergeable => .error .malformed

/-- The values of the items of a list. -/
def itemValues : List Node → Except Fault (List Value)
  | [] => .ok []
  | n :: ns => do
    let v ← toValue n
    let vs ← itemValues ns
    return v :: vs

/-- The values of the entries of a mapping, added to those read before. -/
def entryValues (before : List (Value × Value)) :
    List (Node × Node) → Except Fault (List (Value × Value))
  | [] => .ok before
  | (k, v) :: es => do
    let key ← keyValue k
    let value ← toValue v
    entryValues (Value.setEntry key value before) es

end

end Node

/-- How many characters have been taken in when `n` of them are needed: a first portion of 8192, and
later ones of 4096. -/
def takenIn (n : Nat) : Nat := 8192 + 4096 * ((n - 8192 + 4095) / 4096)

/-- Reads a YAML text. -/
def read (s : String) : Except Fault Value := do
  let cs := (Text.unifyBreaks s).toList
  let node := Node.ofTokens (tokens cs)
  let known := match node with
    | .error (.codePoint _ left) => cs.take (takenIn (cs.length - left))
    | _ => cs
  if !known.all isAllowed then throw .malformed
  match ← node with
  | none => return .null
  | some node =>
    match node.fault? with
    | some f => throw f
    | none => node.toValue

end Yaml

end PlayTrace
