import PlayTrace.Document.Yaml.Token

/-!
# Nodes of YAML

A YAML document as a tree of scalars, lists and mappings, before it is settled what value a scalar
stands for. A part of a document that is left out is an empty plain scalar.

A mapping may be merged into another one: the key for it, two less-than signs, gives no entry, but
the mapping or list of mappings that is its value puts its entries in front of the others. In a
list the mappings named later stand in front.
-/

namespace PlayTrace

namespace Yaml

/-- A part of a YAML document. -/
inductive Node where
  | scalar (text : String) ( isPlain : Bool)
  | list (items : List Node)
  | mapping (entries : List (Node × Node))
  /-- a mapping into which something is to be merged that is no mapping -/
  | unmergeable

namespace Node

/-- The node that stands where nothing is written. -/
def missing : Node := scalar "" true

/-! ### Merging -/

/-- Whether a key stands for entries to be merged. -/
def isMerge : Node → Bool
  | scalar s isPlain => isPlain && s == "<<"
  | _ => false

/-- The entries of a mapping. -/
def entries? : Node → Option (List (Node × Node))
  | mapping entries => some entries
  | _ => none

/-- The entries that a node puts into a mapping it is merged into. -/
def merged? : Node → Option (List (Node × Node))
  | mapping entries => some entries
  | list items => do return (← items.mapM entries?).reverse.flatten
  | _ => none

/-- The mapping with the given entries, those to be merged included. -/
def ofEntries (entries : List (Node × Node)) : Node :=
  let (merges, own) := entries.partition fun e => e.1.isMerge
  match merges.mapM fun e => e.2.merged? with
  | some sources => mapping (sources.flatten ++ own)
  | none => unmergeable

/-! ### Reading -/

/-- Why tokens do not go on: no further token is found, or there is no place for the next one. -/
def unexpected : List Token → Fault
  | .broken f :: _ => f
  | _ => .malformed

/-- Whether the next token is one of those given, or there is none. -/
def stopsAt (stops : List Token) (ts : List Token) : Bool :=
  match ts with
  | [] => true
  | t :: _ => stops.contains t

/-- The tokens after a comma. -/
def afterComma : List Token → Except Fault (List Token)
  | .comma :: ts => .ok ts
  | ts => .error (unexpected ts)

/-- The number of lists and mappings that may lie in each other inside of one more. -/
def enter : Nat → Except Fault Nat
  | 0 => .error .tooDeep
  | room + 1 => .ok room

mutual

/-- Reads a node, in which `room` lists and mappings may lie in each other. Inside brackets, nodes
written in blocks are not allowed. -/
def read (inFlow : Bool) (room : Nat) : Nat → List Token → Except Fault (Node × List Token)
  | _ + 1, .scalar s isPlain :: ts => .ok (scalar s isPlain, ts)
  | fuel + 1, .openBracket :: ts => do
    let (items, ts) ← readFlowItems true (← enter room) fuel ts
    return (list items, ts)
  | fuel + 1, .openBrace :: ts => do
    let (entries, ts) ← readFlowEntries true (← enter room) fuel ts
    return (ofEntries entries, ts)
  | fuel + 1, .beginList :: ts => do
    if inFlow then throw .malformed
    let (items, ts) ← readItems (← enter room) fuel ts
    match ts with
    | .endBlock :: ts => return (list items, ts)
    | ts => throw (unexpected ts)
  | fuel + 1, .beginMapping :: ts => do
    if inFlow then throw .malformed
    let (entries, ts) ← readEntries (← enter room) fuel ts
    return (ofEntries entries, ts)
  | _, ts => .error (unexpected ts)
termination_by structural fuel => fuel

/-- Reads a node that may be left out before the given tokens. -/
def readUnless (stops : List Token) (inFlow : Bool) (room : Nat) :
    Nat → List Token → Except Fault (Node × List Token)
  | fuel + 1, ts => if stopsAt stops ts then .ok (missing, ts) else read inFlow room fuel ts
  | 0, ts => .error (unexpected ts)
termination_by structural fuel => fuel

/-- Reads the items of a list in a block. -/
def readItems (room : Nat) : Nat → List Token → Except Fault (List Node × List Token)
  | fuel + 1, .item :: ts => do
    let (node, ts) ← readUnless [.item, .key, .value, .endBlock] false room fuel ts
    let (nodes, ts) ← readItems room fuel ts
    return (node :: nodes, ts)
  | _ + 1, ts => .ok ([], ts)
  | 0, ts => .error (unexpected ts)
termination_by structural fuel => fuel

/-- Reads a key or value of a mapping in a block. A list may stand there without being indented. -/
def readPart (room : Nat) : Nat → List Token → Except Fault (Node × List Token)
  | fuel + 1, .item :: ts => do
    let (items, ts) ← readItems (← enter room) fuel (.item :: ts)
    return (list items, ts)
  | fuel + 1, ts => readUnless [.key, .value, .endBlock] false room fuel ts
  | 0, ts => .error (unexpected ts)
termination_by structural fuel => fuel

/-- Reads the entries of a mapping in a block, up to its end. -/
def readEntries (room : Nat) : Nat → List Token → Except Fault (List (Node × Node) × List Token)
  | fuel + 1, .key :: ts => do
    let (key, ts) ← readPart room fuel ts
    let (value, ts) ← match ts with
      | .value :: ts => readPart room fuel ts
      | _ => .ok (missing, ts)
    let (entries, ts) ← readEntries room fuel ts
    return ((key, value) :: entries, ts)
  | _ + 1, .endBlock :: ts => .ok ([], ts)
  | _, ts => .error (unexpected ts)
termination_by structural fuel => fuel

/-- Reads the items of a list in brackets, up to the closing one. An item may be a single entry of a
mapping. -/
def readFlowItems (first : Bool) (room : Nat) :
    Nat → List Token → Except Fault (List Node × List Token)
  | _ + 1, .closeBracket :: ts => .ok ([], ts)
  | fuel + 1, ts => do
    let ts ← if first then .ok ts else afterComma ts
    match ts with
    | .closeBracket :: ts => return ([], ts)
    | .key :: ts =>
      let (entry, ts) ← readFlowEntry .closeBracket (← enter room) fuel ts
      let (nodes, ts) ← readFlowItems false room fuel ts
      return (ofEntries [entry] :: nodes, ts)
    | ts =>
      let (node, ts) ← read true room fuel ts
      let (nodes, ts) ← readFlowItems false room fuel ts
      return (node :: nodes, ts)
  | 0, ts => .error (unexpected ts)
termination_by structural fuel => fuel

/-- Reads the entries of a mapping in braces, up to the closing one. An entry may be a key alone. -/
def readFlowEntries (first : Bool) (room : Nat) :
    Nat → List Token → Except Fault (List (Node × Node) × List Token)
  | _ + 1, .closeBrace :: ts => .ok ([], ts)
  | fuel + 1, ts => do
    let ts ← if first then .ok ts else afterComma ts
    match ts with
    | .closeBrace :: ts => return ([], ts)
    | .key :: ts =>
      let (entry, ts) ← readFlowEntry .closeBrace room fuel ts
      let (entries, ts) ← readFlowEntries false room fuel ts
      return (entry :: entries, ts)
    | ts =>
      let (key, ts) ← read true room fuel ts
      let (entries, ts) ← readFlowEntries false room fuel ts
      return ((key, missing) :: entries, ts)
  | 0, ts => .error (unexpected ts)
termination_by structural fuel => fuel

/-- Reads an entry inside brackets, after the token that announces its key. -/
def readFlowEntry (close : Token) (room : Nat) :
    Nat → List Token → Except Fault ((Node × Node) × List Token)
  | fuel + 1, ts => do
    let (key, ts) ← readUnless [.value, .comma, close] true room fuel ts
    match ts with
    | .value :: ts =>
      let (value, ts) ← readUnless [.comma, close] true room fuel ts
      return ((key, value), ts)
    | _ => return ((key, missing), ts)
  | 0, ts => .error (unexpected ts)
termination_by structural fuel => fuel

end

/-- The tokens after the marks that close a document. -/
def skipEnds (ts : List Token) : List Token := ts.dropWhile (· == .documentEnd)

/-- Reads the only document of a text; there may be none. -/
def ofTokens (ts : List Token) : Except Fault (Option Node) := do
  let fuel := 3 * ts.length + 3
  let (node, rest) ← match ts with
    | [] => .ok (none, [])
    | .documentStart :: ts => do
      let (node, rest) ← readUnless [.documentStart, .documentEnd] false maxDepth fuel ts
      pure (some node, rest)
    | ts => do
      let (node, rest) ← read false maxDepth fuel ts
      pure (some node, rest)
  match skipEnds rest with
  | [] => return node
  | ts => throw (unexpected ts)

end Node

end Yaml

end PlayTrace
