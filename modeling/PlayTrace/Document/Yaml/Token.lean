import PlayTrace.Document.Yaml.Block
import PlayTrace.Document.Yaml.Plain
import PlayTrace.Document.Yaml.Quoted

/-!
# Tokens of YAML

A YAML text as a sequence of tokens. The indentation of the text becomes visible in it: a block of a
list or mapping lies between an opening token and `Token.endBlock`.

A key of a mapping is recognised only by the colon that follows it. Whatever may turn out to be a
key is therefore remembered as a candidate, with the number of tokens before it; when the colon
comes, the token `Token.key` is put in there. A candidate is forgotten at the end of its line. There
is at most one for the block and one for each pair of brackets that is open.

A text in which no token is found at some place still has tokens: those before the place which no
later colon can change, and then `Token.broken`. So a reader of the tokens meets what is wrong with
a text in the order in which it stands there.
-/

namespace PlayTrace

namespace Yaml

/-- A token of a YAML text. -/
inductive Token where
  | documentStart
  | documentEnd
  /-- opens a list written in a block -/
  | beginList
  /-- opens a mapping written in a block -/
  | beginMapping
  /-- closes a list or mapping written in a block -/
  | endBlock
  /-- announces an item of a list in a block -/
  | item
  /-- announces a key of a mapping -/
  | key
  /-- announces a value of a mapping -/
  | value
  | openBracket
  | closeBracket
  | openBrace
  | closeBrace
  | comma
  | scalar (text : String) ( isPlain : Bool)
  /-- no token can be found any more -/
  | broken (fault : Fault)
deriving DecidableEq

/-- What may turn out to be a key. -/
structure Candidate where
  /-- the number of brackets open around it -/
  depth : Nat
  /-- the number of tokens before it -/
  position : Nat
  index : Nat
  line : Nat
  column : Nat
  /-- whether nothing but a key can stand there -/
  required : Bool

/-- A text of which a part has been split into tokens. -/
structure Lexer where
  place : Cursor
  /-- the tokens found, the last one first -/
  found : List Token
  /-- the number of tokens found -/
  count : Nat
  /-- the column of each open block, the innermost first -/
  blocks : List Nat
  /-- whether a key may begin here -/
  keyAllowed : Bool
  /-- the number of open brackets -/
  depth : Nat
  /-- the candidates, the last one first, at most one for each number of open brackets -/
  candidates : List Candidate

namespace Lexer

/-- The text before its first token. A byte order mark in front is passed. -/
def start (cs : List Char) : Lexer where
  place := match cs with
    | '\ufeff' :: _ => (Cursor.start cs).next
    | _ => Cursor.start cs
  found := []
  count := 0
  blocks := []
  keyAllowed := true
  depth := 0
  candidates := []

variable (l : Lexer)

/-- Whether brackets are open. -/
def inFlow : Bool := l.depth ≠ 0

/-- The least column of what belongs to the innermost block. -/
def indent : Nat := (l.blocks.head?.map (· + 1)).getD 0

/-- Adds a token. -/
def emit (t : Token) : Lexer := { l with found := t :: l.found, count := l.count + 1 }

/-- Adds a token after the first `position` tokens. -/
def insert (position : Nat) (t : Token) : Lexer :=
  let later := l.count - position
  { l with found := l.found.take later ++ t :: l.found.drop later, count := l.count + 1 }

/-- Moves on by a number of characters. -/
def move (n : Nat) : Lexer := { l with place := l.place.move n }

/-- Moves on to where the given characters are still to come. -/
def upTo (rest : List Char) : Lexer := { l with place := l.place.upTo rest }

/-! ### Candidates -/

/-- The candidate between the innermost open brackets, or in the block if no brackets are open. -/
def candidate? : Option Candidate :=
  match l.candidates with
  | c :: _ => if c.depth = l.depth then some c else none
  | [] => none

/-- Forgets the candidate at hand; a key that is required must not be missed. -/
def dropCandidate : Except Fault Lexer :=
  match l.candidate? with
  | some c => if c.required then .error .malformed else .ok { l with candidates := l.candidates.tail }
  | none => .ok l

/-- Whether a candidate is out of reach: its line has ended, or it began more than 1024 characters
before. -/
def isStale (c : Candidate) : Bool := c.line ≠ l.place.line || 1024 < l.place.index - c.index

/-- Forgets all candidates that are out of reach; a key that is required must not be missed. -/
def refresh : Except Fault Lexer :=
  if l.candidates.any fun c => l.isStale c && c.required then .error .malformed
  else .ok { l with candidates := l.candidates.filter fun c => !l.isStale c }

/-- Remembers that a key may begin here. -/
def saveCandidate : Except Fault Lexer := do
  if !l.keyAllowed then return l
  let l ← l.dropCandidate
  let c : Candidate := {
    depth := l.depth
    position := l.count
    index := l.place.index
    line := l.place.line
    column := l.place.column
    required := !l.inFlow && l.blocks.head? == some l.place.column }
  return { l with candidates := c :: l.candidates }

/-- The number of tokens that nothing will be put in front of any more. -/
def settled : Nat := (l.candidates.getLast?.map Candidate.position).getD l.count

/-! ### Blocks -/

/-- Closes the innermost blocks but for those given. -/
def closeBlocks (blocks : List Nat) : Lexer :=
  let closed := l.blocks.length - blocks.length
  { l with
    blocks
    found := List.replicate closed .endBlock ++ l.found
    count := l.count + closed }

/-- Closes the blocks that a line beginning at the given column is outside of. -/
def unwind (column : Nat) : Lexer :=
  if l.inFlow then l else l.closeBlocks (l.blocks.dropWhile fun b => column < b)

/-- Closes all blocks. -/
def unwindAll : Lexer := if l.inFlow then l else l.closeBlocks []

/-- Opens a block at a column, if it lies to the right of the innermost one; its token goes after
the first `position` tokens. -/
def openBlock (column position : Nat) (t : Token) : Lexer :=
  if l.indent ≤ column then { l.insert position t with blocks := column :: l.blocks } else l

/-! ### Reading a token -/

/-- Reads the mark between two documents. -/
def readSeparator (t : Token) : Except Fault Lexer := do
  let l ← l.unwindAll.dropCandidate
  return ({ l with keyAllowed := false }.emit t).move 3

/-- Reads an opening bracket or brace. -/
def readOpen (t : Token) : Except Fault Lexer := do
  let l ← l.saveCandidate
  return ({ l with keyAllowed := true, depth := l.depth + 1 }.emit t).move 1

/-- Reads a closing bracket or brace. -/
def readClose (t : Token) : Except Fault Lexer := do
  if !l.inFlow then throw .malformed
  let l ← l.dropCandidate
  return ({ l with keyAllowed := false, depth := l.depth - 1 }.emit t).move 1

/-- Reads a comma. -/
def readComma : Except Fault Lexer := do
  let l ← l.dropCandidate
  return ({ l with keyAllowed := true }.emit .comma).move 1

/-- Reads the hyphen before an item. -/
def readItem : Except Fault Lexer := do
  if !l.inFlow && !l.keyAllowed then throw .malformed
  let l := if l.inFlow then l else l.openBlock l.place.column l.count .beginList
  let l ← l.dropCandidate
  return ({ l with keyAllowed := true }.emit .item).move 1

/-- Reads the question mark before a key. -/
def readKey : Except Fault Lexer := do
  if !l.inFlow && !l.keyAllowed then throw .malformed
  let l := if l.inFlow then l else l.openBlock l.place.column l.count .beginMapping
  let l ← l.dropCandidate
  return ({ l with keyAllowed := !l.inFlow }.emit .key).move 1

/-- Reads the colon before a value. -/
def readValue : Except Fault Lexer := do
  match l.candidate? with
  | some c =>
    let l := { l with candidates := l.candidates.tail, keyAllowed := false }.insert c.position .key
    let l := if l.inFlow then l else l.openBlock c.column c.position .beginMapping
    return (l.emit .value).move 1
  | none =>
    if !l.inFlow && !l.keyAllowed then throw .malformed
    let l := if l.inFlow then l else l.openBlock l.place.column l.count .beginMapping
    return ({ l with keyAllowed := !l.inFlow }.emit .value).move 1

/-- Reads a block scalar. -/
def readBlockScalar (folded : Bool) (cs : List Char) : Except Fault Lexer := do
  let l ← l.dropCandidate
  let (text, rest) ← readBlock folded l.indent cs
  return ({ l with keyAllowed := true }.emit (.scalar text false)).upTo rest

/-- Reads a scalar in quotation marks. -/
def readQuotedScalar (mark : Char) (cs : List Char) : Except Fault Lexer := do
  let l ← l.saveCandidate
  let (text, rest) ← readQuoted mark cs
  return ({ l with keyAllowed := false }.emit (.scalar text false)).upTo rest

/-- Reads a plain scalar. -/
def readPlainScalar : Except Fault Lexer := do
  let l ← l.saveCandidate
  let read := readPlain l.inFlow l.indent (l.place.rest.length + 1) l.place
  return { l with keyAllowed := read.fresh, place := read.after }.emit
    (.scalar (String.ofList read.text) true)

/-- Passes what lies before the next token. The end of a line, outside of brackets, allows a key. -/
def passGap : Lexer :=
  let place := l.place.move (Cursor.gapLength false l.place.rest)
  { l with place, keyAllowed := l.keyAllowed || (!l.inFlow && place.line ≠ l.place.line) }

/-- Reads the token that begins with the character `c`. -/
def readToken (c : Char) (cs : List Char) : Except Fault Lexer :=
  if l.place.column == 0 && c == '%' then .error .malformed
  else if l.place.column == 0 && isSeparator '-' (c :: cs) then l.readSeparator .documentStart
  else if l.place.column == 0 && isSeparator '.' (c :: cs) then l.readSeparator .documentEnd
  else if c == '[' then l.readOpen .openBracket
  else if c == '\x7b' then l.readOpen .openBrace
  else if c == ']' then l.readClose .closeBracket
  else if c == '\x7d' then l.readClose .closeBrace
  else if c == ',' then l.readComma
  else if c == '-' && atGap cs then l.readItem
  else if c == '?' && (l.inFlow || atGap cs) then l.readKey
  else if c == ':' && (l.inFlow || atGap cs) then l.readValue
  else if c == '|' && !l.inFlow then l.readBlockScalar false cs
  else if c == '>' && !l.inFlow then l.readBlockScalar true cs
  else if c == '\'' || c == '"' then l.readQuotedScalar c cs
  else if startsPlain l.inFlow (c :: cs) then l.readPlainScalar
  else .error .malformed

/-- Reads what comes next: a token, or nothing at the end of the text. -/
def readNext : Except Fault (Option Lexer) := do
  let l ← l.passGap.refresh
  match l.place.rest with
  | [] => return none
  | c :: cs => return some (← (l.unwind l.place.column).readToken c cs)

/-- The tokens of a text that has come to its end. -/
def finish : Except Fault (List Token) := do return (← l.unwindAll.dropCandidate).found.reverse

/-- The tokens before a place where no token is found: the first `n` of those found. -/
def breakOff (n : Nat) (f : Fault) : List Token := l.found.reverse.take n ++ [.broken f]

/-- Reads tokens up to the end of the text, of which `n` are settled. Every step takes a
character. -/
def run : Nat → Nat → Lexer → List Token
  | 0, n, l => l.breakOff n .malformed
  | fuel + 1, n, l =>
    match l.refresh with
    | .error f => l.breakOff n f
    | .ok l =>
      match l.readNext with
      | .error f => l.breakOff l.settled f
      | .ok (some next) => run fuel l.settled next
      | .ok none =>
        match l.passGap.finish with
        | .error f => l.breakOff l.settled f
        | .ok ts => ts

end Lexer

/-- The tokens of a YAML text. -/
def tokens (cs : List Char) : List Token := Lexer.run (cs.length + 1) 0 (.start cs)

end Yaml

end PlayTrace
