import PlayTrace.Table
import PlayTrace.Template.Parser
import PlayTrace.Text.Digit

/-!
# Domains

A domain says how a game is written down in predicates: which templates describe a sprite, which
predicate records that a resource was collected, how two neighbouring cells are connected, and, if
it cares, where the avatar looks.

`DomainTables` is what a domain document says. `DomainTables.fault?` is the first inconsistency in
it, in the order in which the checks are made, and a `Domain` is tables without one. So whoever
holds a `Domain` knows that its two leading variables are distinct typed placeholders, that every
variable of a template has a type, that each direction has a connection between a cell and exactly
one neighbour, and that pickups and orientations speak of the avatar alone.
-/

namespace PlayTrace

/-- The part of a domain document that a template stands in. -/
inductive DomainPlace where
  | element (spriteKey : String)
  | pickup (resource : String)
  | connections
  | connection (d : Direction)
  | orientations
  | orientation (d : Direction)
deriving DecidableEq

/-- A place in a domain document as messages name it. -/
def DomainPlace.text : DomainPlace → String
  | element k => s!"gameElementsCorrespondence[{k}]"
  | pickup k => s!"pickedResourcesPredicates[{k}]"
  | connections => "connections"
  | connection d => s!"connections[{d.name}]"
  | orientations => "orientationCorrespondence"
  | orientation d => s!"orientationCorrespondence[{d.name}]"

/-- The two variables that a domain names expressly. -/
inductive DomainRole where
  | avatar
  | cell
deriving DecidableEq

/-- The key under which a domain document names a variable. -/
def DomainRole.text : DomainRole → String
  | avatar => "avatarVariable"
  | cell => "cellVariable"

/-- Why a document is not a domain. -/
inductive DomainFault where
  /-- the document is not a mapping -/
  | notMapping
  /-- a required part of the document is not a mapping -/
  | partNotMapping (part : String)
  /-- the templates of a sprite are not listed -/
  | templatesNotList (place : DomainPlace)
  /-- a template cannot be read -/
  | template (place : DomainPlace) (fault : Template.SyntaxFault)
  /-- the templates of the directions are not in a mapping -/
  | directionsNotMapping (place : DomainPlace)
  /-- a key is not a direction; `shown` is the key as messages show it -/
  | notDirection (place : DomainPlace) (shown : String)
  /-- the text of a value is asked for, and an integer in it has too many digits to be written -/
  | longInteger
  /-- a leading variable is missing -/
  | noVariable (role : DomainRole)
  /-- a leading variable is not written as a placeholder -/
  | notPlaceholder (role : DomainRole) (name : String)
  /-- a leading variable has no type -/
  | roleUntyped (role : DomainRole) (name : String)
  /-- the two leading variables are the same -/
  | sameVariable
  /-- a variable of a template has no type -/
  | untyped (place : DomainPlace) (name source : String)
  /-- a template speaks of more than the avatar -/
  | notAvatarOnly (place : DomainPlace) (avatar source : String)
  /-- some directions have no template -/
  | missingDirections (place : DomainPlace) (missing : List Direction)
  /-- a connection does not speak of the cell it leaves -/
  | cellUnused (place : DomainPlace) (source cell : String)
  /-- a connection does not lead to exactly one neighbour -/
  | neighbourCount (place : DomainPlace) (source : String)
deriving DecidableEq

/-- The wording of a cause. -/
def DomainFault.message : DomainFault → String
  | notMapping => "domain config must be a mapping"
  | partNotMapping part => s!"{part} must be a mapping"
  | templatesNotList p => s!"{p.text} must be a list of templates"
  | template p f => s!"{p.text}: {f.message}"
  | directionsNotMapping p => s!"{p.text} must be a mapping of direction -> template"
  | notDirection p shown => s!"{p.text} key {shown} must be one of {Direction.allNames}"
  | longInteger => Text.longIntegerMessage
  | noVariable r => s!"{r.text} must be a non-empty string"
  | notPlaceholder r v => s!"{r.text} {Text.quoted v} is not a placeholder"
  | roleUntyped r v => s!"{r.text} {Text.quoted v} has no entry in variablesTypes"
  | sameVariable => "avatarVariable and cellVariable must differ"
  | untyped p v s =>
    s!"{p.text}: variable {v} in {Text.quoted s} is not declared in variablesTypes"
  | notAvatarOnly p a s => s!"{p.text}: only {a} may appear in {Text.quoted s}"
  | missingDirections p ds =>
    s!"{p.text} missing directions: " ++ ", ".intercalate (ds.map Direction.name)
  | cellUnused p s c => s!"{p.text}: {Text.quoted s} must use {c}"
  | neighbourCount p s => s!"{p.text}: {Text.quoted s} needs exactly one neighbour placeholder"

/-- What a domain document says. -/
structure DomainTables where
  /-- the variable that stands for the avatar -/
  avatar : String
  /-- the variable that stands for the cell at hand -/
  cell : String
  /-- the types of the variables -/
  types : Table String String
  /-- the templates that describe a sprite, by its key -/
  elements : Table String (List Template)
  /-- the predicate that records a collected resource, by its key -/
  pickups : Table String Template
  /-- how a cell is connected to its neighbour in a direction -/
  connections : Table Direction Template
  /-- how it is written that the avatar looks in a direction -/
  orientations : Option (Table Direction Template)
deriving DecidableEq

namespace DomainTables

/-- What is wrong with a leading variable. -/
def roleFault? (t : DomainTables) (role : DomainRole) (name : String) : Option DomainFault :=
  if !Template.isPlaceholder name then some (.notPlaceholder role name)
  else if !t.types.contains name then some (.roleUntyped role name)
  else none

/-- The first variable of a template that has no type, as a fault. -/
def untypedFault? (t : DomainTables) (place : DomainPlace) (p : Template) : Option DomainFault :=
  (p.variableNames.find? fun v => !t.types.contains v).map fun v => .untyped place v p.source

/-- What is wrong with a template that should speak of the avatar alone. -/
def avatarOnlyFault? (t : DomainTables) (place : DomainPlace) (p : Template) :
    Option DomainFault :=
  t.untypedFault? place p <|>
    if p.variableNames.all (· == t.avatar) then none else some (.notAvatarOnly place t.avatar p.source)

/-- What is wrong with a connection. -/
def connectionFault? (t : DomainTables) (place : DomainPlace) (p : Template) :
    Option DomainFault :=
  t.untypedFault? place p <|>
    (if p.uses t.cell then none else some (.cellUnused place p.source t.cell)) <|>
    (if (p.variableNames.filter (· ≠ t.cell)).length = 1 then none
      else some (.neighbourCount place p.source))

/-- The directions that lack a template, as a fault. -/
def missingFault? (place : DomainPlace) (table : Table Direction Template) : Option DomainFault :=
  let missing := Direction.all.filter fun d => !table.contains d
  if missing.isEmpty then none else some (.missingDirections place missing)

/-- What is wrong with the two leading variables. -/
def rolesFault? (t : DomainTables) : Option DomainFault :=
  t.roleFault? .avatar t.avatar <|> t.roleFault? .cell t.cell <|>
    if t.avatar = t.cell then some .sameVariable else none

/-- What is wrong with the templates of the sprites. -/
def elementsFault? (t : DomainTables) : Option DomainFault :=
  t.elements.entries.findSome? fun e => e.2.findSome? (t.untypedFault? (.element e.1))

/-- What is wrong with the predicates for collected resources. -/
def pickupsFault? (t : DomainTables) : Option DomainFault :=
  t.pickups.entries.findSome? fun e => t.avatarOnlyFault? (.pickup e.1) e.2

/-- What is wrong with the connections. -/
def connectionsFault? (t : DomainTables) : Option DomainFault :=
  missingFault? .connections t.connections <|>
    t.connections.entries.findSome? fun e => t.connectionFault? (.connection e.1) e.2

/-- What is wrong with the orientations. -/
def orientationsFault? (t : DomainTables) : Option DomainFault :=
  match t.orientations with
  | none => none
  | some table =>
    missingFault? .orientations table <|>
      table.entries.findSome? fun e => t.avatarOnlyFault? (.orientation e.1) e.2

/-- The first inconsistency of the tables. -/
def fault? (t : DomainTables) : Option DomainFault :=
  t.rolesFault? <|> t.elementsFault? <|> t.pickupsFault? <|> t.connectionsFault? <|>
    t.orientationsFault?

end DomainTables

/-- Consistent tables of a domain. -/
structure Domain extends DomainTables where
  consistent : toDomainTables.fault? = none
deriving DecidableEq

namespace Domain

/-- The domain of consistent tables. -/
def ofTables (t : DomainTables) : Except DomainFault Domain :=
  match h : t.fault? with
  | some f => .error f
  | none => .ok ⟨t, h⟩

/-- The type of a variable. -/
def typeOf (D : Domain) (name : String) : Except Fault String :=
  match D.types.get? name with
  | some t => .ok t
  | none => .error (.untyped name)

/-- The object that stands for the avatar. -/
def avatarObject (D : Domain) : Except Fault Object := do
  return .singleton D.avatar (← D.typeOf D.avatar)

/-- The object that stands for a variable at a cell of a grid. -/
def objectAt (D : Domain) (name : String) (c : Cell) : Except Fault Object := do
  return .atCell name (← D.typeOf name) c.x c.y

/-- The object that stands for a variable at a cell that may lie anywhere. It has no name if the
column or the row has too many digits. -/
def objectAnywhere (D : Domain) (name : String) (c : Cell) : Except Fault Object := do
  let o ← D.objectAt name c
  if c.isWritable then return o else throw .longInteger

/-- The object that stands for a cell of a grid. -/
def cellObject (D : Domain) (c : Cell) : Except Fault Object := D.objectAt D.cell c

/-- The templates that describe the sprites of a key; a key that the domain does not know has
none. -/
def templatesOf (D : Domain) (key : String) : List Template := (D.elements.get? key).getD []

/-- The variables in the templates of a key, in the order of their first appearance. -/
def variablesOf (D : Domain) (key : String) : List String :=
  ((D.templatesOf key).flatMap Template.variableNames).eraseDups

/-- The variable that names a sprite of the key itself: the first one in its templates that stands
neither for the avatar nor for the cell. -/
def resourceVariable? (D : Domain) (key : String) : Option String :=
  ((D.templatesOf key).flatMap Template.variableNames).find? fun v => v ≠ D.cell && v ≠ D.avatar

end Domain

end PlayTrace
