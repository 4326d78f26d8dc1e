import PlayTrace.Document.Value
import PlayTrace.Domain.Basic

/-!
# Domain documents

Reading a domain from a document. Each part of the document is read in turn, and the first part that
cannot be read settles the answer; only then is the whole checked for consistency.
-/

namespace PlayTrace

/-- Reads a template from a document value. -/
def Template.ofValue : Value → Except SyntaxFault Template
  | .text s => parse s
  | v => .error (.notText v.shown)

namespace DomainTables

/-- The value, if its text can be written. -/
def written (v : Value) : Except DomainFault Value :=
  if v.isWritable then .ok v else .error .longInteger

/-- Reads a text, for which any value may stand. -/
def readText (v : Value) : Except DomainFault String := Value.plain <$> written v

/-- Reads a template that stands at a place of a domain document. -/
def readTemplate (place : DomainPlace) (v : Value) : Except DomainFault Template := do
  (Template.ofValue (← written v)).mapError (.template place)

/-- Reads a part of a domain document that must be a mapping. -/
def readMapping (document : List (Value × Value)) (part : String) :
    Except DomainFault (List (Value × Value)) :=
  match Value.lookup? document part with
  | some (.mapping entries) => .ok entries
  | _ => .error (.partNotMapping part)

/-- Reads a leading variable. -/
def readVariable (document : List (Value × Value)) (role : DomainRole) :
    Except DomainFault String :=
  match Value.lookup? document role.text with
  | some (.text s) => if s.isEmpty then .error (.noVariable role) else .ok s
  | _ => .error (.noVariable role)

/-- Reads the types of the variables. -/
def readTypes (entries : List (Value × Value)) : Except DomainFault (Table String String) := do
  let read ← entries.mapM fun e => do return (← readText e.1, ← readText e.2)
  return .ofList read

/-- Reads the templates of one sprite key. -/
def readTemplates (place : DomainPlace) : Value → Except DomainFault (List Template)
  | .list items => items.mapM (readTemplate place)
  | _ => .error (.templatesNotList place)

/-- Reads the templates of the sprites. -/
def readElements (entries : List (Value × Value)) :
    Except DomainFault (Table String (List Template)) := do
  let read ← entries.mapM fun e => do
    let key ← readText e.1
    return (key, ← readTemplates (.element key) e.2)
  return .ofList read

/-- Reads the predicates for collected resources; a value that is not present stands for none. -/
def readPickups (v : Value) : Except DomainFault (Table String Template) :=
  if !v.isPresent then .ok .empty
  else
    match v with
    | .mapping entries => do
      let read ← entries.mapM fun e => do
        let key ← readText e.1
        return (key, ← readTemplate (.pickup key) e.2)
      return .ofList read
    | _ => .error (.partNotMapping "pickedResourcesPredicates")

/-- Reads a direction, in small letters or capitals. -/
def readDirection (place : DomainPlace) (key : Value) : Except DomainFault Direction := do
  match Direction.ofName? (Text.upper (← readText key)) with
  | some d => return d
  | none => throw (.notDirection place key.shown)

/-- Reads the templates of the directions. -/
def readDirections (place : DomainPlace) : Value → Except DomainFault (Table Direction Template)
  | .mapping entries => do
    let read ← entries.mapM fun e => do
      return (← readDirection place e.1, ← readTemplate place e.2)
    return .ofList read
  | _ => .error (.directionsNotMapping place)

/-- Reads the orientations, which may be missing or null. -/
def readOrientations : Value → Except DomainFault (Option (Table Direction Template))
  | .null => .ok none
  | v => some <$> readDirections .orientations v

/-- Reads the tables of a domain document. -/
def ofValue : Value → Except DomainFault DomainTables
  | .mapping document => do
    let part (key : String) : Value := (Value.lookup? document key).getD .null
    let types ← readTypes (← readMapping document "variablesTypes")
    let elements ← readElements (← readMapping document "gameElementsCorrespondence")
    let pickups ← readPickups (part "pickedResourcesPredicates")
    let orientations ← readOrientations (part "orientationCorrespondence")
    let avatar ← readVariable document .avatar
    let cell ← readVariable document .cell
    let connections ← readDirections .connections (part "connections")
    return { avatar, cell, types, elements, pickups, connections, orientations }
  | _ => .error .notMapping

end DomainTables

/-- Reads a domain document. -/
def Domain.ofValue (v : Value) : Except DomainFault Domain := do
  ofTables (← DomainTables.ofValue v)

end PlayTrace
