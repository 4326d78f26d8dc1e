import PlayTrace.Document.Value
import PlayTrace.Game.Basic
import PlayTrace.Text.Blank
import PlayTrace.Text.Case

/-!
# Reading settings

A setting is asked for under a key. What the command line gives counts before what the document
gives, and that before what is assumed when neither says anything. The value so found is then read
as an integer, a truth value or a text; none of them is read from a value of a wholly different
form.
-/

namespace PlayTrace

/-- Why a value is not accepted for a setting. -/
inductive SettingFault where
  /-- an integer is asked for, and the value has another form -/
  | notInteger (key : String)
  /-- an integer is asked for, and the number is not whole -/
  | notWhole (key : String) (x : Number)
  /-- an integer is asked for, and the number has no integer part -/
  | badNumber (fault : Number.Fault)
  /-- an integer is asked for, and the text is not one -/
  | badInteger (fault : Text.IntegerFault)
  /-- a truth value is asked for, and the value is none -/
  | notBool (key : String)
  /-- a text is asked for, and the value does not stand for one -/
  | notText (key : String)
deriving DecidableEq

/-- The wording of a cause; a number too large for an integer has none. -/
def SettingFault.message : SettingFault → String
  | notInteger k => s!"{k} must be an integer value"
  | notWhole k x => s!"{k} must be an integer value, got {x.text}"
  | badNumber .tooLarge => ""
  | badNumber .noValue => "cannot convert float NaN to integer"
  | badInteger f => f.message
  | notBool k => s!"{k} must be a boolean value"
  | notText k => s!"{k} must be a string-coercible value"

namespace Setting

/-- The value of a setting: the given one, else that of the document, else the missing one. A null
value counts as given by the document, but not by the command line. -/
def resolve (given : Option Value) (document : List (Value × Value)) (key : String)
    (missing : Value) : Value :=
  given.getD ((Value.lookup? document key).getD missing)

/-- Reads an integer. A floating-point number must be whole. -/
def readInt (key : String) : Value → Except SettingFault Int
  | .int n => .ok n
  | .float x => do
    let n ← x.truncate.mapError .badNumber
    if x.sameValue (.ofInt n) then return n else throw (.notWhole key x)
  | .text s => (Text.readInteger s).mapError .badInteger
  | _ => .error (.notInteger key)

/-- The words for a setting that is switched on. -/
def onWords : List String := ["1", "true", "yes", "on"]

/-- The words for a setting that is switched off. -/
def offWords : List String := ["0", "false", "no", "off"]

/-- Reads a truth value, which may be written as a word in small letters or capitals. -/
def readBool (key : String) : Value → Except SettingFault Bool
  | .bool b => .ok b
  | .text s =>
    let word := Text.lowerAscii (Text.strip s)
    if onWords.contains word then .ok true
    else if offWords.contains word then .ok false
    else .error (.notBool key)
  | _ => .error (.notBool key)

/-- Reads a text, for which a number may stand. -/
def readText (key : String) : Value → Except SettingFault String
  | .text s => .ok s
  | .int n => .ok (toString n)
  | .float x => .ok x.text
  | _ => .error (.notText key)

end Setting

end PlayTrace
