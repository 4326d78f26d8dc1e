import PlayTrace.Document.Yaml.Reader
import PlayTrace.Domain.Document
import PlayTrace.Game.Document
import PlayTrace.Storage.FileSystem

/-!
# Domain files and game files

Reading a domain or a game from a YAML file. The file must be readable, be YAML, and hold a mapping;
only then is the mapping looked at.
-/

namespace PlayTrace

/-- Why a file does not hold a document. -/
inductive FileDocumentFault where
  | unreadable (fault : FileFault)
  | notYaml
  /-- the file is YAML, but something in it has no value -/
  | noValue (fault : Yaml.Fault)
  | notMapping
deriving DecidableEq

/-- How grave it is that something in a YAML text has no value. -/
inductive Yaml.Severity where
  /-- a text that stands for a value stands for none -/
  | wrong
  /-- a number is too large to be dealt with -/
  | overflow
  /-- lists and mappings lie too deeply in each other to be dealt with -/
  | depth
deriving DecidableEq

/-- How grave a cause is. A code point of 32 bits cannot even be compared with the last one. -/
def Yaml.Fault.severity : Yaml.Fault → Yaml.Severity
  | codePoint n _ => if n < 0x80000000 then .wrong else .overflow
  | tooLarge => .overflow
  | tooDeep => .depth
  | malformed | integer _ | noDigits _ => .wrong

/-- The wording of the causes for which something in a YAML text has no value; the grave ones are
told by their kind alone and have none. -/
def Yaml.Fault.message : Yaml.Fault → String
  | malformed => "malformed"
  | codePoint n _ => if n < 0x80000000 then "chr() arg not in range(0x110000)" else ""
  | integer f => f.message
  | noDigits base => s!"invalid literal for int() with base {base}: ''"
  | tooLarge | tooDeep => ""

/-- Reads the mapping that a YAML text holds. -/
def Value.ofYaml (s : String) : Except FileDocumentFault Value :=
  match Yaml.read s with
  | .ok (.mapping entries) => .ok (.mapping entries)
  | .ok _ => .error .notMapping
  | .error .malformed => .error .notYaml
  | .error f => .error (.noValue f)

/-- Reads the mapping that a YAML file holds. -/
def FileSystem.readDocument {m : Type → Type} [Monad m] (fs : FileSystem m) (p : Path) :
    m (Except FileDocumentFault Value) := do
  match ← fs.read p with
  | .ok s => return Value.ofYaml s
  | .error f => return .error (.unreadable f)

/-- Why a file does not hold a domain. -/
inductive DomainFileFault where
  | document (path : Path) (fault : FileDocumentFault)
  | domain (fault : DomainFault)
deriving DecidableEq

/-- The wording of a cause. -/
def DomainFileFault.message : DomainFileFault → String
  | document _ (.unreadable .nullCharacter) => "embedded null byte"
  | document p (.unreadable f) => s!"Domain config not readable: {p.text}: {f.message p}"
  | document p .notYaml => s!"Domain config is not valid YAML: {p.text}"
  | document _ (.noValue f) => f.message
  | document p .notMapping => s!"Domain config must be a YAML mapping: {p.text}"
  | domain f => f.message

/-- Why a file does not hold a game. -/
inductive GameFileFault where
  | document (path : Path) (fault : FileDocumentFault)
  | game (fault : GameFault)
deriving DecidableEq

/-- The wording of a cause; the causes that are told by their kind alone have none. -/
def GameFileFault.message : GameFileFault → String
  | document _ (.unreadable .nullCharacter) => "embedded null byte"
  | document p (.unreadable _) => s!"Game file not found: {p.text}"
  | document p .notYaml => s!"Game file is not valid YAML: {p.text}"
  | document _ (.noValue f) => f.message
  | document p .notMapping => s!"Game file must be a YAML mapping: {p.text}"
  | game f => f.message

namespace FileSystem

variable {m : Type → Type} [Monad m]

/-- Reads a domain file. -/
def readDomain (fs : FileSystem m) (p : Path) : m (Except DomainFileFault Domain) := do
  match ← fs.readDocument p with
  | .ok v => return (Domain.ofValue v).mapError .domain
  | .error f => return .error (.document p f)

/-- Reads a game file. -/
def readGame (fs : FileSystem m) (p : Path) : m (Except GameFileFault Game) := do
  match ← fs.readDocument p with
  | .ok v => return (Game.ofValue v).mapError .game
  | .error f => return .error (.document p f)

end FileSystem

end PlayTrace
