import PlayTrace.Batch
import PlayTrace.CommandLine.Options
import PlayTrace.Document.File
import PlayTrace.Settings.Reading

/-!
# Runs

What a command line makes the program do: settle the settings from the command line and from the
document of a configuration file, read the domain and the game, play a batch of episodes, and tell
what came of it.

A run may end early in two ways. A cause that is the user's to mend is told as a fault of usage.
A setting of the wrong form that is looked at before the settings of the episodes are put together
ends the run as a failure, and so does whatever else goes wrong.
-/

namespace PlayTrace

namespace CommandLine

/-- Why a run ends with a fault of usage. -/
inductive UsageFault where
  | options (fault : Fault)
  | configNotFound (path : Path)
  | configNotJson (path : Path)
  /-- the domain or the game is not named -/
  | incomplete
  | setting (fault : SettingFault)
  | settings (fault : PlayTrace.Fault)
  | domain (fault : DomainFileFault)
  | game (fault : GameFileFault)
deriving DecidableEq

/-- The wording of a cause. -/
def UsageFault.message : UsageFault → String
  | options f => f.message
  | configNotFound p => s!"Config file not found: {p.text}"
  | configNotJson p => s!"Config file is not valid JSON: {p.text}"
  | incomplete => "--domain and --game are required (on the command line or in --config)"
  | setting f => f.message
  | settings f => f.message
  | domain (.document _ (.unreadable .nullCharacter)) => "embedded null byte"
  | domain (.document _ (.noValue f)) => f.message
  | domain (.domain .longInteger) => DomainFault.longInteger.message
  | domain f => s!"Invalid domain file: {f.message}"
  | game f => f.message

/-- What a level of messages must not be called: a name that already stands for something else. -/
inductive ReservedName where
  /-- the name of the standard format of messages -/
  | format
  /-- the name of the table of the styles in which a format may be written -/
  | styles
deriving DecidableEq

namespace ReservedName

/-- The reserved names. -/
def all : List ReservedName := [format, styles]

/-- A reserved name. -/
def name : ReservedName → String
  | format => "BASIC_FORMAT"
  | styles => "_STYLES"

/-- What is said when a level of messages has a reserved name; the table of styles is told by its kind
alone. -/
def message : ReservedName → String
  | format => "Unknown level: " ++ Text.quoted "%(levelname)s:%(name)s:%(message)s"
  | styles => ""

end ReservedName

/-- Why a run fails. -/
inductive RunFailure where
  /-- the configuration file is named by a value that is no path -/
  | configNotPath
  /-- an integer in the configuration file has too many digits -/
  | configInteger (fault : Text.IntegerFault)
  /-- lists and objects in the configuration file lie too deeply in each other -/
  | configTooDeep
  /-- a setting is asked for, and the configuration file holds no mapping -/
  | configNotMapping
  /-- the level of messages has a name that stands for something else -/
  | reservedLevel (name : ReservedName)
  /-- something in a domain file or game file is beyond what can be dealt with -/
  | document (fault : Yaml.Fault)
  | setting (fault : SettingFault)
  | file (fault : FileFault)
  | game (fault : GameFault)
  | play (fault : PlayTrace.Fault)
deriving DecidableEq

/-- How a run ends early. -/
inductive Stop where
  | help
  | usage (fault : UsageFault)
  | failure (cause : RunFailure)
deriving DecidableEq

/-- The ending of a run by a setting that belongs to the episodes. A number too large for an integer
is a failure. -/
def Stop.ofSetting : SettingFault → Stop
  | .badNumber .tooLarge => .failure (.setting (.badNumber .tooLarge))
  | f => .usage (.setting f)

/-- The ending of a run by a domain file. What is beyond what can be dealt with is a failure. -/
def Stop.ofDomainFile : DomainFileFault → Stop
  | .document p (.noValue f) =>
    if f.severity = .wrong then .usage (.domain (.document p (.noValue f)))
    else .failure (.document f)
  | f => .usage (.domain f)

/-- The ending of a run by a game file. A value of a wholly different form than asked for is a
failure, and so is what is beyond what can be dealt with. -/
def Stop.ofGameFile : GameFileFault → Stop
  | .document p (.noValue f) =>
    if f.severity = .wrong then .usage (.game (.document p (.noValue f)))
    else .failure (.document f)
  | .game .notMapping => .failure (.game .notMapping)
  | .game .notCollection => .failure (.game .notCollection)
  | .game .notInteger => .failure (.game .notInteger)
  | .game (.badNumber .tooLarge) => .failure (.game (.badNumber .tooLarge))
  | f => .usage (.game f)

/-- The ending of a run by a batch. -/
def Stop.ofBatch : Batch.Failure → Stop
  | .play f => .failure (.play f)
  | .file f => .failure (.file f)

/-! ### Settings -/

/-- Where settings are looked up: the options, and the document of the configuration file. -/
structure Sources where
  options : Options
  document : Value

namespace Sources

variable (s : Sources)

/-- The value of a setting. The document is looked at only if the options do not tell. -/
def lookup (key : SettingKey) (missing : Value) : Except RunFailure Value :=
  match s.options.values.get? key, s.document with
  | some v, _ => .ok v
  | none, .mapping entries => .ok (Setting.resolve none entries key.name missing)
  | none, _ => .error .configNotMapping

/-- A setting that is an integer. -/
def int (key : SettingKey) (missing : Int) : Except RunFailure Int := do
  (Setting.readInt key.name (← s.lookup key (.int missing))).mapError .setting

/-- A setting that is a truth value. -/
def bool (key : SettingKey) (missing : Bool) : Except RunFailure Bool := do
  (Setting.readBool key.name (← s.lookup key (.bool missing))).mapError .setting

/-- A setting that is a text. -/
def text (key : SettingKey) (missing : String) : Except RunFailure String := do
  (Setting.readText key.name (← s.lookup key (.text missing))).mapError .setting

end Sources

/-- The ending of a run by a cause that was met while the settings of the episodes were put
together. -/
def Stop.ofLate : RunFailure → Stop
  | .setting f => .ofSetting f
  | f => .failure f

/-- What is settled before the settings of the episodes are. -/
structure Plan where
  domain : Value
  game : Value
  episodes : Int
  seed : Int
  out : Path
  printReport : Bool
  /-- the number of steps, or null -/
  maxSteps : Value

/-- The level of messages, unless another is set. -/
def defaultLogLevel : String := "WARNING"

/-- The directory of the results, unless another is set. -/
def defaultOut : String := "data"

/-- Checks the level of messages. A name that stands for nothing is as good as that of a level. -/
def checkLogLevel (name : String) : Except RunFailure Unit :=
  match ReservedName.all.find? fun r => r.name == Text.upper name with
  | some r => .error (.reservedLevel r)
  | none => .ok ()

/-- Settles the plan of a run. -/
def Sources.plan (s : Sources) : Except Stop Plan := do
  let level ← (s.text .logLevel defaultLogLevel).mapError .failure
  (checkLogLevel level).mapError .failure
  let domain ← (s.lookup .domain .null).mapError .failure
  let game ← (s.lookup .game .null).mapError .failure
  match domain, game with
  | .null, _ | _, .null => throw (.usage .incomplete)
  | domain, game => Except.mapError .failure do
    return {
      domain, game
      episodes := ← s.int .episodes 1
      seed := ← s.int .seed 0
      out := Path.ofText (← s.text .outDir defaultOut)
      printReport := ← s.bool .printReport false
      maxSteps := ← s.lookup .maxSteps .null }

/-- Settles the settings of the episodes. -/
def Sources.settings (s : Sources) (plan : Plan) : Except Stop Settings := do
  let modeName ← (s.text .groundingMode Mode.cell.name).mapError .ofLate
  let mode ← (Mode.ofName modeName).mapError fun f => .usage (.settings f)
  let lookahead ← (s.int .lookahead defaultLookahead).mapError .ofLate
  let maxSteps ← match plan.maxSteps with
    | .null => pure none
    | v => some <$> (Setting.readInt SettingKey.maxSteps.name v).mapError .ofSetting
  (Settings.make? lookahead mode maxSteps).mapError fun f => .usage (.settings f)

/-! ### Running -/

variable {m : Type → Type} [Monad m]

/-- A step of a run that has no need of files. -/
def settle {α : Type} (r : Except Stop α) : ExceptT Stop m α := ExceptT.mk (pure r)

/-- Reads the document of the configuration file, if there is one. -/
def readConfig (fs : FileSystem m) (o : Options) : ExceptT Stop m Value :=
  match o.values.get? .config with
  | none => pure (.mapping [])
  | some (.text s) => do
    let p := Path.ofText s
    match ← (fs.read p : m (Except FileFault String)) with
    | .error .notFound => throw (.usage (.configNotFound p))
    | .error f => throw (.failure (.file f))
    | .ok s =>
      match Json.read s with
      | .ok v => return v
      | .error .malformed => throw (.usage (.configNotJson p))
      | .error (.integer f) => throw (.failure (.configInteger f))
      | .error .tooDeep => throw (.failure .configTooDeep)
  | some _ => throw (.failure .configNotPath)

/-- The path that a setting names. -/
def pathOf (key : SettingKey) (v : Value) : Except Stop Path := do
  return Path.ofText (← (Setting.readText key.name v).mapError .ofSetting)

/-- What a run tells about its episodes. -/
def overview (D : Domain) (settings : Settings) (out : Path) (es : List SeededEpisode) : Value :=
  let total (f : SeededEpisode → Nat) : Nat := es.foldl (fun n e => n + f e) 0
  let picked (key : String) : Nat := total fun e => (e.picked.get? key).getD 0
  .mapping [
    (.text "episodes", .int es.length),
    (.text "grounding_mode", .text settings.mode.name),
    (.text "total_turns", .int (total SeededEpisode.turns)),
    (.text "total_states", .int (total SeededEpisode.stateCount)),
    (.text "picked_resources", .mapping (D.pickups.keys.map fun k => (.text k, .int (picked k)))),
    (.text "trace_log", .text out.traceLog.text)]

/-- Reads the report on the first episode. -/
def readReport (fs : FileSystem m) (out : Path) (es : List SeededEpisode) :
    ExceptT Stop m String :=
  match es with
  | [] => pure ""
  | e :: _ => do
    match ← (fs.read (out.report e.id) : m (Except FileFault String)) with
    | .ok s => return s
    | .error f => throw (.failure (.file f))

/-- Runs the program and tells what it prints. -/
def run (fs : FileSystem m) (argv : List String) : ExceptT Stop m String := do
  let options ← settle ((read argv).mapError fun f => .usage (.options f))
  if options.help then throw .help
  let sources : Sources := ⟨options, ← readConfig fs options⟩
  let plan ← settle sources.plan
  let settings ← settle (sources.settings plan)
  let domainPath ← settle (pathOf .domain plan.domain)
  let D ← ExceptT.mk do return (← fs.readDomain domainPath).mapError .ofDomainFile
  let gamePath ← settle (pathOf .game plan.game)
  let g ← ExceptT.mk do return (← fs.readGame gamePath).mapError .ofGameFile
  let es ← ExceptT.mk do
    return (← (Batch.run fs g D settings plan.episodes plan.seed plan.out).run).mapError .ofBatch
  let report ← if plan.printReport then readReport fs plan.out es else pure ""
  return report ++ Json.write (overview D settings plan.out es) ++ "\n"

end CommandLine

end PlayTrace
