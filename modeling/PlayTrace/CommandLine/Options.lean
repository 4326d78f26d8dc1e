import PlayTrace.Document.Value
import PlayTrace.Grounding.Mode
import PlayTrace.Storage.Path
import PlayTrace.Text.Case
import PlayTrace.Text.Digit

/-!
# Options

The options of the command line, and how the words of a command line are read as options.

An option may be abbreviated as long as only one option is meant. Its argument is the next word, or
is attached with an equals sign. A word that begins with a hyphen is not an argument, unless it is a
negative number or holds a blank. Two hyphens alone end the options; since nothing but options is
accepted, whatever follows them is left over. Two hyphens that are attached do not count as an
argument, so the option is set to an empty list, which is then no value for it.

All words are told apart before the first of them is acted upon, so an ambiguous word is found
before a bad argument in front of it, and what is left over is reported last.
-/

namespace PlayTrace

/-- What can be set for a run. -/
inductive SettingKey where
  | config
  | domain
  | game
  | episodes
  | seed
  | lookahead
  | maxSteps
  | groundingMode
  | outDir
  | printReport
  | logLevel
deriving DecidableEq

/-- The name of a setting in a document. -/
def SettingKey.name : SettingKey → String
  | config => "config"
  | domain => "domain"
  | game => "game"
  | episodes => "episodes"
  | seed => "seed"
  | lookahead => "lookahead"
  | maxSteps => "max_steps"
  | groundingMode => "grounding_mode"
  | outDir => "out_dir"
  | printReport => "print_report"
  | logLevel => "log_level"

namespace CommandLine

/-- The levels of the messages about a run. -/
def logLevels : List String := ["DEBUG", "INFO", "WARNING", "ERROR"]

/-- What the argument of an option must be. -/
inductive ArgumentForm where
  | path
  | int
  /-- one of the given words -/
  | word (words : List String)
  /-- one of the given words, in small letters or capitals -/
  | capitalWord (words : List String)
deriving DecidableEq

/-- What an option does. -/
inductive Effect where
  | help
  /-- sets a truth value -/
  | switch (key : SettingKey) (value : Bool)
  /-- sets the value of its argument -/
  | set (key : SettingKey) (form : ArgumentForm)
deriving DecidableEq

/-- An option: how it is spelled, and what it does. -/
structure Spelling where
  text : String
  effect : Effect
deriving DecidableEq

/-- All options. -/
def spellings : List Spelling := [
  ⟨"-h", .help⟩,
  ⟨"--help", .help⟩,
  ⟨"--config", .set .config .path⟩,
  ⟨"--domain", .set .domain .path⟩,
  ⟨"--game", .set .game .path⟩,
  ⟨"--episodes", .set .episodes .int⟩,
  ⟨"--seed", .set .seed .int⟩,
  ⟨"--lookahead", .set .lookahead .int⟩,
  ⟨"--max-steps", .set .maxSteps .int⟩,
  ⟨"--grounding-mode", .set .groundingMode (.word [Mode.cell.name, Mode.numeric.name])⟩,
  ⟨"--out-dir", .set .outDir .path⟩,
  ⟨"--print-report", .switch .printReport true⟩,
  ⟨"--no-print-report", .switch .printReport false⟩,
  ⟨"--log-level", .set .logLevel (.capitalWord logLevels)⟩]

/-- Whether two options set the same. -/
def Effect.isSame : Effect → Effect → Bool
  | .help, .help => true
  | .switch k _, .switch l _ => k = l
  | .set k _, .set l _ => k = l
  | _, _ => false

/-- All spellings of what an option sets, as messages name it. -/
def Spelling.name (s : Spelling) : String :=
  "/".intercalate ((spellings.filter fun t => t.effect.isSame s.effect).map Spelling.text)

/-- Why a command line is not accepted. -/
inductive Fault where
  /-- a word abbreviates several options -/
  | ambiguous (word : String) (options : List String)
  | missingArgument (name : String)
  /-- an option that takes no argument has one attached -/
  | ignoredArgument (name text : String)
  | badInteger (name text : String)
  | badWord (name text : String) (words : List String)
  | leftOver (words : List String)
deriving DecidableEq

/-- The wording of a cause. -/
def Fault.message : Fault → String
  | ambiguous w os => s!"ambiguous option: {w} could match " ++ ", ".intercalate os
  | missingArgument n => s!"argument {n}: expected one argument"
  | ignoredArgument n t => s!"argument {n}: ignored explicit argument {Text.quoted t}"
  | badInteger n t => s!"argument {n}: invalid int value: {Text.quoted t}"
  | badWord n t ws =>
    s!"argument {n}: invalid choice: {Text.quoted t} (choose from " ++
      ", ".intercalate (ws.map Text.quoted) ++ ")"
  | leftOver ws => "unrecognized arguments: " ++ " ".intercalate ws

/-! ### Telling words apart -/

/-- The role of a word of a command line. -/
inductive Role where
  /-- the word is an argument, or stands alone -/
  | argument
  /-- two hyphens that end the options -/
  | divider
  /-- the word looks like an option, but is none -/
  | unknown
  /-- the word is an option, with what is attached to it -/
  | option (spelling : Spelling) (attached : Option String)
  /-- the word asks for help in one letter, to which more is attached -/
  | helpLetter (spelling : Spelling) (attached : List Char)
deriving DecidableEq

/-- A word of a command line and its role. -/
structure Word where
  text : String
  role : Role
deriving DecidableEq

/-- Splits a word at its first equals sign, if there is one. -/
def splitEquals (cs : List Char) : List Char × Option (List Char) :=
  let front := cs.takeWhile (· ≠ '=')
  match cs.dropWhile (· ≠ '=') with
  | [] => (front, none)
  | _ :: rest => (front, some rest)

/-- The option of exactly the given spelling. -/
def spelled? (cs : List Char) : Option Spelling := spellings.find? fun s => s.text.toList == cs

/-- Whether an option is spelled with a single hyphen. -/
def Spelling.isLetter (s : Spelling) : Bool := s.text.length == 2

/-- The role of an option with something attached by an equals sign. -/
def roleWith (s : Spelling) (attached : List Char) : Role :=
  if s.isLetter then .helpLetter s attached else .option s (some (String.ofList attached))

/-- The options that a word of at least two characters may mean, with their roles. -/
def candidates (cs : List Char) : List (Spelling × Role) :=
  if "--".toList.isPrefixOf cs then
    let (front, attached) := splitEquals cs
    (spellings.filter fun s => front.isPrefixOf s.text.toList).map fun s =>
      (s, .option s (attached.map String.ofList))
  else
    spellings.filterMap fun s =>
      if s.text.toList == cs.take 2 then some (s, .helpLetter s (cs.drop 2))
      else if cs.isPrefixOf s.text.toList then some (s, .option s none)
      else none

/-- Whether a word is a negative number, that is, a hyphen followed by digits with at most one point
before the last of them. A line feed at the end does not count. -/
def isNegativeNumber (cs : List Char) : Bool :=
  match cs with
  | '-' :: ds =>
    let ds := if ds.getLast? == some '\n' then ds.dropLast else ds
    let isDigit (c : Char) := (Text.digitValue? c).isSome
    match ds.dropWhile isDigit with
    | [] => !ds.isEmpty
    | '.' :: rest => !rest.isEmpty && rest.all isDigit
    | _ => false
  | _ => false

/-- The role of a word before the divider. -/
def roleOf (w : String) : Except Fault Role :=
  let cs := w.toList
  match spelled? cs, splitEquals cs with
  | some s, _ => .ok (.option s none)
  | none, (front, attached) =>
    if cs.head? ≠ some '-' || cs.length = 1 then .ok .argument
    else
      match spelled? front, attached with
      | some s, some attached => .ok (roleWith s attached)
      | _, _ =>
        match candidates cs with
        | [(_, role)] => .ok role
        | [] =>
          .ok (if isNegativeNumber cs || cs.contains ' ' then .argument else .unknown)
        | several => .error (.ambiguous w (several.map fun e => e.1.text))

/-- The words of a command line with their roles. -/
def classify : List String → Except Fault (List Word)
  | [] => .ok []
  | "--" :: ws => .ok (⟨"--", .divider⟩ :: ws.map (⟨·, .argument⟩))
  | w :: ws => do
    let role ← roleOf w
    let rest ← classify ws
    return ⟨w, role⟩ :: rest

/-! ### Acting on words -/

/-- What the words of a command line come to. -/
structure Options where
  /-- the values set; the last of several counts -/
  values : Table SettingKey Value
  /-- the words that no option makes use of, the last one first -/
  leftOver : List String
  /-- whether help was asked for before anything was found wrong -/
  help : Bool

/-- Reads an argument of the given form. -/
def readArgument (name : String) (form : ArgumentForm) (s : String) : Except Fault Value :=
  match form with
  | .path => .ok (.text (Path.ofText s).text)
  | .int =>
    match Text.readInteger s with
    | .ok n => .ok (.int n)
    | .error _ => .error (.badInteger name s)
  | .word words => if words.contains s then .ok (.text s) else .error (.badWord name s words)
  | .capitalWord words =>
    let s := Text.upper s
    if words.contains s then .ok (.text s) else .error (.badWord name s words)

/-- Reads an argument that is attached to an option. -/
def readAttached (name : String) (form : ArgumentForm) (s : String) : Except Fault Value :=
  if s == "--" then .ok (.list []) else readArgument name form s

/-- The part that makes an attachment to the letter for help unacceptable, if there is one. An
attachment that only repeats the letter is acceptable, and no other. -/
def unusedByHelp? (attached : List Char) : Option (List Char) :=
  match attached.dropWhile (· == 'h') with
  | [] => if attached.isEmpty then some [] else none
  | rest => some rest

/-- Acts on words, from left to right. Nothing counts any more once help is asked for. -/
def act (o : Options) : List Word → Except Fault Options
  | [] => .ok o
  | ⟨_, .option s none⟩ :: ws =>
    match s.effect, ws with
    | .help, _ => .ok { o with help := true }
    | .switch key b, ws => act { o with values := o.values.insert key (.bool b) } ws
    | .set key form, ⟨text, .argument⟩ :: ws => do
      act { o with values := o.values.insert key (← readArgument s.name form text) } ws
    | .set _ _, _ => .error (.missingArgument s.name)
  | ⟨_, .option s (some attached)⟩ :: ws =>
    match s.effect with
    | .set key form => do
      act { o with values := o.values.insert key (← readAttached s.name form attached) } ws
    | _ => .error (.ignoredArgument s.name attached)
  | ⟨_, .helpLetter s attached⟩ :: _ =>
    match unusedByHelp? attached with
    | none => .ok { o with help := true }
    | some unused => .error (.ignoredArgument s.name (String.ofList unused))
  | w :: ws => act { o with leftOver := w.text :: o.leftOver } ws

/-- Reads a command line. -/
def read (argv : List String) : Except Fault Options := do
  let o ← act ⟨.empty, [], false⟩ (← classify argv)
  if o.help || o.leftOver.isEmpty then return o else throw (.leftOver o.leftOver.reverse)

end CommandLine

end PlayTrace
