import PlayTrace.Document.Json
import PlayTrace.Episode
import PlayTrace.Random.Twister
import PlayTrace.Storage.FileSystem
import PlayTrace.Storage.Layout
import PlayTrace.Trace.Report

/-!
# Batches of episodes

A batch plays a game several times, with consecutive seeds, and keeps what came of it: a report and
a summary of each episode, and one log of all traces. What an episode comes to depends on the game
and its own seed only, so a batch may be split anywhere.

The episodes are played and written one after the other. Their traces are collected in the log,
which is flushed into its file whenever it has grown to a threshold, and at the end. So a batch that
stops at a fault leaves behind what it had written until then.
-/

namespace PlayTrace

/-- An episode together with the seed it was played with. An episode is named by its seed, so the
seed is one that can be written. -/
structure SeededEpisode where
  seed : Int
  episode : Episode
  isWritable_seed : Text.isWritable seed = true
deriving DecidableEq

namespace SeededEpisode

variable (e : SeededEpisode)

/-- The name of the episode. -/
def id : String := s!"episode_s{e.seed}"

/-- The number of turns. -/
def turns : Nat := e.episode.turns

/-- The number of states in the trace. -/
def stateCount : Nat := e.episode.trace.states.length

/-- The number of actions in the trace. -/
def actionCount : Nat := e.episode.trace.actions.length

/-- How often each resource was collected. -/
def picked : Table String Nat := e.episode.ledger.counts

/-- The form of summaries. -/
def summaryVersion : Int := 1

/-- The summary of the episode. -/
def summary (settings : Settings) : Value := .mapping [
  (.text "schema_version", .int summaryVersion),
  (.text "episode_id", .text e.id),
  (.text "seed", .int e.seed),
  (.text "turns", .int e.turns),
  (.text "n_states", .int e.stateCount),
  (.text "n_actions", .int e.actionCount),
  (.text "picked_resources", .mapping (e.picked.entries.map fun (k, n) => (.text k, .int n))),
  (.text "won", .bool e.episode.world.won),
  (.text "grounding_mode", .text settings.mode.name),
  (.text "lookahead_simulations", .int settings.lookahead)]

/-- The summary as text. The settings may ask for a look ahead that cannot be written; the other
numbers are the seed and counts of what the episode holds, which can. -/
def summaryText (settings : Settings) : Except Fault String :=
  if Text.isWritable settings.lookahead then .ok (Json.write (e.summary settings))
  else .error .longInteger

end SeededEpisode

/-- The game as the settings want it: with their number of steps, if they have one. -/
def Game.under (g : Game) (settings : Settings) : Game :=
  match h : settings.maxSteps with
  | none => g
  | some n => g.capped n (settings.maxSteps_pos n h)

namespace Batch

/-- Plays the episode of a seed. -/
def playSeed (g : Game) (D : Domain) (settings : Settings) (precision : Precision) (seed : Int) :
    Except Fault SeededEpisode :=
  if h : Text.isWritable seed = true then do
    let w := World.ofGame (g.under settings) precision
    return ⟨seed, ← Episode.play D settings Twister.draw w (Twister.seed seed), h⟩
  else .error .longInteger

/-- The directories that a batch writes to. -/
def directories (out : Path) : List Path := [out.logs, out.traces, out.episodes]

/-- Why a batch is not completed. -/
inductive Failure where
  | play (fault : Fault)
  | file (fault : FileFault)
deriving DecidableEq

variable {m : Type → Type} [Monad m]

/-- A step of a batch that has no need of files. -/
def settle {α : Type} (r : Except Fault α) : ExceptT Failure m α :=
  ExceptT.mk (pure (r.mapError .play))

/-- An access to a file as a step of a batch. -/
def access {α : Type} (r : m (Except FileFault α)) : ExceptT Failure m α :=
  ExceptT.mk do return (← r).mapError .file

/-- Writes the report and the summary of an episode. -/
def writeEpisode (fs : FileSystem m) (settings : Settings) (out : Path) (e : SeededEpisode) :
    ExceptT Failure m Unit := do
  access (fs.makeDirectory out.traces)
  access (fs.write (out.report e.id) (.text e.episode.trace.report))
  let summary ← settle (e.summaryText settings)
  access (fs.write (out.summary e.id) (.text summary))

/-- Writes what waits in the log, if anything does. The file then holds all that was ever
flushed. -/
def flushLog (fs : FileSystem m) (out : Path) (l : TraceLog) : ExceptT Failure m TraceLog :=
  if l.buffer.size = 0 then pure l
  else
    match l.flush? with
    | none => throw (.play (.number .tooLarge))
    | some flushed => do
      access (fs.write out.traceLog (.rows (flushed.written.getD [])))
      return flushed

/-- Adds the trace of an episode to the log, and flushes the log if it has grown to the
threshold. -/
def logEpisode (fs : FileSystem m) (threshold : Nat) (out : Path) (l : TraceLog)
    (e : SeededEpisode) : ExceptT Failure m TraceLog :=
  let l := l.append e.id e.episode.trace
  if threshold ≤ l.buffer.size then flushLog fs out l else pure l

/-- Plays and writes `n` episodes, with the seeds from `seed` on, and adds their traces to a
log. -/
def episodes (fs : FileSystem m) (threshold : Nat) (g : Game) (D : Domain) (settings : Settings)
    (out : Path) : Nat → Int → TraceLog → ExceptT Failure m (List SeededEpisode × TraceLog)
  | 0, _, l => pure ([], l)
  | n + 1, seed, l => do
    let e ← settle (playSeed g D settings .binary64 seed)
    writeEpisode fs settings out e
    let l ← logEpisode fs threshold out l e
    let (es, l) ← episodes fs threshold g D settings out n (seed + 1) l
    return (e :: es, l)

/-- Plays a batch of `n` episodes, with the seeds from `seed` on, and writes its files. The log is
flushed whenever it has grown to the threshold. -/
def runFlushing (fs : FileSystem m) (threshold : Nat) (g : Game) (D : Domain) (settings : Settings)
    (n seed : Int) (out : Path) : ExceptT Failure m (List SeededEpisode) := do
  if n < 1 then throw (.play .noEpisodes)
  (directories out).forM fun d => access (fs.makeDirectory d)
  let (es, l) ← episodes fs threshold g D settings out n.toNat seed .empty
  let _ ← flushLog fs out l
  return es

/-- Plays a batch of `n` episodes, with the seeds from `seed` on, and writes its files. -/
def run (fs : FileSystem m) (g : Game) (D : Domain) (settings : Settings) (n seed : Int)
    (out : Path) : ExceptT Failure m (List SeededEpisode) :=
  runFlushing fs TraceLog.flushThreshold g D settings n seed out

end Batch

end PlayTrace
