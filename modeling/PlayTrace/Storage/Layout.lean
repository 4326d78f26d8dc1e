import PlayTrace.Storage.Path

/-!
# Where results are kept

The directories below an output directory, and the files in them: one log for all episodes, one
report and one summary for each.
-/

namespace PlayTrace

namespace Path

/-- The directory of the trace log. -/
def logs (out : Path) : Path := out.child "logs"

/-- The directory of the reports. -/
def traces (out : Path) : Path := out.child "traces"

/-- The directory of the summaries. -/
def episodes (out : Path) : Path := out.child "episodes"

/-- The file of the trace log. -/
def traceLog (out : Path) : Path := out.logs.child "trace_log.parquet"

/-- The file of the report on an episode. -/
def report (out : Path) (episodeId : String) : Path := out.traces.child (episodeId ++ ".txt")

/-- The file of the summary of an episode. -/
def summary (out : Path) (episodeId : String) : Path := out.episodes.child (episodeId ++ ".json")

end Path

end PlayTrace
