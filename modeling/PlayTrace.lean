import PlayTrace.Main
import PlayTrace.Proofs.Episode.Actions
import PlayTrace.Proofs.Episode.Conservation
import PlayTrace.Proofs.Episode.Trace
import PlayTrace.Storage.FileTree
import PlayTrace.Proofs.World.Chronicle
import PlayTrace.Proofs.Grounding.Totality
import PlayTrace.Proofs.Grounding.Notations
import PlayTrace.Proofs.Episode.Notations
import PlayTrace.Proofs.Document.Json
import PlayTrace.Proofs.Domain.Reading
import PlayTrace.Proofs.Domain.Document
import PlayTrace.Proofs.Episode.Cap
import PlayTrace.Proofs.Episode.Frame
import PlayTrace.Proofs.Text.Capital
import PlayTrace.Proofs.Text.Unambiguous
import PlayTrace.Proofs.Template.Words
import PlayTrace.Proofs.Trace.Report
import PlayTrace.Proofs.Trace.TableLibrary
import PlayTrace.Proofs.Grounding.Connectivity
import PlayTrace.Proofs.Episode.License
import PlayTrace.Proofs.Misprediction
import PlayTrace.Proofs.Storage.Layout
import PlayTrace.Proofs.Batch.Independence
import PlayTrace.Proofs.Grounding.GraphLibrary
import PlayTrace.Proofs.Grounding.Unseen
import PlayTrace.Proofs.Grounding.Facing
import PlayTrace.Proofs.Template.Grammar
import PlayTrace.Proofs.Grounding.Chain
import PlayTrace.Proofs.Recorder.Calls
import PlayTrace.Proofs.World.Level
import PlayTrace.Proofs.Episode.Objects
import PlayTrace.Proofs.Game.Document
import PlayTrace.Proofs.Grid.Squares
