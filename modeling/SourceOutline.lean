import SourceOutline.Log.Hub
import SourceOutline.Main
import SourceOutline.Text.Utf16
import SourceOutline.Proofs.Chunker.Events
import SourceOutline.Proofs.Chunker.Rounds
import SourceOutline.Proofs.Session.Outcome
import SourceOutline.Proofs.SyntaxTree.Occurrence
import SourceOutline.Proofs.Chunker.Ancestors
import SourceOutline.Proofs.Chunker.Agreement
import SourceOutline.Proofs.Outline.Hierarchy
import SourceOutline.Proofs.Chunker.Agreement.Go
import SourceOutline.Proofs.Chunker.Agreement.Python
import SourceOutline.Proofs.Chunker.Visits
import SourceOutline.Proofs.Chunker.Polling
import SourceOutline.Proofs.Outline.Validity
import SourceOutline.Proofs.Chunk.Identity
import SourceOutline.Proofs.Chunk.HashedBytes
import SourceOutline.Proofs.SyntaxTree.Layout
import SourceOutline.Proofs.Outline.Lookalike
import SourceOutline.Proofs.Text.Newline
import SourceOutline.Proofs.Text.WellFormed
import SourceOutline.Proofs.Outline.Lines
import SourceOutline.Proofs.SyntaxTree.Facing
import SourceOutline.Proofs.Outline.BodyEdit
import SourceOutline.Proofs.SyntaxTree.Ancestry
import SourceOutline.Proofs.Outline.Surrounding
import SourceOutline.Proofs.FileTree.Listing
import SourceOutline.Proofs.LanguageTable.Format
import SourceOutline.Proofs.LanguageTable.Shelf
import SourceOutline.Proofs.Engine.History
import SourceOutline.Proofs.Registry.FirstClaim
import SourceOutline.Proofs.FilePath.Suffix
import SourceOutline.Proofs.Registry.Reach
import SourceOutline.Proofs.Session.Steady
import SourceOutline.Proofs.FileTree.Descendants
import SourceOutline.Proofs.Batch.Account
import SourceOutline.Proofs.CommandLine.ChunkRun
import SourceOutline.Proofs.Failure.Sequence
import SourceOutline.Proofs.Text.Surrogate
import SourceOutline.Proofs.TextPath.Normal
import SourceOutline.Proofs.FileTree.Writing
import SourceOutline.Proofs.Config.Expansion
import SourceOutline.Proofs.Config.Acceptance
import SourceOutline.Proofs.Config.Refusal
import SourceOutline.Proofs.Config.Range
import SourceOutline.Proofs.Config.Paths
import SourceOutline.Proofs.Config.Failures
import SourceOutline.Proofs.Config.RoundTrip
import SourceOutline.Proofs.Minified.Tally
import SourceOutline.Proofs.Config.Scan
import SourceOutline.Proofs.FileTree.Visible
import SourceOutline.Proofs.Minified.Loosening
import SourceOutline.Proofs.Console.Drawing
import SourceOutline.Proofs.Session.Logging
import SourceOutline.Proofs.Batch.Skipping
import SourceOutline.Proofs.CommandLine.Verdicts
import SourceOutline.Proofs.Outline.Climb
import SourceOutline.Proofs.Entries
import SourceOutline.Proofs.Registry.Views
import SourceOutline.Proofs.Chunker.Traces
import SourceOutline.Proofs.Chunker.Exits
import SourceOutline.Proofs.Log.Configured
