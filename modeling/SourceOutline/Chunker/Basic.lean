import SourceOutline.Chunker.Reference
import SourceOutline.Chunker.TableDriven

/-!
# Chunker — ways to chunk a file

* `Fallback` — the chunker for everything: one chunk for the file, even if it is empty;
* `Chunker` — a chunker of any kind.
-/

namespace SourceOutline

namespace Fallback

/-- The language of files that no table covers. -/
def language : String := "unknown"

/-- Chunks a file as a whole.  A language that the file already has is kept. -/
def chunk (file : SourceFile) (poll : Option Poll) : Call Outline := do
  Call.check poll
  let own := if file.language = "" then language else file.language
  pure { file, chunks := [Chunk.ofFile file own] }

end Fallback

inductive Chunker where
  | table (c : TableChunker)
  | reference (r : Reference)
  | fallback

namespace Chunker

def language : Chunker → String
  | table c => c.language
  | reference r => r.language
  | fallback => Fallback.language

def render : Chunker → String
  | table c => c.render
  | reference r => r.render
  | fallback => "FallbackChunker()"

def chunk (tools : Toolchain) (file : SourceFile) (poll : Option Poll) : Chunker → Call Outline
  | table c => c.chunk tools file poll
  | reference r => r.chunk tools file poll
  | fallback => Fallback.chunk file poll

end Chunker

end SourceOutline
