import SourceOutline.Chunker.Walk

/-!
# TableDriven — chunks by a language table

A table-driven chunker serves any language that has a table and a grammar.

* `TableChunker`, `TableChunker.create` — a chunker is made only if its grammar can be loaded;
* `TableChunker.chunk` — the outline of a file: its own chunk and those that the walk finds.
-/

namespace SourceOutline

/-- A chunker with its table and the number of visits between two checks. -/
structure TableChunker where
  table : LanguageTable
  interval : Number := .int 1024
  deriving DecidableEq

namespace TableChunker

def loggerName : String := "chunkforge.chunking.generic"

def language (c : TableChunker) : String :=
  c.table.language

def render (c : TableChunker) : String :=
  "GenericChunker(language=" ++ quoted c.language ++ ")"

/-- Makes a chunker, if there is an engine, a table, an interval of at least one, and a grammar. -/
def create (tools : Option Toolchain) (table : Option LanguageTable) (interval : Number) :
    Call TableChunker := do
  match tools, table with
  | none, _ => throw .engineRequired
  | some _, none => throw .tableRequired
  | some tools, some table =>
    if interval.lt (.int 1) then throw .intervalBelowOne
    else if ← Call.supports tools table.grammar then pure { table, interval }
    else throw (.grammarNotLoadable table.grammar table.language)

def eventRecord? (path : String) : WalkEvent → Option Record
  | .chunk _ => none
  | .unnamed n =>
    some (.of .debug loggerName "Skipped unnamed node"
      [("path", .text path), ("node_type", .text n.type), ("line", .int (n.span.startRow + 1))])
  | .malformed n name =>
    some (.of .debug loggerName "Skipped malformed node"
      [("path", .text path), ("node_type", .text n.type), ("name", .text name.toString)])

def closingRecord (c : TableChunker) (o : Outline) : Record :=
  .of .debug loggerName "Chunked file"
    [("path", .text o.file.path), ("language", .text c.language),
      ("lines", .int (countLines o.file.content)), ("chunks", .int o.chunks.length)]

/-- Walks a tree: the events in order, unless something stopped the walk. -/
def walk (p : Plan) (interval : Number) (poll : Option Poll) (tree : SyntaxNode) :
    Call (List WalkEvent) := do
  let (s, halt) := p.run interval poll (p.start tree (← get).checks)
  let events := s.events.reverse
  modify fun session =>
    { session with
        checks := s.checks
        records := session.records ++ events.filterMap (eventRecord? p.file.path) }
  match halt with
  | .finished => pure events
  | .interrupted why => throw (.interrupted why)
  | .emptyStack => throw (.fault .emptyStack)

/-- Chunks a file.  A blank file has no chunks and is not parsed. -/
def chunk (tools : Toolchain) (c : TableChunker) (file : SourceFile) (poll : Option Poll) :
    Call Outline := do
  Call.check poll
  if file.content.isBlank then pure { file }
  else
    let tree ← Call.parse tools c.table.grammar file.content
    let plan : Plan := { table := c.table, file, root := Chunk.ofFile file c.language }
    let events ← walk plan c.interval poll tree
    let outline : Outline := { file, chunks := plan.root :: events.filterMap WalkEvent.chunk? }
    Call.log (c.closingRecord outline)
    pure outline

end TableChunker

end SourceOutline
