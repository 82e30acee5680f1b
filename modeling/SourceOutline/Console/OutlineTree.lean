import SourceOutline.Chunk.Outline
import SourceOutline.Chunker.Basic
import SourceOutline.Console.Report

/-!
# OutlineTree — the chunks of a file as a tree

* `Chunk.label`, `Outline.label` — how a chunk and a file are shown;
* `Outline.branch` — the tree of a file: each chunk stands below its parent.
-/

namespace SourceOutline

def Level.style : Level → String
  | .file => "bold"
  | .classLike => "cyan"
  | .method => "green"

def Chunk.label (c : Chunk) : String :=
  let style := c.level.style
  "[" ++ style ++ "]" ++ c.level.name ++ "[/" ++ style ++ "] " ++ escapeMarkup c.name.toString ++
    " [dim]L" ++ toString c.startLine ++ "-" ++ toString c.endLine ++ "[/dim]"

def Outline.branches (o : Outline) : Nat → String → List Branch
  | 0, _ => []
  | depth + 1, id =>
    (o.childrenOf (some id)).map fun c => .node c.label (o.branches depth c.id)

def Outline.label (o : Outline) : String :=
  let language := if o.file.language = "" then Fallback.language else o.file.language
  "[bold]" ++ escapeMarkup o.file.path ++ "[/bold] [dim](" ++ language ++ ")[/dim]"

/-- The chunks of a file as a tree.  No chain of chunks is longer than their number. -/
def Outline.branch (o : Outline) : Branch :=
  match o.fileChunk? with
  | none => .node o.label [.node "[dim]no chunks[/dim]" []]
  | some root => .node o.label (o.branches o.chunks.length root.id)

end SourceOutline
