import SourceOutline.Chunk.Outline
import SourceOutline.SyntaxTree

/-!
# Extraction — chunks of files and of nodes

* `Chunk.ofFile` — the chunk that stands for a file;
* `SyntaxNode.declaredName?` — the name that a node declares;
* `Chunk.ofNode?` — the chunk of a node, unless the node's place is malformed or its text blank.
-/

namespace SourceOutline

def Chunk.ofFile (file : SourceFile) (language : String) : Chunk where
  path := file.path
  startLine := 1
  endLine := countLines file.content
  level := .file
  language := language
  content := file.text
  name := Text.ofString file.path
  signature := file.text.signature
  parentId := none
  lastModified := file.lastModified

/-- The name that a node declares: the trimmed text of the child under the name field, unless it is
empty. -/
def SyntaxNode.declaredName? (n : SyntaxNode) (source : Bytes) (nameField : String) : Option Text :=
  match n.childByField? nameField with
  | none => none
  | some child =>
    let name := (child.text source).strip
    if name.isEmpty then none else some name

def Span.isOrdered (s : Span) : Bool :=
  0 ≤ s.startRow && s.startRow ≤ s.endRow && s.startByte ≤ s.endByte

/-- The chunk of a node.  There is none if the node's place is malformed or its text is blank. -/
def Chunk.ofNode? (n : SyntaxNode) (file : SourceFile) (level : Level) (name : Text)
    (parentId language : String) : Option Chunk :=
  if !n.span.isOrdered then none
  else
    let content := n.text file.content
    if content.isBlank then none
    else
      some
        { path := file.path
          startLine := n.span.startRow + 1
          endLine := n.span.endRow + 1
          level
          language
          content
          name
          signature := content.signature
          parentId := some parentId
          lastModified := file.lastModified }

end SourceOutline
