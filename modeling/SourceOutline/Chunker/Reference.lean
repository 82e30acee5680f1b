import SourceOutline.Chunk.Extraction
import SourceOutline.Session

/-!
# Reference — chunkers written for one language

Two languages have a chunker that was written for them.  It follows the structure of the tree
directly and serves to check the table-driven one: both give the same chunks.  Its walk calls itself
for the nodes below a node, and fails on a tree for which there is no room for so many calls within
each other.

The few calls with which a node is declared are not counted one by one: `Toolchain.levels` stands
for the calls of the walk that leave enough room for them.
-/

namespace SourceOutline

inductive Reference where
  | python
  | go
  deriving DecidableEq

namespace Reference

def language : Reference → String
  | python => "python"
  | go => "go"

def render (r : Reference) : String :=
  "Reference(language=" ++ quoted r.language ++ ")"

def declared? (r : Reference) (file : SourceFile) (n : SyntaxNode) (level : Level)
    (parentId : String) : Option Chunk :=
  (n.declaredName? file.content "name").bind fun name =>
    Chunk.ofNode? n file level name parentId r.language

/-! ## Python -/

mutual

/-- The chunks of a node.  Methods belong to the owner, classes to the file.  A call is made for
every node that is met. -/
def pythonNode (file : SourceFile) (rootId owner : String) (room : Nat) :
    SyntaxNode → Except Fault (List Chunk)
  | .node type span field children =>
    let here := SyntaxNode.node type span field children
    match room with
    | 0 => .error .tooDeep
    | room + 1 =>
      if type = "class_definition" then
        match python.declared? file here .classLike rootId with
        | some c => (pythonNodes file rootId c.id room children).map (c :: ·)
        | none => pythonNodes file rootId owner room children
      else if type = "function_definition" then
        .ok (python.declared? file here .method owner).toList
      else pythonNodes file rootId owner room children

def pythonNodes (file : SourceFile) (rootId owner : String) (room : Nat) :
    List SyntaxNode → Except Fault (List Chunk)
  | [] => .ok []
  | n :: rest => do
    let first ← pythonNode file rootId owner room n
    let others ← pythonNodes file rootId owner room rest
    pure (first ++ others)

end

/-! ## Go -/

def goTypes (file : SourceFile) (rootId : String) (children : List SyntaxNode) : List Chunk :=
  children.filterMap fun n =>
    if n.type = "type_spec" then go.declared? file n .classLike rootId else none

mutual

/-- The chunks of a node.  A call is made for every node whose children are looked at. -/
def goNode (file : SourceFile) (rootId : String) (room : Nat) :
    SyntaxNode → Except Fault (List Chunk)
  | .node type span field children =>
    let here := SyntaxNode.node type span field children
    if type = "function_declaration" ∨ type = "method_declaration" then
      .ok (go.declared? file here .method rootId).toList
    else if type = "type_declaration" then .ok (goTypes file rootId children)
    else
      match room with
      | 0 => .error .tooDeep
      | room + 1 => goNodes file rootId room children

def goNodes (file : SourceFile) (rootId : String) (room : Nat) :
    List SyntaxNode → Except Fault (List Chunk)
  | [] => .ok []
  | n :: rest => do
    let first ← goNode file rootId room n
    let others ← goNodes file rootId room rest
    pure (first ++ others)

end

/-- The chunks below the top of a tree, whose own type does not matter. -/
def goChunks (file : SourceFile) (rootId : String) (levels : Nat) (tree : SyntaxNode) :
    Except Fault (List Chunk) :=
  match levels with
  | 0 => .error .tooDeep
  | room + 1 => goNodes file rootId room tree.children

/-! ## Files -/

def chunks (r : Reference) (file : SourceFile) (rootId : String) (levels : Nat)
    (tree : SyntaxNode) : Except Fault (List Chunk) :=
  match r with
  | python => pythonNodes file rootId rootId levels tree.children
  | go => goChunks file rootId levels tree

/-- Chunks a file.  A blank file has no chunks and is not parsed; checks are made at the start
only. -/
def chunk (tools : Toolchain) (r : Reference) (file : SourceFile) (poll : Option Poll) :
    Call Outline := do
  Call.check poll
  if file.content.isBlank then pure { file }
  else
    let tree ← Call.parse tools r.language file.content
    let root := Chunk.ofFile file r.language
    match r.chunks file root.id tools.levels tree with
    | .ok below => pure { file, chunks := root :: below }
    | .error why => throw (.fault why)

end Reference

end SourceOutline
