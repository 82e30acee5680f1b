import SourceOutline.Text.Utf8

/-!
# SyntaxTree — the tree a parser gives for a source

A node has a type, a span of bytes and rows, the field under which its parent holds it, and its
children.  Nothing is promised about spans: they may be reversed, lie outside the source, or
overlap.
-/

namespace SourceOutline

/-- Where a node lies: bytes from `startByte` up to `endByte`, and rows counted from nought. -/
structure Span where
  startByte : Nat
  endByte : Nat
  startRow : Int
  endRow : Int
  deriving DecidableEq

inductive SyntaxNode where
  | node (type : String) (span : Span) (field : Option String) (children : List SyntaxNode)

/-- The bytes from a position up to another one.  Positions beyond the end stand for the end. -/
def slice (source : Bytes) (start stop : Nat) : Bytes :=
  (source.take stop).drop start

namespace SyntaxNode

def type : SyntaxNode → String
  | node t _ _ _ => t

def span : SyntaxNode → Span
  | node _ s _ _ => s

def field : SyntaxNode → Option String
  | node _ _ f _ => f

def children : SyntaxNode → List SyntaxNode
  | node _ _ _ cs => cs

def leafOver (type : String) (source : Bytes) : SyntaxNode :=
  node type ⟨0, source.length, 0, source.count 10⟩ none []

def childByField? (n : SyntaxNode) (field : String) : Option SyntaxNode :=
  n.children.find? fun c => c.field == some field

def text (n : SyntaxNode) (source : Bytes) : Text :=
  Utf8.decode (slice source n.span.startByte n.span.endByte)

/-! ## Size -/

mutual

def size : SyntaxNode → Nat
  | node _ _ _ cs => sizeAll cs + 1

def sizeAll : List SyntaxNode → Nat
  | [] => 0
  | n :: rest => n.size + sizeAll rest

end

theorem size_eq (n : SyntaxNode) : n.size = sizeAll n.children + 1 := by
  cases n with
  | node t s f cs => rw [size, children]

/-! ## Reading a tree from a list -/

/-- A node without its children, and how deep it lies. -/
structure Listed where
  depth : Int
  type : String
  span : Span
  field : Option String := none

/-- Takes one more node, from the right.  The nodes that were waiting for a parent and lie deeper,
up to the first that does not, become its children. -/
def adopt (l : Listed) (waiting : List (Int × SyntaxNode)) : List (Int × SyntaxNode) :=
  let deeper := waiting.takeWhile fun w => l.depth < w.1
  let others := waiting.dropWhile fun w => l.depth < w.1
  (l.depth, node l.type l.span l.field (deeper.map (·.2))) :: others

/-- The tree of nodes in pre-order, where the parent of a node is the nearest earlier node that lies
less deep. -/
def ofPreorder? (ls : List Listed) : Option SyntaxNode :=
  ((ls.foldr adopt []).head?).map (·.2)

end SyntaxNode

end SourceOutline
