import SourceOutline.Chunk.Extraction
import SourceOutline.LanguageTable.Basic
import SourceOutline.Session

/-!
# Walk — the declarations of a syntax tree, step by step

The walk visits the nodes of a tree in pre-order.  It keeps a work list of frames and a stack of
enclosing chunks, with the chunk of the file at the bottom.

A class or a method without a name, or in a malformed place, gives no chunk but is noted.
-/

namespace SourceOutline

/-- A file, the chunk that stands for it, and the table by which its nodes are told apart. -/
structure Plan where
  table : LanguageTable
  file : SourceFile
  root : Chunk

inductive WalkEvent where
  | chunk (c : Chunk)
  | unnamed (n : SyntaxNode)
  | malformed (n : SyntaxNode) (name : Text)

def WalkEvent.chunk? : WalkEvent → Option Chunk
  | chunk c => some c
  | _ => none

/-- A piece of work: to visit a node with all below it, or to leave a class. -/
inductive Frame where
  | visit (n : SyntaxNode)
  | leave (n : SyntaxNode)

/-- A walk between two steps.  The next frame, the innermost chunk and the latest event come
first. -/
structure WalkState where
  work : List Frame
  enclosing : List Chunk
  events : List WalkEvent := []
  visited : Nat := 0
  checks : Nat := 0

inductive Halt where
  | finished
  | interrupted (why : Interruption)
  | emptyStack

/-! ## Weight -/

/-- What a frame weighs: two for each node to be visited, one for a class to be left. -/
def Frame.weight : Frame → Nat
  | visit n => 2 * n.size
  | leave _ => 1

def weight : List Frame → Nat
  | [] => 0
  | f :: rest => f.weight + weight rest

theorem weight_append (xs ys : List Frame) : weight (xs ++ ys) = weight xs + weight ys := by
  induction xs with
  | nil => simp [weight]
  | cons f rest ih => simp [weight, ih, Nat.add_assoc]

theorem weight_map_visit (ns : List SyntaxNode) :
    weight (ns.map .visit) = 2 * SyntaxNode.sizeAll ns := by
  induction ns with
  | nil => simp [weight, SyntaxNode.sizeAll]
  | cons n rest ih => simp [weight, SyntaxNode.sizeAll, Frame.weight, ih, Nat.mul_add]

namespace Plan

/-! ## Steps -/

def declare (p : Plan) (n : SyntaxNode) (level : Level) (parentId : String) : WalkEvent :=
  match n.declaredName? p.file.content p.table.nameField with
  | none => .unnamed n
  | some name =>
    match Chunk.ofNode? n p.file level name parentId p.table.language with
    | none => .malformed n name
    | some c => .chunk c

/-- Does the work of a frame that has been taken from the work list.  There is no next state if an
enclosing chunk is needed and there is none. -/
def step (p : Plan) (frame : Frame) (s : WalkState) : Option WalkState :=
  match frame with
  | .leave _ =>
    match s.enclosing with
    | [] => none
    | _ :: outer => some { s with enclosing := outer }
  | .visit n =>
    let below := n.children.map Frame.visit
    if p.table.isClass n.type then
      match p.declare n .classLike p.root.id with
      | .chunk c =>
        some
          { s with
              work := below ++ .leave n :: s.work
              enclosing := c :: s.enclosing
              events := .chunk c :: s.events }
      | other => some { s with work := below ++ s.work, events := other :: s.events }
    else if p.table.isMethod n.type then
      match s.enclosing with
      | [] => none
      | inner :: _ => some { s with events := p.declare n .method inner.id :: s.events }
    else some { s with work := below ++ s.work }

/-- A step makes the work lighter. -/
theorem weight_step {p : Plan} {frame : Frame} {s t : WalkState} (h : p.step frame s = some t) :
    weight t.work < weight (frame :: s.work) := by
  cases frame with
  | leave n =>
      simp only [step] at h
      split at h
      · simp at h
      · cases h
        simp [weight, Frame.weight]
  | visit n =>
      have hn := n.size_eq
      simp only [step] at h
      split at h
      · split at h <;> cases h <;>
          simp [weight, weight_append, weight_map_visit, Frame.weight] <;> omega
      · split at h
        · split at h
          · simp at h
          · cases h
            simp [weight, Frame.weight]
            omega
        · cases h
          simp [weight, weight_append, weight_map_visit, Frame.weight]
          omega

/-! ## Runs -/

/-- Counts a visit, and the check that it may be due for; leaving a class is not counted. -/
def count (interval : Number) (poll : Option Poll) (frame : Frame) (s : WalkState) : WalkState :=
  match frame with
  | .leave _ => s
  | .visit _ =>
    let visited := s.visited + 1
    let due := poll.isSome && interval.divides visited
    { s with visited, checks := if due then s.checks + 1 else s.checks }

theorem work_count (interval : Number) (poll : Option Poll) (frame : Frame) (s : WalkState) :
    (count interval poll frame s).work = s.work := by
  cases frame <;> rfl

def found (poll : Option Poll) (before after : WalkState) : Option Interruption :=
  if after.checks = before.checks then none else poll.bind fun p => p after.checks

def run (p : Plan) (interval : Number) (poll : Option Poll) (s : WalkState) : WalkState × Halt :=
  match hw : s.work with
  | [] => (s, .finished)
  | frame :: rest =>
    let counted := count interval poll frame { s with work := rest }
    match found poll s counted with
    | some why => (counted, .interrupted why)
    | none =>
      match h : p.step frame counted with
      | none => (counted, .emptyStack)
      | some next =>
        have : weight next.work < weight s.work := by
          have hl := weight_step h
          simp only [weight, counted, work_count] at hl
          simp only [hw, weight]
          exact hl
        p.run interval poll next
termination_by weight s.work

def start (p : Plan) (tree : SyntaxNode) (checks : Nat) : WalkState where
  work := [.visit tree]
  enclosing := [p.root]
  checks := checks

end Plan

end SourceOutline
