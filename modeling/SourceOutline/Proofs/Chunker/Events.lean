import SourceOutline.Chunker.Walk

/-!
# Events — what a walk gives, said by recursion on the tree

The walk keeps a work list and a stack.  The same events can be said by recursion: what a node and
those below it give depends only on the chunk that encloses the node.

* `Plan.outlook_step` — a step changes nothing of what has happened and what is pending together.
-/

namespace SourceOutline

namespace Plan

/-! ## Events by recursion -/

mutual

def events (p : Plan) (owner : Chunk) : SyntaxNode → List WalkEvent
  | .node type span field children =>
    let here := SyntaxNode.node type span field children
    if p.table.isClass type then
      let own := p.declare here .classLike p.root.id
      own :: p.eventsAll (own.chunk?.getD owner) children
    else if p.table.isMethod type then [p.declare here .method owner.id]
    else p.eventsAll owner children

def eventsAll (p : Plan) (owner : Chunk) : List SyntaxNode → List WalkEvent
  | [] => []
  | n :: rest => p.events owner n ++ p.eventsAll owner rest

end

theorem eventsAll_eq_flatMap (p : Plan) (owner : Chunk) (ns : List SyntaxNode) :
    p.eventsAll owner ns = ns.flatMap (p.events owner) := by
  induction ns with
  | nil =>
      rw [eventsAll, List.flatMap_nil]
  | cons n rest ih =>
      rw [eventsAll, ih, List.flatMap_cons]

theorem events_eq (p : Plan) (owner : Chunk) (n : SyntaxNode) :
    p.events owner n =
      if p.table.isClass n.type then
        p.declare n .classLike p.root.id ::
          n.children.flatMap
            (p.events ((p.declare n .classLike p.root.id).chunk?.getD owner))
      else if p.table.isMethod n.type then [p.declare n .method owner.id]
      else n.children.flatMap (p.events owner) := by
  cases n with
  | node type span field children =>
      simp only [events, eventsAll_eq_flatMap]
      rfl

def chunksUnder (p : Plan) (owner : Chunk) (n : SyntaxNode) : List Chunk :=
  (p.events owner n).filterMap WalkEvent.chunk?

theorem filterMap_chunk?_flatMap_events (p : Plan) (owner : Chunk) (ns : List SyntaxNode) :
    (ns.flatMap (p.events owner)).filterMap WalkEvent.chunk? =
      ns.flatMap (p.chunksUnder owner) := by
  rw [List.filterMap_flatMap]
  rfl

/-- Which chunks a node gives, by its type. -/
theorem chunksUnder_eq (p : Plan) (owner : Chunk) (n : SyntaxNode) :
    p.chunksUnder owner n =
      if p.table.isClass n.type then
        (p.declare n .classLike p.root.id).chunk?.toList ++
          n.children.flatMap
            (p.chunksUnder ((p.declare n .classLike p.root.id).chunk?.getD owner))
      else if p.table.isMethod n.type then (p.declare n .method owner.id).chunk?.toList
      else n.children.flatMap (p.chunksUnder owner) := by
  have hcons : ∀ (e : WalkEvent) (rest : List WalkEvent),
      (e :: rest).filterMap WalkEvent.chunk? =
        e.chunk?.toList ++ rest.filterMap WalkEvent.chunk? := by
    intro e rest
    cases he : e.chunk? with
    | none => simp [he]
    | some c => simp [he]
  rw [chunksUnder, events_eq]
  split
  · rw [hcons, filterMap_chunk?_flatMap_events]
  · split
    · rw [hcons, List.filterMap_nil, List.append_nil]
    · exact filterMap_chunk?_flatMap_events p owner n.children

/-! ## Steps by kind -/

/-- What a step can do, with the reason for each kind of step. -/
inductive StepsTo (p : Plan) (s : WalkState) : Frame → WalkState → Prop where
  | leave (n : SyntaxNode) (inner : Chunk) (outer : List Chunk) :
      s.enclosing = inner :: outer →
        StepsTo p s (.leave n) { s with enclosing := outer }
  | enter (n : SyntaxNode) (c : Chunk) :
      p.table.isClass n.type = true → p.declare n .classLike p.root.id = .chunk c →
        StepsTo p s (.visit n)
          { s with
              work := n.children.map .visit ++ .leave n :: s.work
              enclosing := c :: s.enclosing
              events := .chunk c :: s.events }
  | skip (n : SyntaxNode) :
      p.table.isClass n.type = true → (p.declare n .classLike p.root.id).chunk? = none →
        StepsTo p s (.visit n)
          { s with
              work := n.children.map .visit ++ s.work
              events := p.declare n .classLike p.root.id :: s.events }
  | method (n : SyntaxNode) (inner : Chunk) (outer : List Chunk) :
      p.table.isClass n.type = false → p.table.isMethod n.type = true →
        s.enclosing = inner :: outer →
          StepsTo p s (.visit n) { s with events := p.declare n .method inner.id :: s.events }
  | pass (n : SyntaxNode) :
      p.table.isClass n.type = false → p.table.isMethod n.type = false →
        StepsTo p s (.visit n) { s with work := n.children.map .visit ++ s.work }

/-- Every step is of one of these kinds. -/
theorem StepsTo.of_step {p : Plan} {frame : Frame} {s t : WalkState}
    (h : p.step frame s = some t) : p.StepsTo s frame t := by
  cases frame with
  | leave n =>
      cases hstack : s.enclosing with
      | nil =>
          simp [step, hstack] at h
      | cons inner outer =>
          simp only [step, hstack, Option.some.injEq] at h
          subst h
          exact StepsTo.leave n inner outer hstack
  | visit n =>
      -- Whether a node is a class comes before whether it is a method, as in the step itself.
      cases hclass : p.table.isClass n.type with
      | true =>
          cases hown : p.declare n .classLike p.root.id with
          | chunk c =>
              simp only [step, hclass, hown, if_true, Option.some.injEq] at h
              subst h
              exact StepsTo.enter n c hclass hown
          | unnamed m =>
              simp only [step, hclass, hown, if_true, Option.some.injEq] at h
              subst h
              simpa only [hown] using StepsTo.skip (s := s) n hclass (by rw [hown]; rfl)
          | malformed m name =>
              simp only [step, hclass, hown, if_true, Option.some.injEq] at h
              subst h
              simpa only [hown] using StepsTo.skip (s := s) n hclass (by rw [hown]; rfl)
      | false =>
          cases hmethod : p.table.isMethod n.type with
          | true =>
              cases hstack : s.enclosing with
              | nil =>
                  simp [step, hclass, hmethod, hstack] at h
              | cons inner outer =>
                  simp [step, hclass, hmethod, hstack] at h
                  subst h
                  simpa only [hstack] using
                    StepsTo.method n inner outer hclass hmethod hstack
          | false =>
              simp [step, hclass, hmethod] at h
              subst h
              exact StepsTo.pass n hclass hmethod

theorem StepsTo.checks_eq {p : Plan} {frame : Frame} {s t : WalkState} (h : p.StepsTo s frame t) :
    t.checks = s.checks := by
  cases h <;> rfl

theorem StepsTo.visited_eq {p : Plan} {frame : Frame} {s t : WalkState} (h : p.StepsTo s frame t) :
    t.visited = s.visited := by
  cases h <;> rfl

/-! ## Pending events -/

/-- What the frames of a work list will give when the enclosing chunks are as in the stack. -/
def pending (p : Plan) : List Frame → List Chunk → List WalkEvent
  | [], _ => []
  | .visit n :: rest, stack => p.events (stack.headD p.root) n ++ p.pending rest stack
  | .leave _ :: rest, stack => p.pending rest stack.tail

theorem pending_map_visit_append (p : Plan) (ns : List SyntaxNode) (rest : List Frame)
    (stack : List Chunk) :
    p.pending (ns.map .visit ++ rest) stack =
      ns.flatMap (p.events (stack.headD p.root)) ++ p.pending rest stack := by
  induction ns with
  | nil =>
      simp
  | cons n ns ih =>
      rw [List.map_cons, List.cons_append, pending, ih, List.flatMap_cons, List.append_assoc]

def outlook (p : Plan) (s : WalkState) : List WalkEvent :=
  s.events.reverse ++ p.pending s.work s.enclosing

/-- A step changes nothing of what has happened and what is pending together. -/
theorem outlook_step {p : Plan} {frame : Frame} {s t : WalkState} (h : p.step frame s = some t) :
    p.outlook t = p.outlook { s with work := frame :: s.work } := by
  cases StepsTo.of_step h with
  | leave n inner outer hstack =>
      simp [outlook, pending, hstack]
  | enter n c hclass hown =>
      -- The chunk of a class is on the stack exactly while its children are pending.
      simp [outlook, pending, pending_map_visit_append, events_eq, hclass, hown, WalkEvent.chunk?]
  | skip n hclass hown =>
      simp [outlook, pending, pending_map_visit_append, events_eq, hclass, hown]
  | method n inner outer hclass hmethod hstack =>
      simp [outlook, pending, events_eq, hclass, hmethod, hstack]
  | pass n hclass hmethod =>
      simp [outlook, pending, pending_map_visit_append, events_eq, hclass, hmethod]

end Plan

end SourceOutline
