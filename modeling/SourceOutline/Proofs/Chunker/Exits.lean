import Mathlib.Data.List.Forall2
import SourceOutline.Proofs.Chunker.Declared

/-!
# Exits — the stack of a walk against its work list

A walk changes its stack and its work list in different places.  A class that gives a chunk puts
something on both; any other node can only put nodes on the work list; leaving a class takes
something from both.  This module says how the two lists go together before every round.

* `Plan.enclosing_mirrors_exits` — the stack holds what was emitted for the classes to be left.
-/

namespace SourceOutline

/-! ## Exits of a work list -/

/-- A frame that leaves a class: the node of the class, and the frames below it on the work list.
A work list never comes back to the same frames, so these say which visit of the node it was. -/
structure Exit where
  node : SyntaxNode
  below : List Frame

/-- The frames of a work list that leave a class, the next one first. -/
def exits : List Frame → List Exit
  | [] => []
  | .visit _ :: rest => exits rest
  | .leave n :: rest => ⟨n, rest⟩ :: exits rest

@[simp] theorem exits_nil : exits [] = [] :=
  rfl

@[simp] theorem exits_cons_visit (n : SyntaxNode) (rest : List Frame) :
    exits (.visit n :: rest) = exits rest :=
  rfl

@[simp] theorem exits_cons_leave (n : SyntaxNode) (rest : List Frame) :
    exits (.leave n :: rest) = ⟨n, rest⟩ :: exits rest :=
  rfl

@[simp] theorem exits_map_visit_append (ns : List SyntaxNode) (rest : List Frame) :
    exits (ns.map .visit ++ rest) = exits rest := by
  induction ns with
  | nil => rfl
  | cons n ns ih => exact ih

variable {p : Plan} {interval : Number} {poll : Option Poll} {first s t : WalkState} {e : Exit}
variable {c : Chunk}

namespace Plan

/-! ## Entering a class -/

/-- The round from `s` to `t` enters a class: it comes to the node, emits its chunk, puts the chunk
on the stack, and puts the nodes below and then the frame that leaves the class on the work list. -/
structure Enters (p : Plan) (interval : Number) (poll : Option Poll) (s t : WalkState) (e : Exit)
    (c : Chunk) : Prop where
  round : p.advance interval poll s = some t
  isClass : p.table.isClass e.node.type = true
  level : c.level = .classLike
  declared : p.declare e.node .classLike p.root.id = .chunk c
  coming : s.work = .visit e.node :: e.below
  work : t.work = e.node.children.map .visit ++ .leave e.node :: e.below
  enclosing : t.enclosing = c :: s.enclosing
  events : t.events = .chunk c :: s.events

/-- A class was entered in a round of the walk from `first` to `s`. -/
def Entered (p : Plan) (interval : Number) (poll : Option Poll) (first s : WalkState) (e : Exit)
    (c : Chunk) : Prop :=
  ∃ before after, p.Reaches interval poll first before ∧ p.Enters interval poll before after e c ∧
    p.Reaches interval poll after s

theorem Entered.declared (h : p.Entered interval poll first s e c) :
    p.declare e.node .classLike p.root.id = .chunk c := by
  rcases h with ⟨before, after, -, henters, -⟩
  exact henters.declared

theorem level_of_declare {n : SyntaxNode} {level : Level} {parentId : String}
    (h : p.declare n level parentId = .chunk c) : c.level = level := by
  have hchunk : (p.declare n level parentId).chunk? = some c := by
    rw [h]
    rfl
  rw [(of_chunk?_declare_eq_some hchunk).2]
  rfl

/-- A round adds no exit but that of a class that it enters. -/
theorem mem_exits_of_advance (hnext : p.advance interval poll s = some t) (he : e ∈ exits t.work) :
    e ∈ exits s.work ∨ ∃ c, p.Enters interval poll s t e c := by
  rcases exists_step_of_advance hnext with ⟨frame, rest, visited, checks, hwork, hstep⟩
  rw [hwork]
  cases StepsTo.of_step hstep with
  | leave n inner outer hstack =>
      exact Or.inl (List.mem_cons_of_mem _ he)
  | enter n c hclass hown =>
      rw [exits_map_visit_append, exits_cons_leave] at he
      rcases List.mem_cons.1 he with rfl | hold
      · exact Or.inr ⟨c, hnext, hclass, level_of_declare hown, hown, hwork, rfl, rfl, rfl⟩
      · exact Or.inl hold
  | skip n hclass hown =>
      rw [exits_map_visit_append] at he
      exact Or.inl he
  | method n inner outer hclass hmethod hstack =>
      exact Or.inl he
  | pass n hclass hmethod =>
      rw [exits_map_visit_append] at he
      exact Or.inl he

theorem exists_entered (hfirst : exits first.work = []) (hreach : p.Reaches interval poll first s)
    (he : e ∈ exits s.work) : ∃ c, p.Entered interval poll first s e c := by
  induction hreach with
  | refl =>
      rw [hfirst] at he
      cases he
  | tail hbefore hnext ih =>
      rcases mem_exits_of_advance hnext he with hold | ⟨c, henters⟩
      · rcases ih hold with ⟨c, before, after, hreach, henters, hafter⟩
        exact ⟨c, before, after, hreach, henters, hafter.tail hnext⟩
      · exact ⟨c, _, _, hbefore, henters, .refl⟩

/-! ## The stack -/

/-- Above the chunk of the file a fitting stack holds one chunk for each exit, in the same order. -/
theorem Encloses.exists_classes {work : List Frame} {stack : List Chunk}
    (h : p.Encloses work stack) :
    ∃ classes, stack = classes ++ [p.root] ∧
      List.Forall₂ (fun e c => p.declare e.node .classLike p.root.id = .chunk c) (exits work)
        classes := by
  induction h with
  | nil =>
      exact ⟨[], rfl, .nil⟩
  | visit n _ ih =>
      exact ih
  | leave n c _ hown _ ih =>
      rcases ih with ⟨classes, rfl, hclasses⟩
      exact ⟨c :: classes, rfl, .cons hown hclasses⟩

/-- The chunk of each exit is the one that was emitted when the class was entered. -/
theorem exists_classes_entered (hfirst : exits first.work = [])
    (hreach : p.Reaches interval poll first s) (hfits : p.Encloses s.work s.enclosing) :
    ∃ classes, s.enclosing = classes ++ [p.root] ∧
      List.Forall₂ (p.Entered interval poll first s) (exits s.work) classes := by
  rcases hfits.exists_classes with ⟨classes, hstack, hclasses⟩
  refine ⟨classes, hstack, ?_⟩
  have hboth := (List.forall₂_and_left _ _).2
    ⟨fun e he => exists_entered (e := e) hfirst hreach he, hclasses⟩
  refine hboth.imp ?_
  rintro e c ⟨⟨d, hentered⟩, hdeclared⟩
  -- A node gives one chunk only, so the one on the stack is the one that was emitted.
  have hsame : WalkEvent.chunk d = .chunk c := hentered.declared.symm.trans hdeclared
  cases hsame
  exact hentered

/-! ## Ends of a walk -/

theorem run_of_reaches (h : p.Reaches interval poll s t) :
    p.run interval poll s = p.run interval poll t := by
  induction h with
  | refl => rfl
  | tail _ hnext ih => exact ih.trans (run_of_advance hnext)

theorem exists_poll_of_found {before after : WalkState} {why : Interruption}
    (h : found poll before after = some why) :
    ∃ q, poll = some q ∧ q after.checks = some why := by
  unfold found at h
  split at h
  · cases h
  · exact Option.bind_eq_some_iff.1 h

theorem exists_end (p : Plan) (interval : Number) (poll : Option Poll) (tree : SyntaxNode)
    (checks : Nat) :
    (∃ t, p.Reaches interval poll (p.start tree checks) t ∧ t.work = [] ∧ t.enclosing = [p.root] ∧
      p.run interval poll (p.start tree checks) = (t, .finished)) ∨
    ∃ t q why, poll = some q ∧ q t.checks = some why ∧
      p.run interval poll (p.start tree checks) = (t, .interrupted why) := by
  rcases exists_last_round p interval poll (p.start tree checks) with ⟨t, hreach, hlast, hrun⟩
  have hfits := Encloses.of_reaches hreach (Encloses.start p tree checks)
  rcases run_of_last_round hlast hfits with ⟨hwork, hend⟩ | ⟨frame, rest, why, -, hfound, hend⟩
  · left
    rw [hwork] at hfits
    have hstack : t.enclosing = [p.root] := by
      generalize t.enclosing = stack at hfits
      cases hfits
      rfl
    exact ⟨t, hreach, hwork, hstack, hrun.trans hend⟩
  · right
    rcases exists_poll_of_found hfound with ⟨q, hpoll, hstops⟩
    exact ⟨_, q, why, hpoll, hstops, hrun.trans hend⟩

end Plan

theorem TableChunker.outcome_walk_ne_emptyStack (p : Plan) (interval : Number) (poll : Option Poll)
    (tree : SyntaxNode) (session : Session) :
    ((walk p interval poll tree).outcome session).1 ≠ .error (.fault .emptyStack) := by
  rcases p.exists_end interval poll tree session.checks with
    ⟨t, -, -, -, hrun⟩ | ⟨t, q, why, -, -, hrun⟩
  · rw [outcome_walk p interval poll tree session hrun]
    simp [answer]
  · rw [outcome_walk p interval poll tree session hrun]
    simp [answer]

namespace Plan

/-! ## The whole walk -/

/-- Before every round of a walk the stack holds the chunk of the file at the bottom and, above it
in the order of the exits on the work list, the chunk that was emitted for each of them when its
class was entered.  So the next step finds the chunk that it needs, leaving a class takes the chunk
of a class and not that of the file, and a walk that is not stopped by a poll ends with the chunk of
the file alone. -/
theorem enclosing_mirrors_exits (p : Plan) (interval : Number) (poll : Option Poll)
    (tree : SyntaxNode) (checks : Nat) :
    (∀ s, p.Reaches interval poll (p.start tree checks) s →
      p.run interval poll (p.start tree checks) = p.run interval poll s ∧
      ∃ classes, s.enclosing = classes ++ [p.root] ∧
        List.Forall₂ (p.Entered interval poll (p.start tree checks) s) (exits s.work) classes ∧
        (∀ frame rest, s.work = frame :: rest →
          ∃ t, p.step frame (count interval poll frame { s with work := rest }) = some t) ∧
        ∀ n rest, s.work = .leave n :: rest → ∃ c outer, classes = c :: outer ∧
          p.step (.leave n) (count interval poll (.leave n) { s with work := rest }) =
            some { s with work := rest, enclosing := outer ++ [p.root] }) ∧
    ((∃ t, p.Reaches interval poll (p.start tree checks) t ∧ t.work = [] ∧
        t.enclosing = [p.root] ∧ p.run interval poll (p.start tree checks) = (t, .finished)) ∨
      ∃ t q why, poll = some q ∧ q t.checks = some why ∧
        p.run interval poll (p.start tree checks) = (t, .interrupted why)) ∧
    ∀ session,
      ((TableChunker.walk p interval poll tree).outcome session).1 ≠
        .error (.fault .emptyStack) := by
  refine ⟨?_, p.exists_end interval poll tree checks,
    TableChunker.outcome_walk_ne_emptyStack p interval poll tree⟩
  intro s hreach
  -- The stack fits the work list in every round, so its classes can be named once for all parts.
  have hfits := Encloses.of_reaches hreach (Encloses.start p tree checks)
  rcases exists_classes_entered rfl hreach hfits with ⟨classes, hstack, hclasses⟩
  refine ⟨run_of_reaches hreach, classes, hstack, hclasses, ?_, ?_⟩
  · intro frame rest hwork
    rcases exists_count_eq interval poll frame { s with work := rest } with
      ⟨visited, checks, hcount⟩
    rw [hwork] at hfits
    rw [hcount]
    exact Encloses.exists_step hfits
  · -- The next frame leaves the class whose chunk lies on top.
    intro n rest hwork
    rw [hwork, exits_cons_leave] at hclasses
    cases hclasses with
    | cons hentered hrest =>
        exact ⟨_, _, rfl, by simp [count, step, hstack]⟩

/-! ## Two open classes -/

def advanceBy (p : Plan) (interval : Number) (poll : Option Poll) :
    Nat → WalkState → Option WalkState
  | 0, s => some s
  | k + 1, s => (p.advance interval poll s).bind (p.advanceBy interval poll k)

theorem reaches_of_advanceBy {k : Nat} (h : p.advanceBy interval poll k s = some t) :
    p.Reaches interval poll s t := by
  induction k generalizing s with
  | zero =>
      cases h
      exact .refl
  | succ k ih =>
      rcases Option.bind_eq_some_iff.1 h with ⟨next, hnext, hrest⟩
      exact .head hnext (ih hrest)

end Plan

namespace OpenClasses

/-- A class that holds a class without a name, which holds a class with a method. -/
def tree : SyntaxNode :=
  let name (start stop : Nat) := SyntaxNode.node "identifier" ⟨start, stop, 0, 0⟩ (some "name") []
  let method := SyntaxNode.node "function_definition" ⟨4, 5, 0, 0⟩ none [name 4 5]
  let inner := SyntaxNode.node "class_definition" ⟨2, 5, 0, 0⟩ none [name 2 3, method]
  let unnamed := SyntaxNode.node "class_definition" ⟨1, 5, 0, 0⟩ none [inner]
  .node "module" ⟨0, 5, 0, 0⟩ none
    [.node "class_definition" ⟨0, 5, 0, 0⟩ none [name 0 1, unnamed]]

def file : SourceFile where
  path := "a.py"
  content := utf8Bytes "A;B;f"

def plan : Plan := TableChunker.plan { table := .python } file

end OpenClasses

namespace Plan

open OpenClasses in
/-- Before the eighth round both classes with a name are still to be left and on the stack; the one
without a name is neither. -/
theorem enclosing_mirrors_exits_openClasses :
    ∃ s, plan.Reaches (.int 1024) none (plan.start tree 0) s ∧
      (exits s.work).map (fun e => e.node.span.startByte) = [2, 0] ∧
      s.enclosing.map (fun c => c.name.toString) = ["B", "A", "a.py"] ∧
      (∃ classes, s.enclosing = classes ++ [plan.root] ∧
        List.Forall₂ (plan.Entered (.int 1024) none (plan.start tree 0) s) (exits s.work)
          classes) ∧
      ∃ t, plan.run (.int 1024) none (plan.start tree 0) = (t, .finished) ∧
        t.enclosing = [plan.root] := by
  have hround : (plan.advanceBy (.int 1024) none 7 (plan.start tree 0)).any (fun s =>
      (exits s.work).map (fun e => e.node.span.startByte) == [2, 0] &&
        s.enclosing.map (fun c => c.name.toString) == ["B", "A", "a.py"]) = true := by
    decide +kernel
  rcases (Option.any_eq_true _ _).1 hround with ⟨s, hs, hlists⟩
  rw [Bool.and_eq_true, beq_iff_eq, beq_iff_eq] at hlists
  have hreach := reaches_of_advanceBy hs
  rcases enclosing_mirrors_exits plan (.int 1024) none tree 0 with ⟨hall, hend, -⟩
  rcases hall s hreach with ⟨-, classes, hstack, hclasses, -, -⟩
  refine ⟨s, hreach, hlists.1, hlists.2, ⟨classes, hstack, hclasses⟩, ?_⟩
  rcases hend with ⟨t, -, -, hroot, hrun⟩ | ⟨t, q, why, hpoll, -, -⟩
  · exact ⟨t, hrun, hroot⟩
  · cases hpoll

end Plan

end SourceOutline
