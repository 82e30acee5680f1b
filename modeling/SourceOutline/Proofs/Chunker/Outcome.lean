import SourceOutline.Proofs.Chunker.Rounds
import SourceOutline.Proofs.Session.Outcome
import SourceOutline.Registry

/-!
# Outcome — what chunking a file comes to

Chunkers that parse go about it in the same way: they make a check, give no chunks for a blank file,
and otherwise make an outline of the tree.  What is said of this frame once holds of the chunkers
with a table and of those written for one language.
-/

namespace SourceOutline

namespace Call

/-! ## The frame -/

def outlining (tools : Toolchain) (grammar : String) (file : SourceFile) (poll : Option Poll)
    (make : SyntaxNode → Call Outline) : Call Outline := do
  check poll
  if file.content.isBlank then pure { file }
  else
    let tree ← parse tools grammar file.content
    make tree

variable {tools : Toolchain} {grammar : String} {file : SourceFile} {poll : Option Poll}
variable {make : SyntaxNode → Call Outline} {s s' : Session}

theorem outcome_outlining_blank (hblank : file.content.isBlank = true) (s : Session) :
    (outlining tools grammar file none make).outcome s = (.ok { file }, s) := by
  rw [outlining, outcome_bind, outcome_check_none]
  simp [hblank]

theorem outcome_outlining {tree : SyntaxNode} (hblank : file.content.isBlank = false)
    (hparses : s.engine.Parses tools grammar file.content tree) :
    (outlining tools grammar file none make).outcome s =
      (make tree).outcome (s.parsed tools grammar) := by
  rw [outlining, outcome_bind, outcome_check_none]
  simp only [hblank, Bool.false_eq_true, if_false]
  exact outcome_bind_of_ok (outcome_parse hparses)

theorem outcome_outlining_stopped {p : Poll} {why : Interruption}
    (hstop : p (s.checks + 1) = some why) :
    (outlining tools grammar file (some p) make).outcome s =
      (.error (.interrupted why), { s with checks := s.checks + 1 }) := by
  rw [outlining, outcome_bind, outcome_check_some, hstop]

theorem outcome_outlining_passed {p : Poll} (hpass : p (s.checks + 1) = none) :
    (outlining tools grammar file (some p) make).outcome s =
      (outlining tools grammar file none make).outcome { s with checks := s.checks + 1 } := by
  rw [outlining, outcome_bind, outcome_check_some, hpass, outlining, outcome_bind,
    outcome_check_none]

theorem of_outcome_outlining_eq_ok {o : Outline}
    (h : (outlining tools grammar file poll make).outcome s = (.ok o, s')) :
    (file.content.isBlank = true ∧ o = { file }) ∨
      (file.content.isBlank = false ∧
        ∃ tree before, s.engine.Parses tools grammar file.content tree ∧
          (make tree).outcome before = (.ok o, s')) := by
  rcases of_outcome_bind_eq_ok h with ⟨_, s₁, hcheck, hrest⟩
  -- The check may have counted, but the engine is the one from before it.
  rcases of_outcome_check_eq_ok hcheck with ⟨n, rfl⟩
  cases hblank : file.content.isBlank with
  | true =>
      simp only [hblank, if_true] at hrest
      cases hrest
      exact Or.inl ⟨rfl, rfl⟩
  | false =>
      simp only [hblank, Bool.false_eq_true, if_false] at hrest
      rcases of_outcome_bind_eq_ok hrest with ⟨tree, s₂, hparse, hmake⟩
      exact Or.inr ⟨rfl, tree, s₂, (outcome_parse_eq_ok.1 hparse).1, hmake⟩

end Call

/-! ## Walks -/

namespace TableChunker

def plan (c : TableChunker) (file : SourceFile) : Plan where
  table := c.table
  file := file
  root := Chunk.ofFile file c.language

@[simp] theorem table_plan (c : TableChunker) (file : SourceFile) :
    (c.plan file).table = c.table :=
  rfl

def events (c : TableChunker) (file : SourceFile) (tree : SyntaxNode) : List WalkEvent :=
  (c.plan file).events (c.plan file).root tree

def answer (events : List WalkEvent) : Halt → Except Failure (List WalkEvent)
  | .finished => .ok events
  | .interrupted why => .error (.interrupted why)
  | .emptyStack => .error (.fault .emptyStack)

theorem outcome_walk (p : Plan) (interval : Number) (poll : Option Poll) (tree : SyntaxNode)
    (s : Session) {t : WalkState} {halt : Halt}
    (h : p.run interval poll (p.start tree s.checks) = (t, halt)) :
    (walk p interval poll tree).outcome s =
      (answer t.events.reverse halt,
        { s with
            checks := t.checks
            records := s.records ++
              t.events.reverse.filterMap (eventRecord? p.file.path) }) := by
  rw [walk, Call.outcome_bind, Call.outcome_get]
  simp only [h]
  rw [Call.outcome_bind, Call.outcome_modify]
  cases halt with
  | finished => rfl
  | interrupted why => rfl
  | emptyStack => rfl

theorem of_outcome_walk_eq_ok {p : Plan} {interval : Number} {poll : Option Poll}
    {tree : SyntaxNode} {s s' : Session} {events : List WalkEvent}
    (h : (walk p interval poll tree).outcome s = (.ok events, s')) :
    events = p.events p.root tree := by
  rcases hrun : p.run interval poll (p.start tree s.checks) with ⟨t, halt⟩
  rw [outcome_walk p interval poll tree s hrun] at h
  cases halt with
  | finished =>
      have hevents := Plan.events_of_run_finished hrun
      cases h
      exact hevents
  | interrupted why =>
      cases h
  | emptyStack =>
      cases h

/-- A walk without a poll gives the events of its tree and logs those that gave no chunk. -/
theorem outcome_walk_unpolled (p : Plan) (interval : Number) (tree : SyntaxNode) (s : Session) :
    (walk p interval none tree).outcome s =
      (.ok (p.events p.root tree),
        { s with
            records := s.records ++
              (p.events p.root tree).filterMap (eventRecord? p.file.path) }) := by
  rcases Plan.run_unpolled p interval tree s.checks with ⟨t, hrun, hchecks⟩
  rw [outcome_walk p interval none tree s hrun, Plan.events_of_run_finished hrun, hchecks]
  rfl

/-! ## Chunkers with a table -/

def outline (c : TableChunker) (file : SourceFile) (tree : SyntaxNode) : Outline where
  file := file
  chunks := (c.plan file).root :: (c.events file tree).filterMap WalkEvent.chunk?

theorem outline_eq (c : TableChunker) (file : SourceFile) (tree : SyntaxNode) :
    c.outline file tree =
      { file, chunks := (c.plan file).root :: (c.plan file).chunksUnder (c.plan file).root tree } :=
  rfl

/-- Walks a tree and makes the outline of what the walk gives. -/
def outlineTree (c : TableChunker) (file : SourceFile) (poll : Option Poll) (tree : SyntaxNode) :
    Call Outline := do
  let events ← walk (c.plan file) c.interval poll tree
  let outline : Outline :=
    { file, chunks := (c.plan file).root :: events.filterMap WalkEvent.chunk? }
  Call.log (c.closingRecord outline)
  pure outline

theorem chunk_eq_outlining (tools : Toolchain) (c : TableChunker) (file : SourceFile)
    (poll : Option Poll) :
    c.chunk tools file poll =
      Call.outlining tools c.table.grammar file poll (c.outlineTree file poll) :=
  rfl

variable {tools : Toolchain} {c : TableChunker} {file : SourceFile} {s s' : Session}

/-- How a walk ends decides the outcome and the number of checks. -/
theorem outcome_outlineTree {poll : Option Poll} {tree : SyntaxNode} {t : WalkState} {halt : Halt}
    (hrun : (c.plan file).run c.interval poll ((c.plan file).start tree s.checks) = (t, halt)) :
    ∃ s', s'.checks = t.checks ∧
      (c.outlineTree file poll tree).outcome s =
        match halt with
        | .finished => (.ok (c.outline file tree), s')
        | .interrupted why => (.error (.interrupted why), s')
        | .emptyStack => (.error (.fault .emptyStack), s') := by
  have hwalk := outcome_walk (c.plan file) c.interval poll tree s hrun
  cases halt with
  | finished =>
      rw [Plan.events_of_run_finished hrun] at hwalk
      refine ⟨_, ?_, by rw [outlineTree, Call.outcome_bind_of_ok hwalk]; rfl⟩
      rfl
  | interrupted why =>
      refine ⟨_, ?_, by rw [outlineTree, Call.outcome_bind, hwalk]; rfl⟩
      rfl
  | emptyStack =>
      refine ⟨_, ?_, by rw [outlineTree, Call.outcome_bind, hwalk]; rfl⟩
      rfl

/-- Chunking without a poll gives the outline of the tree; the log grows by the events without a
chunk and a closing record. -/
theorem outcome_chunk {tree : SyntaxNode} (hblank : file.content.isBlank = false)
    (hparses : s.engine.Parses tools c.table.grammar file.content tree) :
    (c.chunk tools file none).outcome s =
      (.ok (c.outline file tree),
        { s.parsed tools c.table.grammar with
            records := (s.parsed tools c.table.grammar).records ++
              (c.events file tree).filterMap (eventRecord? file.path) ++
                [c.closingRecord (c.outline file tree)] }) := by
  rw [chunk_eq_outlining, Call.outcome_outlining hblank hparses, outlineTree, Call.outcome_bind,
    outcome_walk_unpolled]
  rfl

theorem of_outcome_chunk_eq_ok {poll : Option Poll} {o : Outline}
    (h : (c.chunk tools file poll).outcome s = (.ok o, s')) :
    (file.content.isBlank = true ∧ o = { file }) ∨
      (file.content.isBlank = false ∧
        ∃ tree, s.engine.Parses tools c.table.grammar file.content tree ∧
          o = c.outline file tree) := by
  rw [chunk_eq_outlining] at h
  rcases Call.of_outcome_outlining_eq_ok h with hempty | ⟨hblank, tree, before, hparses, hmake⟩
  · exact Or.inl hempty
  · -- Only the walk can fail here; the closing record cannot.
    rcases Call.of_outcome_bind_eq_ok hmake with ⟨events, s₃, hwalk, hlog⟩
    have hevents := of_outcome_walk_eq_ok hwalk
    subst hevents
    cases hlog
    exact Or.inr ⟨hblank, tree, hparses, rfl⟩

/-- With any poll there is the outline of the tree or none. -/
theorem eq_outline_of_outcome_chunk {poll : Option Poll} {o : Outline} {tree : SyntaxNode}
    (hblank : file.content.isBlank = false)
    (hparses : s.engine.Parses tools c.table.grammar file.content tree)
    (h : ((c.chunk tools file poll).outcome s).1 = .ok o) : o = c.outline file tree := by
  rcases of_outcome_chunk_eq_ok (Prod.ext h rfl) with ⟨hempty, _⟩ | ⟨_, tree', hparses', ho⟩
  · rw [hblank] at hempty
    cases hempty
  · rw [ho, hparses.tree_eq hparses']

end TableChunker

/-! ## Chunkers written for one language -/

namespace Reference

def outline (r : Reference) (levels : Nat) (file : SourceFile) (tree : SyntaxNode) :
    Except Fault Outline :=
  (r.chunks file (Chunk.ofFile file r.language).id levels tree).map fun below =>
    { file, chunks := Chunk.ofFile file r.language :: below }

theorem exists_chunks_of_outline {r : Reference} {levels : Nat} {file : SourceFile}
    {tree : SyntaxNode} {o : Outline} (h : r.outline levels file tree = .ok o) :
    ∃ found, r.chunks file (Chunk.ofFile file r.language).id levels tree = .ok found ∧
      o = { file, chunks := Chunk.ofFile file r.language :: found } := by
  unfold outline at h
  cases hfound : r.chunks file (Chunk.ofFile file r.language).id levels tree with
  | error why =>
      rw [hfound] at h
      cases h
  | ok found =>
      rw [hfound] at h
      exact ⟨found, rfl, (Except.ok.inj h).symm⟩

def outlineTree (r : Reference) (levels : Nat) (file : SourceFile) (tree : SyntaxNode) :
    Call Outline :=
  match r.outline levels file tree with
  | .ok o => pure o
  | .error why => throw (.fault why)

theorem chunk_eq_outlining (tools : Toolchain) (r : Reference) (file : SourceFile)
    (poll : Option Poll) :
    r.chunk tools file poll =
      Call.outlining tools r.language file poll (r.outlineTree tools.levels file) := by
  unfold chunk Call.outlining outlineTree outline
  congr 1
  funext _
  split
  · rfl
  · congr 1
    funext tree
    dsimp only
    cases r.chunks file (Chunk.ofFile file r.language).id tools.levels tree <;> rfl

variable {tools : Toolchain} {r : Reference} {file : SourceFile} {s s' : Session}

theorem outcome_outlineTree (r : Reference) (levels : Nat) (file : SourceFile) (tree : SyntaxNode)
    (s : Session) :
    (r.outlineTree levels file tree).outcome s =
      ((r.outline levels file tree).mapError Failure.fault, s) := by
  unfold outlineTree
  cases r.outline levels file tree <;> rfl

theorem outcome_chunk {tree : SyntaxNode} (hblank : file.content.isBlank = false)
    (hparses : s.engine.Parses tools r.language file.content tree) :
    (r.chunk tools file none).outcome s =
      ((r.outline tools.levels file tree).mapError Failure.fault, s.parsed tools r.language) := by
  rw [chunk_eq_outlining, Call.outcome_outlining hblank hparses, outcome_outlineTree]

/-- Chunking gives no chunks for a blank file, the outline of the tree for any other file, or
fails. -/
theorem of_outcome_chunk_eq_ok {poll : Option Poll} {o : Outline}
    (h : (r.chunk tools file poll).outcome s = (.ok o, s')) :
    (file.content.isBlank = true ∧ o = { file }) ∨
      (file.content.isBlank = false ∧
        ∃ tree, s.engine.Parses tools r.language file.content tree ∧
          r.outline tools.levels file tree = .ok o) := by
  rw [chunk_eq_outlining] at h
  rcases Call.of_outcome_outlining_eq_ok h with hempty | ⟨hblank, tree, before, hparses, hmake⟩
  · exact Or.inl hempty
  · refine Or.inr ⟨hblank, tree, hparses, ?_⟩
    rw [outcome_outlineTree] at hmake
    cases hwalk : r.outline tools.levels file tree with
    | error why =>
        rw [hwalk] at hmake
        cases hmake
    | ok made =>
        rw [hwalk] at hmake
        cases hmake
        rfl

theorem outline_eq_ok_of_outcome_chunk {poll : Option Poll} {o : Outline} {tree : SyntaxNode}
    (hblank : file.content.isBlank = false)
    (hparses : s.engine.Parses tools r.language file.content tree)
    (h : ((r.chunk tools file poll).outcome s).1 = .ok o) :
    r.outline tools.levels file tree = .ok o := by
  rcases of_outcome_chunk_eq_ok (Prod.ext h rfl) with ⟨hempty, _⟩ | ⟨_, tree', hparses', ho⟩
  · rw [hblank] at hempty
    cases hempty
  · rwa [hparses.tree_eq hparses'] at ho

end Reference

/-! ## Chunkers of any kind -/

namespace Chunker

/-- What a chunker of each kind can give for a file.  Only the one for everything gives a chunk
for a blank file. -/
inductive Gives (file : SourceFile) : Chunker → Outline → Prop where
  | empty (chunker : Chunker) :
      chunker ≠ .fallback → file.content.isBlank = true → Gives file chunker { file }
  | table (c : TableChunker) (tree : SyntaxNode) :
      Gives file (.table c) (c.outline file tree)
  | reference (r : Reference) (levels : Nat) (tree : SyntaxNode) (o : Outline) :
      r.outline levels file tree = .ok o → Gives file (.reference r) o
  | fallback (language : String) :
      Gives file .fallback { file, chunks := [Chunk.ofFile file language] }

variable {tools : Toolchain} {chunker : Chunker} {file : SourceFile} {poll : Option Poll}
variable {s : Session} {o : Outline}

theorem gives_of_outcome (h : ((chunker.chunk tools file poll).outcome s).1 = .ok o) :
    chunker.Gives file o := by
  have hpair : (chunker.chunk tools file poll).outcome s =
      (.ok o, ((chunker.chunk tools file poll).outcome s).2) := Prod.ext h rfl
  cases chunker with
  | table c =>
      rcases TableChunker.of_outcome_chunk_eq_ok hpair with ⟨hblank, rfl⟩ | ⟨_, tree, _, rfl⟩
      · exact Gives.empty _ (by simp) hblank
      · exact Gives.table c tree
  | reference r =>
      rcases Reference.of_outcome_chunk_eq_ok hpair with ⟨hblank, rfl⟩ | ⟨_, tree, _, houtline⟩
      · exact Gives.empty _ (by simp) hblank
      · exact Gives.reference r tools.levels tree o houtline
  | fallback =>
      rcases Call.of_outcome_bind_eq_ok hpair with ⟨_, s₁, _, hrest⟩
      cases hrest
      exact Gives.fallback _

end Chunker

/-- A registry hands a file, perhaps with another language, to a chunker. -/
theorem Registry.exists_chunker (r : Registry) (tools : Toolchain) (file : SourceFile)
    (poll : Option Poll) : ∃ (chunker : Chunker) (file' : SourceFile),
      r.chunk tools file poll = chunker.chunk tools file' poll := by
  unfold Registry.chunk
  split
  · rename_i chunker _
    exact ⟨chunker, file.withLanguage chunker.language, rfl⟩
  · rename_i chunker _
    exact ⟨chunker, file, rfl⟩

end SourceOutline
