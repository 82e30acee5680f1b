import Mathlib.Data.List.Forall2
import SourceOutline.Proofs.Chunker.Ancestors

/-!
# Traces — no declaration is lost without one

A class or a method that the walk comes to has either a chunk or a record that says why it has none.

* `TableChunker.exists_traces_of_walk` — what a walk adds to the chunks and to the log.
-/

namespace SourceOutline

namespace SyntaxNode

variable {n child : SyntaxNode} {source : Bytes} {nameField : String}

theorem nameText_of_childByField? (h : n.childByField? nameField = some child) :
    n.nameText source nameField = (child.text source).strip := by
  simp [nameText, h]

/-- A node has no name if what stands under the name field, if anything does, is blank. -/
theorem nameText_eq_nil_iff :
    n.nameText source nameField = [] ↔
      ∀ child, n.childByField? nameField = some child → (child.text source).strip = [] := by
  rw [← not_iff_not, ← ne_eq, ← named_iff]
  simp

/-- What a node with a name can lack. -/
theorem not_isWellFormed_iff_of_named (hname : n.nameText source nameField ≠ []) :
    ¬ n.IsWellFormed source nameField ↔
      n.span.startRow < 0 ∨ n.span.endRow < n.span.startRow ∨ n.span.endByte < n.span.startByte ∨
        (n.text source).isBlank = true := by
  rw [isWellFormed_iff, Span.isOrdered]
  simp only [ne_eq, hname, not_false_eq_true, true_and, Bool.and_eq_true, decide_eq_true_eq,
    not_and_or, Int.not_le, Nat.not_le, Bool.not_eq_false, or_assoc]

end SyntaxNode

namespace Plan

/-! ## One node -/

/-- What a node with what lies above it leaves behind: its chunk, or a record of what it lacks. -/
inductive Leaves (p : Plan) (o : Occurrence) : Chunk ⊕ Record → Prop where
  | chunk :
      o.node.IsWellFormed p.file.content p.table.nameField →
        Leaves p o (.inl (p.chunkAt o))
  | unnamed :
      (∀ child, o.node.childByField? p.table.nameField = some child →
        (child.text p.file.content).strip = []) →
          Leaves p o
            (.inr (.of .debug TableChunker.loggerName "Skipped unnamed node"
              [("path", .text p.file.path), ("node_type", .text o.node.type),
                ("line", .int (o.node.span.startRow + 1))]))
  | malformed (child : SyntaxNode) :
      o.node.childByField? p.table.nameField = some child →
        (child.text p.file.content).strip ≠ [] →
        (o.node.span.startRow < 0 ∨ o.node.span.endRow < o.node.span.startRow ∨
          o.node.span.endByte < o.node.span.startByte ∨
            (o.node.text p.file.content).isBlank = true) →
          Leaves p o
            (.inr (.of .debug TableChunker.loggerName "Skipped malformed node"
              [("path", .text p.file.path), ("node_type", .text o.node.type),
                ("name", .text (child.text p.file.content).strip.toString)]))

variable {p : Plan} {o : Occurrence} {t u : Chunk ⊕ Record}

theorem Leaves.eq_eventAt (h : p.Leaves o t) :
    t.getLeft? = (p.eventAt o).chunk? ∧
      t.getRight? = TableChunker.eventRecord? p.file.path (p.eventAt o) := by
  rw [eventAt, declare_eq]
  cases h with
  | chunk hwell =>
      rw [if_neg (SyntaxNode.isWellFormed_iff.1 hwell).1, if_pos hwell]
      exact ⟨rfl, rfl⟩
  | unnamed hnone =>
      rw [if_pos (SyntaxNode.nameText_eq_nil_iff.2 hnone)]
      exact ⟨rfl, rfl⟩
  | malformed child hchild hname hlacks =>
      have htext : o.node.nameText p.file.content p.table.nameField =
          (child.text p.file.content).strip := SyntaxNode.nameText_of_childByField? hchild
      rw [← htext] at hname
      rw [if_neg hname, if_neg ((SyntaxNode.not_isWellFormed_iff_of_named hname).2 hlacks), htext]
      exact ⟨rfl, rfl⟩

theorem exists_leaves (p : Plan) (o : Occurrence) : ∃ t, p.Leaves o t := by
  by_cases hwell : o.node.IsWellFormed p.file.content p.table.nameField
  · exact ⟨_, .chunk hwell⟩
  by_cases hname : o.node.nameText p.file.content p.table.nameField = []
  · exact ⟨_, .unnamed (SyntaxNode.nameText_eq_nil_iff.1 hname)⟩
  · rcases SyntaxNode.named_iff.2 hname with ⟨child, hchild, hstrip⟩
    exact ⟨_, .malformed child hchild hstrip
      ((SyntaxNode.not_isWellFormed_iff_of_named hname).1 hwell)⟩

theorem Leaves.unique (ht : p.Leaves o t) (hu : p.Leaves o u) : t = u := by
  have hleft : t.getLeft? = u.getLeft? := ht.eq_eventAt.1.trans hu.eq_eventAt.1.symm
  have hright : t.getRight? = u.getRight? := ht.eq_eventAt.2.trans hu.eq_eventAt.2.symm
  cases t with
  | inl c =>
      cases u with
      | inl d => exact congrArg Sum.inl (Option.some.inj hleft)
      | inr r => cases hleft
  | inr r =>
      cases u with
      | inl d => cases hleft
      | inr r' => exact congrArg Sum.inr (Option.some.inj hright)

/-! ## Many nodes -/

theorem exists_traces (p : Plan) (os : List Occurrence) :
    ∃ traces : List (Chunk ⊕ Record),
      List.Forall₂ p.Leaves os traces ∧
        traces.filterMap Sum.getLeft? = (os.map p.eventAt).filterMap WalkEvent.chunk? ∧
          traces.filterMap Sum.getRight? =
            (os.map p.eventAt).filterMap (TableChunker.eventRecord? p.file.path) := by
  induction os with
  | nil =>
      exact ⟨[], .nil, rfl, rfl⟩
  | cons o os ih =>
      rcases ih with ⟨traces, hleave, hchunks, hrecords⟩
      rcases p.exists_leaves o with ⟨t, ht⟩
      refine ⟨t :: traces, .cons ht hleave, ?_, ?_⟩
      · simp only [List.map_cons, List.filterMap_cons, ht.eq_eventAt.1, hchunks]
      · simp only [List.map_cons, List.filterMap_cons, ht.eq_eventAt.2, hrecords]

end Plan

/-! ## Files -/

theorem Record.visible_debug (records : List Record) : Record.visible .debug records = records := by
  refine List.filter_eq_self.2 fun r _ => ?_
  cases hsev : r.severity <;> simp [Severity.rank]

namespace TableChunker

variable {tools : Toolchain} {c : TableChunker} {file : SourceFile} {tree : SyntaxNode}
variable {interval : Number} {poll : Option Poll} {s s' : Session}

theorem records_of_outcome_walk {p : Plan} {events : List WalkEvent}
    (h : (walk p interval poll tree).outcome s = (.ok events, s')) :
    s'.records = s.records ++ events.filterMap (eventRecord? p.file.path) := by
  rcases hrun : p.run interval poll (p.start tree s.checks) with ⟨t, halt⟩
  rw [outcome_walk p interval poll tree s hrun] at h
  cases halt with
  | finished =>
      cases h
      rfl
  | interrupted why =>
      cases h
  | emptyStack =>
      cases h

theorem records_of_outcome_chunk {o : Outline} (hblank : file.content.isBlank = false)
    (hparses : s.engine.Parses tools c.table.grammar file.content tree)
    (h : (c.chunk tools file poll).outcome s = (.ok o, s')) :
    s'.records = (s.parsed tools c.table.grammar).records ++
      (c.events file tree).filterMap (eventRecord? file.path) ++ [c.closingRecord o] := by
  rcases Call.of_outcome_bind_eq_ok h with ⟨_, s₁, hcheck, hrest⟩
  rcases Call.of_outcome_check_eq_ok hcheck with ⟨n, rfl⟩
  simp only [hblank, Bool.false_eq_true, if_false] at hrest
  -- The check may have counted, but it has logged nothing.
  rw [Call.outcome_bind_of_ok (Call.outcome_parse (s := { s with checks := n }) hparses)] at hrest
  rcases Call.of_outcome_bind_eq_ok hrest with ⟨events, s₂, hwalk, hlog⟩
  have hevents := of_outcome_walk_eq_ok hwalk
  have hrecords := records_of_outcome_walk hwalk
  subst hevents
  cases hlog
  exact congrArg (· ++ [_]) hrecords

/-- The classes and methods above which there is no method leave one trace each, in pre-order: a
chunk, or a record that it has no name, or a record that it is malformed.  A walk that nothing stops
succeeds, and one that succeeds adds exactly these chunks to the outline and, as far as the lowest
severity shows, exactly these records to the log.  After them chunking logs how many chunks there
are. -/
theorem exists_traces_of_walk (htable : c.table.IsAccepted) (file : SourceFile)
    (tree : SyntaxNode) :
    ∃ traces : List (Chunk ⊕ Record),
      List.Forall₂ (c.plan file).Leaves
          ((tree.occurrences []).filter fun o => (c.plan file).IsDue o) traces ∧
        (∀ interval s, ∃ events s',
          (walk (c.plan file) interval none tree).outcome s = (.ok events, s')) ∧
        (∀ interval poll s events s',
          (walk (c.plan file) interval poll tree).outcome s = (.ok events, s') →
            events.filterMap WalkEvent.chunk? = traces.filterMap Sum.getLeft? ∧
              Record.visible .debug s'.records =
                Record.visible .debug s.records ++ traces.filterMap Sum.getRight?) ∧
        ∀ (tools : Toolchain) (s : Session), file.content.isBlank = false →
          s.engine.Parses tools c.table.grammar file.content tree →
            (∃ o s', (c.chunk tools file none).outcome s = (.ok o, s')) ∧
              ∀ poll o s', (c.chunk tools file poll).outcome s = (.ok o, s') →
                o.chunks = Chunk.ofFile file c.language :: traces.filterMap Sum.getLeft? ∧
                  Record.visible .debug s'.records =
                    Record.visible .debug (s.parsed tools c.table.grammar).records ++
                      traces.filterMap Sum.getRight? ++
                        [.of .debug loggerName "Chunked file"
                          [("path", .text file.path), ("language", .text c.language),
                            ("lines", .int (countLines file.content)),
                            ("chunks", .int o.chunks.length)]] := by
  have hevents : c.events file tree =
      ((tree.occurrences []).filter fun o => (c.plan file).IsDue o).map (c.plan file).eventAt :=
    Plan.events_eq_map_eventAt htable (by simp) rfl
  rcases (c.plan file).exists_traces
    ((tree.occurrences []).filter fun o => (c.plan file).IsDue o) with
      ⟨traces, hleaves, hchunks, hrecords⟩
  -- From here on the traces are what the events of the tree come to.
  rw [← hevents] at hchunks hrecords
  refine ⟨traces, hleaves, ?_, ?_, ?_⟩
  · intro interval s
    exact ⟨_, _, outcome_walk_unpolled (c.plan file) interval tree s⟩
  · intro interval poll s events s' hwalk
    have hwalked : events = c.events file tree := of_outcome_walk_eq_ok hwalk
    rw [Record.visible_debug, Record.visible_debug, records_of_outcome_walk hwalk, hwalked, hchunks,
      hrecords]
    exact ⟨rfl, rfl⟩
  · intro tools s hblank hparses
    refine ⟨⟨_, _, outcome_chunk hblank hparses⟩, ?_⟩
    intro poll o s' hchunk
    have houtline : o = c.outline file tree :=
      eq_outline_of_outcome_chunk hblank hparses (congrArg Prod.fst hchunk)
    rw [Record.visible_debug, Record.visible_debug, records_of_outcome_chunk hblank hparses hchunk,
      hchunks, hrecords, houtline]
    exact ⟨rfl, rfl⟩

end TableChunker

/-! ## Nodes without a chunk -/

namespace SkippedNodes

/-- A function, one without a name, and one with a name in a place that ends before it begins. -/
def tree : SyntaxNode :=
  let name (start stop : Nat) := SyntaxNode.node "identifier" ⟨start, stop, 0, 0⟩ (some "name") []
  .node "module" ⟨0, 6, 0, 0⟩ none
    [.node "function_definition" ⟨0, 2, 0, 0⟩ none [name 0 1],
      .node "function_definition" ⟨2, 4, 0, 0⟩ none [],
      .node "class_definition" ⟨4, 6, 1, 0⟩ none
        [name 4 5, .node "function_definition" ⟨5, 6, 0, 0⟩ none [name 5 6]]]

def file : SourceFile where
  path := "a.py"
  content := utf8Bytes "f;g;Ch"

def chunker : TableChunker := { table := .python }

end SkippedNodes

namespace TableChunker

open SkippedNodes in
theorem exists_traces_skippedNodes :
    chunker.table.IsAccepted ∧ file.content.isBlank = false ∧
      ({} : Engine).Parses (.answering tree) chunker.table.grammar file.content tree ∧
      ∃ (traces : List (Chunk ⊕ Record)) (o : Outline) (s : Session),
        List.Forall₂ (chunker.plan file).Leaves
            ((tree.occurrences []).filter fun o => (chunker.plan file).IsDue o) traces ∧
          (chunker.chunk (.answering tree) file none).outcome {} = (.ok o, s) ∧
          o.chunks = Chunk.ofFile file "python" :: traces.filterMap Sum.getLeft? ∧
          o.chunks.length = 3 ∧
          s.records =
            [⟨.debug, "chunkforge.parsing.engine", "Loaded grammar | language=python"⟩,
              ⟨.debug, loggerName,
                "Skipped unnamed node | path=a.py | node_type=function_definition | line=1"⟩,
              ⟨.debug, loggerName,
                "Skipped malformed node | path=a.py | node_type=class_definition | name=C"⟩,
              ⟨.debug, loggerName,
                "Chunked file | path=a.py | language=python | lines=1 | chunks=3"⟩] := by
  have htable := LanguageTable.isAccepted_of_mem_packaged (t := chunker.table) (by decide)
  have hblank : file.content.isBlank = false := by decide
  have hparses := Engine.parses_answering chunker.table.grammar file.content tree
  rcases exists_traces_of_walk htable file tree with ⟨traces, hleaves, -, -, hfile⟩
  rcases hfile _ {} hblank hparses with ⟨⟨o, s, hchunk⟩, hall⟩
  have hchunks := (hall _ _ _ hchunk).1
  refine ⟨htable, hblank, hparses, traces, o, s, hleaves, hchunk, hchunks, ?_⟩
  rw [outcome_chunk hblank hparses] at hchunk
  cases hchunk
  exact ⟨by decide +kernel, by decide +kernel⟩

end TableChunker

end SourceOutline
