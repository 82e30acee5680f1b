import Mathlib.Data.List.Basic
import SourceOutline.Proofs.Chunker.Outcome
import SourceOutline.Proofs.Chunker.WellFormed
import SourceOutline.Proofs.LanguageTable.Acceptance
import SourceOutline.Proofs.SyntaxTree.Occurrence

/-!
# Ancestors — the chunks of a tree, node by node

A table-driven walk can be described without a walk: whether a node has a chunk, and which chunk is
its parent, is decided by the node and what lies above it.

* `TableChunker.outcome_chunk_eq_occurrences` — the outline of a file, said with the ancestors of
  its nodes.
-/

namespace SourceOutline

namespace Plan

/-! ## Chunks by ancestors -/

/-- A node with what lies above it is due if it is a class or a method, and nothing above it is a
method. -/
def IsDue (p : Plan) (o : Occurrence) : Prop :=
  (p.table.isClass o.node.type = true ∨ p.table.isMethod o.node.type = true) ∧
    ∀ a ∈ o.above, p.table.isMethod a.type = false

instance (p : Plan) (o : Occurrence) : Decidable (p.IsDue o) :=
  inferInstanceAs (Decidable (_ ∧ _))

/-- A node with what lies above it has a chunk if it is a class or a method, nothing above it is a
method, and it is well-formed. -/
def Declares (p : Plan) (o : Occurrence) : Prop :=
  (p.table.isClass o.node.type = true ∨ p.table.isMethod o.node.type = true) ∧
    (∀ a ∈ o.above, p.table.isMethod a.type = false) ∧
      o.node.IsWellFormed p.file.content p.table.nameField

instance (p : Plan) (o : Occurrence) : Decidable (p.Declares o) :=
  inferInstanceAs (Decidable (_ ∧ _ ∧ _))

def isEnclosing (p : Plan) (n : SyntaxNode) : Bool :=
  p.table.isClass n.type && decide (n.IsWellFormed p.file.content p.table.nameField)

/-- The digest of the chunk that encloses a place: that of the nearest well-formed class above it,
or of the file. -/
def enclosingId (p : Plan) (above : List SyntaxNode) : String :=
  match above.find? p.isEnclosing with
  | some a => (p.chunkOf .classLike p.root.id a).id
  | none => p.root.id

def parentIdAt (p : Plan) (o : Occurrence) : String :=
  if p.table.isClass o.node.type then p.root.id else p.enclosingId o.above

def levelAt (p : Plan) (o : Occurrence) : Level :=
  if p.table.isClass o.node.type then .classLike else .method

def eventAt (p : Plan) (o : Occurrence) : WalkEvent :=
  p.declare o.node (p.levelAt o) (p.parentIdAt o)

def chunkAt (p : Plan) (o : Occurrence) : Chunk :=
  p.chunkOf (if p.table.isClass o.node.type then .classLike else .method) (p.parentIdAt o) o.node

def chunksAt (p : Plan) (os : List Occurrence) : List Chunk :=
  (os.filter fun o => p.Declares o).map p.chunkAt

variable {p : Plan} {n : SyntaxNode} {above : List SyntaxNode}

/-! ## One node -/

theorem enclosingId_cons_of_enclosing (h : p.isEnclosing n = true) :
    p.enclosingId (n :: above) = (p.chunkOf .classLike p.root.id n).id := by
  simp [enclosingId, h]

theorem enclosingId_cons_of_not_enclosing (h : p.isEnclosing n = false) :
    p.enclosingId (n :: above) = p.enclosingId above := by
  simp [enclosingId, h]

/-- Below a class the enclosing chunk is that of the class, or the same as above it if the class has
no chunk. -/
theorem id_getD_declare {owner : Chunk} (hclass : p.table.isClass n.type = true)
    (howner : owner.id = p.enclosingId above) :
    ((p.declare n .classLike p.root.id).chunk?.getD owner).id = p.enclosingId (n :: above) := by
  rw [chunk?_declare]
  by_cases hwell : n.IsWellFormed p.file.content p.table.nameField
  · rw [if_pos hwell, enclosingId_cons_of_enclosing (by simp [isEnclosing, hclass, hwell])]
    rfl
  · rw [if_neg hwell, enclosingId_cons_of_not_enclosing (by simp [isEnclosing, hwell])]
    exact howner

/-! ## Whole trees -/

theorem filter_isDue_below_method (hmethod : p.table.isMethod n.type = true) :
    ((n.children.flatMap (SyntaxNode.occurrences (n :: above))).filter fun o => p.IsDue o) = [] := by
  rw [List.filter_eq_nil_iff]
  intro o ho hdue
  rcases List.mem_flatMap.1 ho with ⟨c, -, hmem⟩
  have habove := SyntaxNode.mem_above_of_mem_occurrences hmem List.mem_cons_self
  have hfree := (of_decide_eq_true hdue).2 n habove
  rw [hmethod] at hfree
  cases hfree

/-- The events under an owner are those of the occurrences that are due, in pre-order, as long as no
method lies above and the owner is the chunk that encloses the place. -/
theorem events_eq_map_eventAt (htable : p.table.IsAccepted) {owner : Chunk}
    (hfree : ∀ a ∈ above, p.table.isMethod a.type = false)
    (howner : owner.id = p.enclosingId above) :
    p.events owner n = ((n.occurrences above).filter fun o => p.IsDue o).map p.eventAt := by
  induction n generalizing above owner with
  | node n ih =>
      -- Below a node that is no method, the same holds with that node above.
      have hbelow : ∀ next : Chunk, next.id = p.enclosingId (n :: above) →
          p.table.isMethod n.type = false →
            n.children.flatMap (p.events next) =
              ((n.children.flatMap (SyntaxNode.occurrences (n :: above))).filter
                fun o => p.IsDue o).map p.eventAt := by
        intro next hnext hmethod
        rw [List.filter_flatMap, List.map_flatMap]
        refine List.flatMap_congr fun c hc => ih c hc ?_ hnext
        intro a ha
        rcases List.mem_cons.1 ha with rfl | hmem
        · exact hmethod
        · exact hfree a hmem
      rw [SyntaxNode.occurrences_eq, events_eq]
      by_cases hclass : p.table.isClass n.type = true
      · -- An accepted table does not take the class for a method, so the walk goes on below it.
        have hmethod := htable.isMethod_eq_false hclass
        have hdue : p.IsDue ⟨n, above⟩ := ⟨.inl hclass, hfree⟩
        rw [if_pos hclass, List.filter_cons_of_pos (by simpa using hdue), List.map_cons,
          hbelow _ (id_getD_declare hclass howner) hmethod]
        simp [eventAt, levelAt, parentIdAt, hclass]
      · have hnext : owner.id = p.enclosingId (n :: above) :=
          howner.trans
            (enclosingId_cons_of_not_enclosing (by simp [isEnclosing, hclass])).symm
        rw [if_neg hclass]
        by_cases hmethod : p.table.isMethod n.type = true
        · have hdue : p.IsDue ⟨n, above⟩ := ⟨.inr hmethod, hfree⟩
          rw [if_pos hmethod, List.filter_cons_of_pos (by simpa using hdue),
            filter_isDue_below_method hmethod, howner]
          simp [eventAt, levelAt, parentIdAt, hclass]
        · have hdue : ¬ p.IsDue ⟨n, above⟩ := by
            rintro ⟨hkind, -⟩
            exact hkind.elim hclass hmethod
          rw [if_neg hmethod, List.filter_cons_of_neg (by simpa using hdue),
            hbelow owner hnext (Bool.eq_false_iff.2 hmethod)]

theorem chunk?_eventAt (o : Occurrence) :
    (p.eventAt o).chunk? =
      if o.node.IsWellFormed p.file.content p.table.nameField then some (p.chunkAt o) else none :=
  chunk?_declare p o.node _ _

/-- Of occurrences that are due, those that are well-formed give their chunks. -/
theorem filterMap_chunk?_eventAt (os : List Occurrence) :
    ((os.filter fun o => p.IsDue o).map p.eventAt).filterMap WalkEvent.chunk? =
      p.chunksAt os := by
  have hsplit : (fun o => decide (p.Declares o)) = fun o =>
      decide (o.node.IsWellFormed p.file.content p.table.nameField) && decide (p.IsDue o) := by
    funext o
    rw [← Bool.decide_and, decide_eq_decide, Declares, IsDue, ← and_assoc, and_comm]
  rw [chunksAt, hsplit, ← List.filter_filter, List.filterMap_map]
  generalize (os.filter fun o => p.IsDue o) = due
  rw [← List.filterMap_eq_map, List.filterMap_filter]
  refine List.filterMap_congr fun o _ => ?_
  simpa using chunk?_eventAt o

/-- The chunks under an owner are those of the occurrences in pre-order, as long as no method lies
above and the owner is the chunk that encloses the place. -/
theorem chunksUnder_eq_chunksAt (htable : p.table.IsAccepted) {owner : Chunk}
    (hfree : ∀ a ∈ above, p.table.isMethod a.type = false)
    (howner : owner.id = p.enclosingId above) :
    p.chunksUnder owner n = p.chunksAt (n.occurrences above) := by
  rw [chunksUnder, events_eq_map_eventAt htable hfree howner, filterMap_chunk?_eventAt]

end Plan

/-! ## Files -/

namespace TableChunker

/-- The outline of a file lists the file and then, in pre-order, the chunks of the occurrences of
its tree. -/
theorem outline_eq_chunksAt {c : TableChunker} (htable : c.table.IsAccepted) (file : SourceFile)
    (tree : SyntaxNode) :
    c.outline file tree =
      { file
        chunks :=
          Chunk.ofFile file c.language :: (c.plan file).chunksAt (tree.occurrences []) } := by
  have hfree : ∀ a ∈ ([] : List SyntaxNode), (c.plan file).table.isMethod a.type = false := by
    simp
  have howner : (c.plan file).root.id = (c.plan file).enclosingId [] := rfl
  rw [outline_eq, Plan.chunksUnder_eq_chunksAt htable hfree howner]
  rfl

/-- Chunking a file that is not blank succeeds.  The outline holds the chunk of the file and then,
in pre-order, one chunk for each well-formed class or method of the tree above which there is no
method. -/
theorem outcome_chunk_eq_occurrences {tools : Toolchain} {c : TableChunker} {file : SourceFile}
    {tree : SyntaxNode} {s : Session} (htable : c.table.IsAccepted)
    (hblank : file.content.isBlank = false)
    (hparses : s.engine.Parses tools c.table.grammar file.content tree) :
    ((c.chunk tools file none).outcome s).1 =
      .ok
        { file
          chunks := Chunk.ofFile file c.language ::
            ((tree.occurrences []).filter fun o => (c.plan file).Declares o).map
              (c.plan file).chunkAt } := by
  rw [outcome_chunk hblank hparses, outline_eq_chunksAt htable]
  rfl

end TableChunker

/-! ## A nested class -/

namespace NestedClass

def file : SourceFile where
  path := "a.py"
  content := utf8Bytes "class A:\n  def f(): pass\n"

/-- The method lies in a class without a name inside the class, and there is a class inside the
method. -/
def tree : SyntaxNode :=
  let name (start stop : Nat) (row : Int) := SyntaxNode.node "identifier" ⟨start, stop, row, row⟩
    (some "name") []
  let inMethod := SyntaxNode.node "class_definition" ⟨11, 24, 1, 1⟩ none [name 15 16 1]
  let method := SyntaxNode.node "function_definition" ⟨11, 24, 1, 1⟩ none [name 15 16 1, inMethod]
  let unnamed := SyntaxNode.node "class_definition" ⟨11, 24, 1, 1⟩ none [method]
  .node "module" ⟨0, 25, 0, 2⟩ none
    [.node "class_definition" ⟨0, 24, 0, 1⟩ none [name 6 7 0, unnamed]]

def chunker : TableChunker := { table := .python }

theorem content_not_blank : file.content.isBlank = false := by decide

end NestedClass

namespace TableChunker

open NestedClass in
theorem outcome_chunk_nestedClass :
    chunker.table.IsAccepted ∧ file.content.isBlank = false ∧
      ({} : Engine).Parses (.answering tree) chunker.table.grammar file.content tree ∧
      ((chunker.chunk (.answering tree) file none).outcome {}).1 =
        .ok
          { file
            chunks := Chunk.ofFile file "python" ::
              ((tree.occurrences []).filter fun o => (chunker.plan file).Declares o).map
                (chunker.plan file).chunkAt } ∧
      (((tree.occurrences []).filter fun o => (chunker.plan file).Declares o).map
        fun o => (o.node.type, o.above.length)) =
          [("class_definition", 1), ("function_definition", 3)] :=
  have htable := LanguageTable.isAccepted_of_mem_packaged (t := .python) (by decide)
  have hparses := Engine.parses_answering chunker.table.grammar file.content tree
  ⟨htable, content_not_blank, hparses,
    outcome_chunk_eq_occurrences htable content_not_blank hparses, by decide +kernel⟩

end TableChunker

end SourceOutline
