import SourceOutline.Chunker.Walk

/-!
# WellFormed — which nodes give a chunk

A node gives a chunk exactly if it is well-formed, and then the chunk can be written down without
regard to what could go wrong.
-/

namespace SourceOutline

namespace SyntaxNode

/-- A well-formed node has a child under the name field whose text is not empty once it is trimmed,
rows and bytes that are in order, and a text that is not blank. -/
structure IsWellFormed (n : SyntaxNode) (source : Bytes) (nameField : String) : Prop where
  named : ∃ child, n.childByField? nameField = some child ∧ (child.text source).strip ≠ []
  startRow_nonneg : 0 ≤ n.span.startRow
  rows_le : n.span.startRow ≤ n.span.endRow
  bytes_le : n.span.startByte ≤ n.span.endByte
  not_blank : (n.text source).isBlank = false

def nameText (n : SyntaxNode) (source : Bytes) (nameField : String) : Text :=
  match n.childByField? nameField with
  | some child => (child.text source).strip
  | none => []

variable {n : SyntaxNode} {source : Bytes} {nameField : String}

/-- A node declares a name exactly if the trimmed text under the name field is not empty. -/
theorem declaredName?_eq (n : SyntaxNode) (source : Bytes) (nameField : String) :
    n.declaredName? source nameField =
      if n.nameText source nameField = [] then none else some (n.nameText source nameField) := by
  unfold declaredName? nameText
  cases n.childByField? nameField with
  | none => simp
  | some child => simp

theorem named_iff :
    (∃ child, n.childByField? nameField = some child ∧ (child.text source).strip ≠ []) ↔
      n.nameText source nameField ≠ [] := by
  unfold nameText
  cases n.childByField? nameField with
  | none => simp
  | some child => simp

theorem isWellFormed_iff :
    n.IsWellFormed source nameField ↔
      n.nameText source nameField ≠ [] ∧ n.span.isOrdered = true ∧
        (n.text source).isBlank = false := by
  constructor
  · intro h
    refine ⟨named_iff.1 h.named, ?_, h.not_blank⟩
    simp [Span.isOrdered, h.startRow_nonneg, h.rows_le, h.bytes_le]
  · rintro ⟨hname, hordered, hblank⟩
    simp only [Span.isOrdered, Bool.and_eq_true, decide_eq_true_eq] at hordered
    exact ⟨named_iff.2 hname, hordered.1.1, hordered.1.2, hordered.2, hblank⟩

instance : Decidable (n.IsWellFormed source nameField) :=
  decidable_of_iff _ isWellFormed_iff.symm

end SyntaxNode

namespace Plan

def chunkOf (p : Plan) (level : Level) (parentId : String) (n : SyntaxNode) : Chunk where
  path := p.file.path
  startLine := n.span.startRow + 1
  endLine := n.span.endRow + 1
  level := level
  language := p.table.language
  content := n.text p.file.content
  name := n.nameText p.file.content p.table.nameField
  signature := (n.text p.file.content).signature
  parentId := some parentId
  lastModified := p.file.lastModified

/-- Name, span and text of a node are looked at in this order, and what is missing first decides what
becomes of it. -/
theorem declare_eq (p : Plan) (n : SyntaxNode) (level : Level) (parentId : String) :
    p.declare n level parentId =
      if n.nameText p.file.content p.table.nameField = [] then .unnamed n
      else if n.IsWellFormed p.file.content p.table.nameField then .chunk (p.chunkOf level parentId n)
      else .malformed n (n.nameText p.file.content p.table.nameField) := by
  have hwell := @SyntaxNode.isWellFormed_iff n p.file.content p.table.nameField
  unfold declare
  rw [SyntaxNode.declaredName?_eq]
  by_cases hname : n.nameText p.file.content p.table.nameField = []
  · simp [hname]
  · simp only [hname, if_false]
    by_cases hordered : n.span.isOrdered = true
    · cases hblank : (n.text p.file.content).isBlank with
      | true =>
          simp [Chunk.ofNode?, hordered, hblank, hwell]
      | false =>
          simp [Chunk.ofNode?, hordered, hblank, hwell, hname, chunkOf]
    · simp [Chunk.ofNode?, hordered, hwell]

theorem chunk?_declare (p : Plan) (n : SyntaxNode) (level : Level) (parentId : String) :
    (p.declare n level parentId).chunk? =
      if n.IsWellFormed p.file.content p.table.nameField then
        some (p.chunkOf level parentId n)
      else none := by
  rw [declare_eq]
  by_cases hwell : n.IsWellFormed p.file.content p.table.nameField
  · rw [if_neg (SyntaxNode.isWellFormed_iff.1 hwell).1, if_pos hwell, if_pos hwell]
    rfl
  · rw [if_neg hwell, if_neg hwell]
    split <;> rfl

end Plan

end SourceOutline
