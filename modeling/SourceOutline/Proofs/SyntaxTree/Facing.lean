import SourceOutline.Proofs.Chunker.WellFormed
import SourceOutline.Proofs.SyntaxTree.Occurrence

/-!
# Facing — two trees side by side

A file that is edited and parsed again has another tree.  If the edit stays inside of bodies, the
two trees have the same shape, and each node faces one of the other tree.  What a chunker takes from
a node is then the same on both sides, except for its text.
-/

namespace SourceOutline

namespace SyntaxNode

/-! ## Pairs of nodes -/

mutual

/-- The pairs of nodes at the same places of two trees, in pre-order.  A node without a node at its
place in the other tree is in no pair. -/
def facing : SyntaxNode → SyntaxNode → List (SyntaxNode × SyntaxNode)
  | .node type span field children, m =>
    (.node type span field children, m) :: facingAll children m.children

def facingAll : List SyntaxNode → List SyntaxNode → List (SyntaxNode × SyntaxNode)
  | n :: ns, m :: ms => facing n m ++ facingAll ns ms
  | [], _ => []
  | _ :: _, [] => []

end

theorem facingAll_eq_flatMap (ns ms : List SyntaxNode) :
    facingAll ns ms = (ns.zip ms).flatMap fun pair => pair.1.facing pair.2 := by
  induction ns generalizing ms with
  | nil => simp [facingAll]
  | cons n ns ih =>
      cases ms with
      | nil => simp [facingAll]
      | cons m ms => rw [facingAll, ih, List.zip_cons_cons, List.flatMap_cons]

theorem facing_eq (n m : SyntaxNode) :
    n.facing m =
      (n, m) :: (n.children.zip m.children).flatMap fun pair => pair.1.facing pair.2 := by
  cases n with
  | node type span field children =>
      rw [facing, facingAll_eq_flatMap, SyntaxNode.children]

theorem mem_facing_self (n m : SyntaxNode) : (n, m) ∈ n.facing m := by
  rw [facing_eq]
  exact List.mem_cons_self

theorem facing_subset_of_mem_zip {n m : SyntaxNode} {pair : SyntaxNode × SyntaxNode}
    (h : pair ∈ n.children.zip m.children) : pair.1.facing pair.2 ⊆ n.facing m := by
  intro inner hinner
  rw [facing_eq]
  exact List.mem_cons_of_mem _ (List.mem_flatMap.2 ⟨pair, h, hinner⟩)

/-! ## Declarations -/

/-- Two nodes, each in its source, have the same type, rows, name and number of children, and agree
on whether their bytes are reversed and on whether their text is blank. -/
structure KeepsDeclaration (source source' : Bytes) (nameField : String) (n m : SyntaxNode) :
    Prop where
  type_eq : n.type = m.type
  length_children_eq : n.children.length = m.children.length
  startRow_eq : n.span.startRow = m.span.startRow
  endRow_eq : n.span.endRow = m.span.endRow
  name_eq : n.declaredName? source nameField = m.declaredName? source' nameField
  reversed_iff : n.span.endByte < n.span.startByte ↔ m.span.endByte < m.span.startByte
  blank_eq : (n.text source).isBlank = (m.text source').isBlank

variable {source source' : Bytes} {nameField : String} {n m : SyntaxNode}

theorem keepsDeclaration_iff :
    KeepsDeclaration source source' nameField n m ↔
      n.type = m.type ∧ n.children.length = m.children.length ∧
        n.span.startRow = m.span.startRow ∧ n.span.endRow = m.span.endRow ∧
        n.declaredName? source nameField = m.declaredName? source' nameField ∧
        (n.span.endByte < n.span.startByte ↔ m.span.endByte < m.span.startByte) ∧
        (n.text source).isBlank = (m.text source').isBlank := by
  constructor
  · intro h
    exact ⟨h.type_eq, h.length_children_eq, h.startRow_eq, h.endRow_eq, h.name_eq,
      h.reversed_iff, h.blank_eq⟩
  · rintro ⟨htype, hlength, hstart, hend, hname, hreversed, hblank⟩
    exact ⟨htype, hlength, hstart, hend, hname, hreversed, hblank⟩

instance : Decidable (KeepsDeclaration source source' nameField n m) :=
  decidable_of_iff _ keepsDeclaration_iff.symm

/-- Two trees, each over its source, have the same shape, and nodes that face each other declare the
same. -/
def KeepsDeclarations (source source' : Bytes) (nameField : String) (n m : SyntaxNode) : Prop :=
  ∀ pair ∈ n.facing m, KeepsDeclaration source source' nameField pair.1 pair.2

instance : Decidable (KeepsDeclarations source source' nameField n m) :=
  inferInstanceAs (Decidable (∀ pair ∈ n.facing m, _))

theorem nameText_eq_getD (n : SyntaxNode) (source : Bytes) (nameField : String) :
    n.nameText source nameField = (n.declaredName? source nameField).getD [] := by
  rw [declaredName?_eq]
  split
  · rename_i hname
    exact hname
  · rfl

theorem KeepsDeclaration.nameText_eq (h : KeepsDeclaration source source' nameField n m) :
    n.nameText source nameField = m.nameText source' nameField := by
  rw [nameText_eq_getD, nameText_eq_getD, h.name_eq]

theorem KeepsDeclaration.isOrdered_eq (h : KeepsDeclaration source source' nameField n m) :
    n.span.isOrdered = m.span.isOrdered := by
  have hbytes : n.span.startByte ≤ n.span.endByte ↔ m.span.startByte ≤ m.span.endByte := by
    have hreversed := h.reversed_iff
    omega
  simp only [Span.isOrdered, h.startRow_eq, h.endRow_eq, hbytes]

theorem KeepsDeclaration.isWellFormed_iff (h : KeepsDeclaration source source' nameField n m) :
    n.IsWellFormed source nameField ↔ m.IsWellFormed source' nameField := by
  rw [SyntaxNode.isWellFormed_iff, SyntaxNode.isWellFormed_iff, h.nameText_eq, h.isOrdered_eq,
    h.blank_eq]

end SyntaxNode

end SourceOutline
