import Mathlib.Data.List.Flatten
import Mathlib.Data.List.Pairwise
import SourceOutline.Proofs.SyntaxTree.Occurrence

/-!
# Layout — trees whose places are those of a source

A tree in general promises nothing about places.  In a tree that is laid out over a source, rows are
counted from the bytes, children are not empty, lie inside their parent without filling it, and have
no byte in common.
-/

namespace SourceOutline

/-! ## Places -/

/-- How many rows lie before a position. -/
def newlinesBefore (source : Bytes) (position : Nat) : Nat :=
  (source.take position).count 10

theorem newlinesBefore_mono (source : Bytes) {k l : Nat} (h : k ≤ l) :
    newlinesBefore source k ≤ newlinesBefore source l := by
  have hsublist : (source.take k).Sublist (source.take l) :=
    (List.take_prefix_take_left h).sublist
  exact hsublist.count_le 10

namespace Span

/-- All bytes of the second are bytes of the first. -/
def Contains (s t : Span) : Prop :=
  s.startByte ≤ t.startByte ∧ t.endByte ≤ s.endByte

def SameBytes (s t : Span) : Prop :=
  s.startByte = t.startByte ∧ s.endByte = t.endByte

/-- No byte is in both. -/
def Disjoint (s t : Span) : Prop :=
  min s.endByte t.endByte ≤ max s.startByte t.startByte

/-- The first ends before the second starts. -/
def Precedes (s t : Span) : Prop :=
  s.endByte ≤ t.startByte

instance (s t : Span) : Decidable (s.Contains t) := inferInstanceAs (Decidable (_ ∧ _))

instance (s t : Span) : Decidable (s.SameBytes t) := inferInstanceAs (Decidable (_ ∧ _))

instance (s t : Span) : Decidable (s.Disjoint t) := inferInstanceAs (Decidable (_ ≤ _))

variable {s t u v : Span}

theorem Contains.trans (h : s.Contains t) (h' : t.Contains u) : s.Contains u :=
  ⟨Nat.le_trans h.1 h'.1, Nat.le_trans h'.2 h.2⟩

theorem Disjoint.precedes (h : s.Disjoint t) (hs : s.startByte < s.endByte)
    (ht : t.startByte < t.endByte) : s.Precedes t ∨ t.Precedes s := by
  -- An empty place could lie inside of another one and still have no byte in common with it.
  unfold Disjoint at h
  unfold Precedes
  omega

theorem Precedes.mono (h : s.Precedes t) (hs : s.Contains u) (ht : t.Contains v) :
    u.Precedes v :=
  Nat.le_trans (Nat.le_trans hs.2 h) ht.1

end Span

namespace SyntaxNode

/-! ## Trees -/

/-- The rows of a node are counted from its bytes.  Its children are not empty, lie inside it and do
not fill it, and no two of them have a byte in common. -/
structure IsPlaced (n : SyntaxNode) (source : Bytes) : Prop where
  startRow_eq : n.span.startRow = newlinesBefore source n.span.startByte
  endRow_eq : n.span.endRow = newlinesBefore source n.span.endByte
  nonempty : ∀ c ∈ n.children, c.span.startByte < c.span.endByte
  contains : ∀ c ∈ n.children, n.span.Contains c.span
  not_same : ∀ c ∈ n.children, ¬ n.span.SameBytes c.span
  disjoint : n.children.Pairwise fun c d => c.span.Disjoint d.span

variable {n : SyntaxNode} {source : Bytes} {above : List SyntaxNode} {o : Occurrence}

theorem isPlaced_iff :
    n.IsPlaced source ↔
      n.span.startRow = newlinesBefore source n.span.startByte ∧
        n.span.endRow = newlinesBefore source n.span.endByte ∧
        (∀ c ∈ n.children, c.span.startByte < c.span.endByte ∧ n.span.Contains c.span ∧
          ¬ n.span.SameBytes c.span) ∧
        n.children.Pairwise fun c d => c.span.Disjoint d.span := by
  constructor
  · intro h
    exact ⟨h.startRow_eq, h.endRow_eq,
      fun c hc => ⟨h.nonempty c hc, h.contains c hc, h.not_same c hc⟩, h.disjoint⟩
  · rintro ⟨hstart, hend, hchildren, hdisjoint⟩
    exact ⟨hstart, hend, fun c hc => (hchildren c hc).1, fun c hc => (hchildren c hc).2.1,
      fun c hc => (hchildren c hc).2.2, hdisjoint⟩

instance : Decidable (n.IsPlaced source) :=
  decidable_of_iff _ isPlaced_iff.symm

theorem IsPlaced.endRow_le_of_precedes {m : SyntaxNode} (hn : n.IsPlaced source)
    (hm : m.IsPlaced source) (h : n.span.Precedes m.span) : n.span.endRow ≤ m.span.startRow := by
  rw [hn.endRow_eq, hm.startRow_eq]
  exact Int.ofNat_le.2 (newlinesBefore_mono source h)

/-- Every node of a tree is placed in the source. -/
def IsLaidOut (tree : SyntaxNode) (source : Bytes) : Prop :=
  ∀ o ∈ tree.occurrences [], o.node.IsPlaced source

instance (tree : SyntaxNode) : Decidable (tree.IsLaidOut source) :=
  inferInstanceAs (Decidable (∀ o ∈ tree.occurrences [], _))

theorem contains_of_mem_occurrences (h : ∀ o ∈ n.occurrences above, o.node.IsPlaced source)
    (ho : o ∈ n.occurrences above) : n.span.Contains o.node.span := by
  induction n generalizing above with
  | node n ih =>
      have hn := h _ (mem_occurrences_self n above)
      rw [occurrences_eq] at ho
      rcases List.mem_cons.1 ho with rfl | hbelow
      · exact ⟨Nat.le_refl _, Nat.le_refl _⟩
      · rcases List.mem_flatMap.1 hbelow with ⟨c, hc, hmem⟩
        have hplaced : ∀ o ∈ c.occurrences (n :: above), o.node.IsPlaced source :=
          fun o ho => h o (mem_occurrences_of_child hc ho)
        exact (hn.contains c hc).trans (ih c hc hplaced hmem)

end SyntaxNode

/-- The first node lies above the second, and the second lies inside it without filling it. -/
structure Occurrence.Encloses (a b : Occurrence) : Prop where
  above : (a.node :: a.above) <:+ b.above
  contains : a.node.span.Contains b.node.span
  not_same : ¬ a.node.span.SameBytes b.node.span

namespace SyntaxNode

variable {n : SyntaxNode} {source : Bytes} {above : List SyntaxNode} {o : Occurrence}

theorem encloses_of_mem_occurrences_child
    (h : ∀ o ∈ n.occurrences above, o.node.IsPlaced source) {c : SyntaxNode} (hc : c ∈ n.children)
    (ho : o ∈ c.occurrences (n :: above)) : Occurrence.Encloses ⟨n, above⟩ o := by
  have hn := h _ (mem_occurrences_self n above)
  have hplaced : ∀ o ∈ c.occurrences (n :: above), o.node.IsPlaced source :=
    fun o ho => h o (mem_occurrences_of_child hc ho)
  have hchild := hn.contains c hc
  have hbelow := contains_of_mem_occurrences hplaced ho
  rcases above_of_mem_occurrences ho with ⟨inner, habove, _⟩
  refine ⟨⟨inner, habove.symm⟩, hchild.trans hbelow, ?_⟩
  -- Otherwise the child between the two would fill the node.
  rintro ⟨hstart, hend⟩
  refine hn.not_same c hc ⟨?_, ?_⟩
  · exact Nat.le_antisymm hchild.1 (Nat.le_trans hbelow.1 (Nat.le_of_eq hstart.symm))
  · exact Nat.le_antisymm (Nat.le_trans (Nat.le_of_eq hend) hbelow.2) hchild.2

/-- Of two nodes of a tree that is laid out, the first in pre-order encloses the second, or one of
them ends before the other starts. -/
theorem pairwise_occurrences (h : ∀ o ∈ n.occurrences above, o.node.IsPlaced source) :
    (n.occurrences above).Pairwise fun a b =>
      a.Encloses b ∨ a.node.span.Precedes b.node.span ∨ b.node.span.Precedes a.node.span := by
  induction n generalizing above with
  | node n ih =>
      have hn := h _ (mem_occurrences_self n above)
      have hplaced : ∀ c ∈ n.children, ∀ o ∈ c.occurrences (n :: above),
          o.node.IsPlaced source :=
        fun c hc o ho => h o (mem_occurrences_of_child hc ho)
      rw [occurrences_eq, List.pairwise_cons, List.pairwise_flatMap]
      refine ⟨?_, fun c hc => ih c hc (hplaced c hc), ?_⟩
      · -- The node comes first and encloses all the others.
        intro o ho
        rcases List.mem_flatMap.1 ho with ⟨c, hc, hmem⟩
        exact .inl (encloses_of_mem_occurrences_child h hc hmem)
      · -- What is below two children is as far apart as they are.
        refine hn.disjoint.imp_of_mem ?_
        intro c d hc hd hdisjoint a ha b hb
        have hina := contains_of_mem_occurrences (hplaced c hc) ha
        have hinb := contains_of_mem_occurrences (hplaced d hd) hb
        rcases hdisjoint.precedes (hn.nonempty c hc) (hn.nonempty d hd) with hlt | hgt
        · exact .inr (.inl (hlt.mono hina hinb))
        · exact .inr (.inr (hgt.mono hinb hina))

end SyntaxNode

end SourceOutline
