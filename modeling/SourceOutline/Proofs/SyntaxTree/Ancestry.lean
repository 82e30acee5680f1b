import Mathlib.Data.List.Infix
import SourceOutline.Proofs.SyntaxTree.Occurrence

/-!
# Ancestry — the nodes above a node, and their rows

A node comes after all nodes that lie above it.  If rows are nested from each node to its children,
they are nested along the whole path from a node to the top.  A place whose rows are reversed has no
rows, and lies within any others.
-/

namespace SourceOutline

namespace Occurrence

/-- The first node lies strictly above the second. -/
def IsAbove (a b : Occurrence) : Prop :=
  (a.node :: a.above) <:+ b.above

variable {a b : Occurrence} {n : SyntaxNode} {above : List SyntaxNode}

theorem not_suffix_of_suffix (h : above <:+ a.above) : ¬ (a.node :: a.above) <:+ above := by
  intro hsuffix
  have hlong := hsuffix.length_le
  have hshort := h.length_le
  rw [List.length_cons] at hlong
  omega

theorem IsAbove.eq_or_isAbove {c : Occurrence} (ha : a.IsAbove c) (hb : b.IsAbove c) :
    a = b ∨ a.IsAbove b ∨ b.IsAbove a := by
  have hsame : a.node :: a.above = b.node :: b.above → a = b := by
    intro heq
    cases a
    cases b
    cases heq
    rfl
  rcases List.suffix_or_suffix_of_suffix ha hb with hab | hba
  · rcases List.suffix_cons_iff.1 hab with heq | hinside
    · exact .inl (hsame heq)
    · exact .inr (.inl hinside)
  · rcases List.suffix_cons_iff.1 hba with heq | hinside
    · exact .inl (hsame heq.symm)
    · exact .inr (.inr hinside)

end Occurrence

namespace SyntaxNode

/-! ## Pre-order -/

/-- What stands at a place of lists one after the other stands at a place of one of them, and what
is before it there is before it in all. -/
theorem exists_eq_append_of_flatMap {α β : Type} {f : α → List β} {xs : List α} {pre post : List β}
    {b : β} (h : xs.flatMap f = pre ++ b :: post) :
    ∃ x ∈ xs, ∃ pre' post', f x = pre' ++ b :: post' ∧ pre' ⊆ pre := by
  induction xs generalizing pre with
  | nil => simp at h
  | cons x xs ih =>
      rw [List.flatMap_cons] at h
      rcases List.append_eq_append_iff.1 h with ⟨later, hpre, hrest⟩ | ⟨later, hx, hrest⟩
      · rcases ih hrest with ⟨y, hy, pre', post', heq, hsub⟩
        refine ⟨y, List.mem_cons_of_mem x hy, pre', post', heq, ?_⟩
        rw [hpre]
        exact List.Subset.trans hsub (List.subset_append_right _ _)
      · cases later with
        | nil =>
            -- The place is the first of the lists after `f x`.
            have hfirst : xs.flatMap f = [] ++ b :: post := hrest.symm
            rcases ih hfirst with ⟨y, hy, pre', post', heq, hsub⟩
            exact ⟨y, List.mem_cons_of_mem x hy, pre', post', heq,
              List.Subset.trans hsub (List.nil_subset pre)⟩
        | cons d later =>
            have hd : b = d := (List.cons.inj hrest).1
            subst hd
            exact ⟨x, List.mem_cons_self, pre, later, hx, List.Subset.refl pre⟩

variable {n : SyntaxNode} {above : List SyntaxNode} {a b o : Occurrence}

/-- A node that lies above another one, and not above the whole tree, comes before it. -/
theorem mem_of_occurrences_eq_append {pre post : List Occurrence}
    (h : n.occurrences above = pre ++ b :: post) (hab : a.IsAbove b) (ha : above <:+ a.above) :
    a ∈ pre := by
  induction n generalizing above pre post with
  | node n ih =>
      rw [occurrences_eq] at h
      cases pre with
      | nil =>
          have hb : ⟨n, above⟩ = b := (List.cons.inj h).1
          subst hb
          exact absurd hab (Occurrence.not_suffix_of_suffix ha)
      | cons first pre =>
          have hfirst : ⟨n, above⟩ = first := (List.cons.inj h).1
          rcases exists_eq_append_of_flatMap (List.cons.inj h).2 with
            ⟨c, hc, pre', post', hchild, hsub⟩
          have hmem : b ∈ c.occurrences (n :: above) := by
            rw [hchild]
            exact List.mem_append_right pre' List.mem_cons_self
          rcases above_of_mem_occurrences hmem with ⟨inner, habove, _⟩
          have htop : Occurrence.IsAbove ⟨n, above⟩ b := ⟨inner, habove.symm⟩
          -- The node is the top of this tree or lies below it, since it does not lie above it.
          rcases hab.eq_or_isAbove htop with hself | habove | hbelow
          · rw [hself, hfirst]
            exact List.mem_cons_self
          · exact absurd habove (Occurrence.not_suffix_of_suffix ha)
          · exact List.mem_cons_of_mem first (hsub (ih c hc hchild hbelow))

end SyntaxNode

/-! ## Rows -/

namespace Span

/-- The rows of a place lie between two rows, if it has any. -/
def RowsWithin (s : Span) (first last : Int) : Prop :=
  s.startRow ≤ s.endRow → first ≤ s.startRow ∧ s.endRow ≤ last

instance (s : Span) (first last : Int) : Decidable (s.RowsWithin first last) :=
  inferInstanceAs (Decidable (_ → _))

theorem RowsWithin.trans {s t : Span} {first last : Int} (h : s.RowsWithin t.startRow t.endRow)
    (h' : t.RowsWithin first last) : s.RowsWithin first last := by
  intro hrows
  have hst := h hrows
  have htu := h' (by omega)
  omega

end Span

namespace SyntaxNode

/-- The rows of each child lie within those of its parent. -/
def HasNestedRows (tree : SyntaxNode) : Prop :=
  ∀ o ∈ tree.occurrences [], ∀ c ∈ o.node.children,
    c.span.RowsWithin o.node.span.startRow o.node.span.endRow

instance (tree : SyntaxNode) : Decidable tree.HasNestedRows :=
  inferInstanceAs (Decidable (∀ o ∈ tree.occurrences [], ∀ c ∈ o.node.children, _))

variable {n : SyntaxNode} {above : List SyntaxNode} {o : Occurrence}

/-- On the way from a node to the top, the rows of each node lie within those of all that come
later. -/
theorem pairwise_rowsWithin
    (h : ∀ o ∈ n.occurrences above, ∀ c ∈ o.node.children,
      c.span.RowsWithin o.node.span.startRow o.node.span.endRow)
    (hpath : (n :: above).Pairwise fun c a => c.span.RowsWithin a.span.startRow a.span.endRow)
    (ho : o ∈ n.occurrences above) :
    (o.node :: o.above).Pairwise fun c a => c.span.RowsWithin a.span.startRow a.span.endRow := by
  induction n generalizing above with
  | node n ih =>
      rw [occurrences_eq] at ho
      rcases List.mem_cons.1 ho with rfl | hbelow
      · exact hpath
      · rcases List.mem_flatMap.1 hbelow with ⟨c, hc, hmem⟩
        have hchild := h _ (mem_occurrences_self n above) c hc
        refine ih c hc (fun o ho => h o (mem_occurrences_of_child hc ho)) ?_ hmem
        refine List.pairwise_cons.2 ⟨?_, hpath⟩
        intro a ha
        rcases List.mem_cons.1 ha with rfl | habove
        · exact hchild
        · exact hchild.trans ((List.pairwise_cons.1 hpath).1 a habove)

theorem rowsWithin_of_mem_occurrences {first last : Int}
    (h : ∀ o ∈ n.occurrences above, ∀ c ∈ o.node.children,
      c.span.RowsWithin o.node.span.startRow o.node.span.endRow)
    (hn : n.span.RowsWithin first last) (ho : o ∈ n.occurrences above) :
    o.node.span.RowsWithin first last := by
  induction n generalizing above with
  | node n ih =>
      rw [occurrences_eq] at ho
      rcases List.mem_cons.1 ho with rfl | hbelow
      · exact hn
      · rcases List.mem_flatMap.1 hbelow with ⟨c, hc, hmem⟩
        have hchild := h _ (mem_occurrences_self n above) c hc
        exact ih c hc (fun o ho => h o (mem_occurrences_of_child hc ho)) (hchild.trans hn) hmem

end SyntaxNode

end SourceOutline
