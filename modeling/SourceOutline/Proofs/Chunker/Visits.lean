import Mathlib.Algebra.Ring.Nat
import Mathlib.Data.List.Count
import SourceOutline.Proofs.Chunker.Events
import SourceOutline.Proofs.LanguageTable.Acceptance
import SourceOutline.Proofs.SyntaxTree.Occurrence

/-!
# Visits — the nodes that a full walk visits

A walk turns back at methods, so the nodes it visits are those above which there is no method.  This
module counts them, for a tree and for what is left on a work list.
-/

namespace SourceOutline

namespace LanguageTable

/-! ## Nodes -/

def Visits (t : LanguageTable) (o : Occurrence) : Prop :=
  ∀ a ∈ o.above, t.isMethod a.type = false

instance (t : LanguageTable) (o : Occurrence) : Decidable (t.Visits o) :=
  inferInstanceAs (Decidable (∀ a ∈ o.above, t.isMethod a.type = false))

/-- The number of nodes of a tree that a full walk visits. -/
def visitCount (t : LanguageTable) (tree : SyntaxNode) : Nat :=
  (tree.occurrences []).countP fun o => t.Visits o

variable {t : LanguageTable} {n : SyntaxNode} {above : List SyntaxNode}

theorem not_visits_of_method {a : SyntaxNode} {o : Occurrence} (ha : a ∈ above)
    (hmethod : t.isMethod a.type = true) (ho : o ∈ n.occurrences above) : ¬ t.Visits o := by
  intro hvisits
  have hfree := hvisits a (SyntaxNode.mem_above_of_mem_occurrences ho ha)
  rw [hmethod] at hfree
  cases hfree

/-- What is visited at a place that is visited does not depend on the place. -/
theorem countP_visits_of_free (hfree : ∀ a ∈ above, t.isMethod a.type = false) :
    (n.occurrences above).countP (fun o => t.Visits o) =
      if t.isMethod n.type then 1 else 1 + (n.children.map t.visitCount).sum := by
  induction n generalizing above with
  | node n ih =>
      have hhere : (fun o => decide (t.Visits o)) (⟨n, above⟩ : Occurrence) = true :=
        decide_eq_true hfree
      rw [SyntaxNode.occurrences_eq, List.countP_cons, if_pos hhere, Nat.add_comm]
      cases hmethod : t.isMethod n.type with
      | true =>
          have hnone : (n.children.flatMap (SyntaxNode.occurrences (n :: above))).countP
              (fun o => t.Visits o) = 0 := by
            rw [List.countP_eq_zero]
            intro o ho
            rcases List.mem_flatMap.1 ho with ⟨c, _, hmem⟩
            simpa using not_visits_of_method List.mem_cons_self hmethod hmem
          simp [hnone]
      | false =>
          have hchild : ∀ c ∈ n.children,
              (c.occurrences (n :: above)).countP (fun o => t.Visits o) = t.visitCount c := by
            intro c hc
            have hbelow : ∀ a ∈ n :: above, t.isMethod a.type = false := by
              intro a ha
              rcases List.mem_cons.1 ha with rfl | hmem
              · exact hmethod
              · exact hfree a hmem
            -- Both places are free of methods, so the hypothesis of the induction serves twice.
            rw [visitCount, ih c hc hbelow, ih c hc (by simp)]
          rw [List.countP_flatMap]
          simp only [Function.comp_def, List.map_congr_left hchild]
          simp

theorem visitCount_eq (t : LanguageTable) (n : SyntaxNode) :
    t.visitCount n =
      if t.isMethod n.type then 1 else 1 + (n.children.map t.visitCount).sum :=
  countP_visits_of_free (by simp)

end LanguageTable

/-! ## Work lists -/

def Frame.visitsLeft (t : LanguageTable) : Frame → Nat
  | visit n => t.visitCount n
  | leave _ => 0

def visitsLeft (t : LanguageTable) (work : List Frame) : Nat :=
  (work.map (Frame.visitsLeft t)).sum

@[simp] theorem visitsLeft_nil (t : LanguageTable) : visitsLeft t [] = 0 :=
  rfl

@[simp] theorem visitsLeft_cons (t : LanguageTable) (frame : Frame) (rest : List Frame) :
    visitsLeft t (frame :: rest) = frame.visitsLeft t + visitsLeft t rest := by
  rw [visitsLeft, visitsLeft, List.map_cons, List.sum_cons]

theorem visitsLeft_map_visit_append (t : LanguageTable) (ns : List SyntaxNode)
    (rest : List Frame) :
    visitsLeft t (ns.map .visit ++ rest) = (ns.map t.visitCount).sum + visitsLeft t rest := by
  have hmap : (ns.map Frame.visit).map (Frame.visitsLeft t) = ns.map t.visitCount := by
    rw [List.map_map]
    rfl
  rw [visitsLeft, List.map_append, List.sum_append, hmap, visitsLeft]

def Frame.visits : Frame → Nat
  | visit _ => 1
  | leave _ => 0

theorem Frame.visits_le (t : LanguageTable) (frame : Frame) :
    frame.visits ≤ frame.visitsLeft t := by
  cases frame with
  | leave n =>
      exact Nat.le_refl 0
  | visit n =>
      rw [visitsLeft, LanguageTable.visitCount_eq]
      split <;> simp [visits]

namespace Plan

theorem StepsTo.visitsLeft {p : Plan} {frame : Frame} {s t : WalkState}
    (htable : p.table.IsAccepted) (h : p.StepsTo s frame t) :
    frame.visits + visitsLeft p.table t.work =
      frame.visitsLeft p.table + visitsLeft p.table s.work := by
  cases h with
  | leave n inner outer hstack =>
      rfl
  | enter n c hclass hown =>
      -- An accepted table does not take a class for a method, so its children are visited.
      have hmethod := htable.isMethod_eq_false hclass
      simp [Frame.visits, Frame.visitsLeft, visitsLeft_map_visit_append,
        p.table.visitCount_eq n, hmethod, Nat.add_assoc]
  | skip n hclass hown =>
      have hmethod := htable.isMethod_eq_false hclass
      simp [Frame.visits, Frame.visitsLeft, visitsLeft_map_visit_append,
        p.table.visitCount_eq n, hmethod, Nat.add_assoc]
  | method n inner outer hclass hmethod hstack =>
      simp [Frame.visits, Frame.visitsLeft, p.table.visitCount_eq n, hmethod]
  | pass n hclass hmethod =>
      simp [Frame.visits, Frame.visitsLeft, visitsLeft_map_visit_append,
        p.table.visitCount_eq n, hmethod, Nat.add_assoc]

end Plan

end SourceOutline
