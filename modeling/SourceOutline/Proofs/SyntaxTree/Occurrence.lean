import Mathlib.Data.List.Flatten
import SourceOutline.SyntaxTree

/-!
# Occurrence — the nodes of a tree with what lies above them

Two nodes of a tree may be equal as values, so a statement on ancestors is a statement on
occurrences: a node together with its strict ancestors, the nearest first.
-/

namespace SourceOutline

/-- A node of a tree and its strict ancestors, the nearest first. -/
structure Occurrence where
  node : SyntaxNode
  above : List SyntaxNode

namespace SyntaxNode

/-! ## Induction -/

@[induction_eliminator]
theorem inductionOn {motive : SyntaxNode → Prop}
    (node : ∀ n : SyntaxNode, (∀ c ∈ n.children, motive c) → motive n) (n : SyntaxNode) :
    motive n :=
  @SyntaxNode.rec motive (fun ns => ∀ c ∈ ns, motive c)
    (fun type span field children ih => node (.node type span field children) ih)
    (fun _ h => nomatch h)
    (fun n rest hn hrest c hc => by
      rcases List.mem_cons.1 hc with rfl | hmem
      · exact hn
      · exact hrest c hmem)
    n

/-! ## Pre-order -/

mutual

/-- The node and those below it in pre-order, when `above` lies above the node. -/
def occurrences (above : List SyntaxNode) : SyntaxNode → List Occurrence
  | .node type span field children =>
    let here := SyntaxNode.node type span field children
    ⟨here, above⟩ :: occurrencesAll (here :: above) children

def occurrencesAll (above : List SyntaxNode) : List SyntaxNode → List Occurrence
  | [] => []
  | n :: rest => n.occurrences above ++ occurrencesAll above rest

end

theorem occurrencesAll_eq_flatMap (above : List SyntaxNode) (ns : List SyntaxNode) :
    occurrencesAll above ns = ns.flatMap (occurrences above) := by
  induction ns with
  | nil =>
      rw [occurrencesAll, List.flatMap_nil]
  | cons n rest ih =>
      rw [occurrencesAll, ih, List.flatMap_cons]

theorem occurrences_eq (above : List SyntaxNode) (n : SyntaxNode) :
    n.occurrences above = ⟨n, above⟩ :: n.children.flatMap (occurrences (n :: above)) := by
  cases n with
  | node type span field children =>
      rw [occurrences, occurrencesAll_eq_flatMap, SyntaxNode.children]

theorem mem_occurrences_self (n : SyntaxNode) (above : List SyntaxNode) :
    ⟨n, above⟩ ∈ n.occurrences above := by
  rw [occurrences_eq]
  exact List.mem_cons_self

theorem mem_occurrences_of_child {n c : SyntaxNode} {above : List SyntaxNode} {o : Occurrence}
    (hc : c ∈ n.children) (h : o ∈ c.occurrences (n :: above)) : o ∈ n.occurrences above := by
  rw [occurrences_eq]
  exact List.mem_cons_of_mem _ (List.mem_flatMap.2 ⟨c, hc, h⟩)

theorem above_of_mem_occurrences {n : SyntaxNode} {above : List SyntaxNode} {o : Occurrence}
    (h : o ∈ n.occurrences above) :
    ∃ inner, o.above = inner ++ above ∧ (inner = [] → o.node = n) := by
  induction n generalizing above with
  | node n ih =>
      rw [occurrences_eq] at h
      rcases List.mem_cons.1 h with rfl | hbelow
      · exact ⟨[], rfl, fun _ => rfl⟩
      · rcases List.mem_flatMap.1 hbelow with ⟨c, hc, hmem⟩
        rcases ih c hc hmem with ⟨inner, habove, _⟩
        refine ⟨inner ++ [n], ?_, ?_⟩
        · rw [habove, List.append_assoc, List.singleton_append]
        · intro hnil
          simp at hnil

theorem mem_above_of_mem_occurrences {n a : SyntaxNode} {above : List SyntaxNode} {o : Occurrence}
    (h : o ∈ n.occurrences above) (ha : a ∈ above) : a ∈ o.above := by
  rcases above_of_mem_occurrences h with ⟨inner, habove, _⟩
  rw [habove]
  exact List.mem_append_right inner ha

end SyntaxNode

end SourceOutline
