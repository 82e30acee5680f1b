import SourceOutline.Proofs.Chunker.Agreement.Go
import SourceOutline.Proofs.Chunker.Agreement.Python

/-!
# Declared — where chunks come from

Chunkers differ in which nodes they look at and in the parents they give, but whatever they find
below the chunk of the file is the chunk of a well-formed node.
-/

namespace SourceOutline

namespace Plan

variable {p : Plan} {owner d : Chunk} {n : SyntaxNode}

theorem of_chunk?_declare_eq_some {level : Level} {parentId : String}
    (h : (p.declare n level parentId).chunk? = some d) :
    n.IsWellFormed p.file.content p.table.nameField ∧ d = p.chunkOf level parentId n := by
  rw [chunk?_declare] at h
  split at h
  · rename_i hwell
    exact ⟨hwell, (Option.some.inj h).symm⟩
  · cases h

/-- Every chunk that a walk finds is that of a well-formed node of the tree. -/
theorem exists_chunkOf_of_mem_chunksUnder (above : List SyntaxNode)
    (h : d ∈ p.chunksUnder owner n) :
    ∃ o ∈ n.occurrences above, ∃ level parentId,
      o.node.IsWellFormed p.file.content p.table.nameField ∧
        d = p.chunkOf level parentId o.node := by
  induction n generalizing owner above with
  | node n ih =>
      -- A chunk is found at the node itself or below one of its children.
      have hbelow : ∀ next, d ∈ n.children.flatMap (p.chunksUnder next) →
          ∃ o ∈ n.occurrences above, ∃ level parentId,
            o.node.IsWellFormed p.file.content p.table.nameField ∧
              d = p.chunkOf level parentId o.node := by
        intro next hmem
        rcases List.mem_flatMap.1 hmem with ⟨c, hc, hd⟩
        rcases ih c hc (n :: above) hd with ⟨o, ho, hchunk⟩
        exact ⟨o, SyntaxNode.mem_occurrences_of_child hc ho, hchunk⟩
      have hhere : ∀ level parentId, d ∈ (p.declare n level parentId).chunk?.toList →
          ∃ o ∈ n.occurrences above, ∃ level parentId,
            o.node.IsWellFormed p.file.content p.table.nameField ∧
              d = p.chunkOf level parentId o.node := by
        intro level parentId hmem
        exact ⟨⟨n, above⟩, n.mem_occurrences_self above, level, parentId,
          of_chunk?_declare_eq_some (Option.mem_toList.1 hmem)⟩
      rw [chunksUnder_eq] at h
      by_cases hclass : p.table.isClass n.type = true
      · rw [if_pos hclass] at h
        rcases List.mem_append.1 h with hown | hrest
        · exact hhere _ _ hown
        · exact hbelow _ hrest
      · rw [if_neg hclass] at h
        by_cases hmethod : p.table.isMethod n.type = true
        · rw [if_pos hmethod] at h
          exact hhere _ _ h
        · rw [if_neg hmethod] at h
          exact hbelow _ h

end Plan

namespace Reference

variable {file : SourceFile} {rootId : String} {n : SyntaxNode} {d : Chunk} {levels : Nat}
variable {found : List Chunk}

theorem exists_declared?_of_mem_goChunks_of_children
    (hchildren : ∀ c ∈ n.children, ∀ room here, goNode file rootId room c = .ok here → d ∈ here →
      ∃ m level, (level = .classLike ∨ level = .method) ∧
        go.declared? file m level rootId = some d)
    (h : goChunks file rootId levels n = .ok found) (hd : d ∈ found) :
    ∃ m level, (level = .classLike ∨ level = .method) ∧
      go.declared? file m level rootId = some d := by
  cases levels with
  | zero => cases h
  | succ room =>
      rw [goChunks_succ] at h
      rcases exists_of_mem_concatenate h hd with ⟨c, hc, here, hhere, hmem⟩
      exact hchildren c hc room here hhere hmem

theorem exists_declared?_of_mem_goNode (h : goNode file rootId levels n = .ok found)
    (hd : d ∈ found) :
    ∃ m level, (level = .classLike ∨ level = .method) ∧
      go.declared? file m level rootId = some d := by
  induction n generalizing levels found with
  | node n ih =>
      rw [goNode_eq] at h
      by_cases hfunction : IsGoFunction n.type
      · rw [if_pos hfunction] at h
        cases h
        exact ⟨n, .method, Or.inr rfl, Option.mem_toList.1 hd⟩
      · rw [if_neg hfunction] at h
        by_cases hdeclaration : n.type = "type_declaration"
        · rw [if_pos hdeclaration] at h
          cases h
          rcases List.mem_filterMap.1 hd with ⟨m, _, hm⟩
          by_cases hspec : m.type = "type_spec"
          · rw [if_pos hspec] at hm
            exact ⟨m, .classLike, Or.inl rfl, hm⟩
          · rw [if_neg hspec] at hm
            cases hm
        · rw [if_neg hdeclaration] at h
          exact exists_declared?_of_mem_goChunks_of_children
            (fun c hc _ _ hhere hmem => ih c hc hhere hmem) h hd

theorem exists_declared?_of_mem_goChunks (h : goChunks file rootId levels n = .ok found)
    (hd : d ∈ found) :
    ∃ m level, (level = .classLike ∨ level = .method) ∧
      go.declared? file m level rootId = some d :=
  exists_declared?_of_mem_goChunks_of_children
    (fun _ _ _ _ hhere hmem => exists_declared?_of_mem_goNode hhere hmem) h hd

/-- Every chunk that a chunker written for one language finds is that of a well-formed node. -/
theorem exists_chunkOf_of_mem_chunks {r : Reference}
    (h : r.chunks file (r.plan file).root.id levels n = .ok found) (hd : d ∈ found) :
    ∃ m level parentId, m.IsWellFormed file.content "name" ∧
      d = (r.plan file).chunkOf level parentId m := by
  cases r with
  | python =>
      -- The walk with the packaged table finds the same chunks below each child.
      let p : Plan := TableChunker.plan { table := .python } file
      have hfound := eq_flatMap_of_chunks_python (p := p) rfl h
      rw [hfound, List.mem_flatMap] at hd
      rcases hd with ⟨child, _, hmem⟩
      rcases Plan.exists_chunkOf_of_mem_chunksUnder [] hmem with ⟨o, _, hchunk⟩
      exact ⟨o.node, hchunk⟩
  | go =>
      rcases exists_declared?_of_mem_goChunks h hd with ⟨m, level, _, hdeclared⟩
      rw [declared?_eq_plan] at hdeclared
      exact ⟨m, level, _, Plan.of_chunk?_declare_eq_some hdeclared⟩

end Reference

end SourceOutline
