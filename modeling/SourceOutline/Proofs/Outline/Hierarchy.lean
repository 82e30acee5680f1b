import SourceOutline.Proofs.Chunker.Declared

/-!
# Hierarchy — the parents of chunks

Chunkers put the chunk of the file first, then classes that belong to the file, and methods that
belong to the file or to a class that came before.  The walk keeps this up to every place of the
list, so a finished outline is a tree of two levels.

* `Outline.isTwoLevel_of_outcome` — the levels and parents in what a chunker gives.
-/

namespace SourceOutline

/-! ## Links -/

/-- A chunk may own methods if it stands for the file or for a class that came before. -/
def Chunk.Owns (owner root : Chunk) (before : List Chunk) : Prop :=
  owner = root ∨ (owner ∈ before ∧ owner.level = .classLike)

/-- A chunk that may come next: a class of the file, or a method of an owner. -/
def Chunk.Follows (c root : Chunk) (before : List Chunk) : Prop :=
  (c.level = .classLike ∧ c.parentId = some root.id) ∨
    (c.level = .method ∧ ∃ owner, Chunk.Owns owner root before ∧ c.parentId = some owner.id)

/-- Chunks of which each may follow those before it. -/
def Linked (root : Chunk) (before : List Chunk) : List Chunk → Prop
  | [] => True
  | c :: rest => c.Follows root before ∧ Linked root (before ++ [c]) rest

section Links

variable {root owner c : Chunk} {before before' xs ys : List Chunk}

theorem Chunk.Owns.mono (h : owner.Owns root before) (hsub : before ⊆ before') :
    owner.Owns root before' := by
  rcases h with hroot | ⟨hmem, hlevel⟩
  · exact Or.inl hroot
  · exact Or.inr ⟨hsub hmem, hlevel⟩

theorem Chunk.Follows.mono (h : c.Follows root before) (hsub : before ⊆ before') :
    c.Follows root before' := by
  rcases h with hclass | ⟨hlevel, owner, howns, hparent⟩
  · exact Or.inl hclass
  · exact Or.inr ⟨hlevel, owner, howns.mono hsub, hparent⟩

theorem Linked.mono (h : Linked root before xs) (hsub : before ⊆ before') :
    Linked root before' xs := by
  induction xs generalizing before before' with
  | nil => trivial
  | cons c rest ih =>
      have hstep : before ++ [c] ⊆ before' ++ [c] := by
        intro d hd
        rcases List.mem_append.1 hd with hold | hnew
        · exact List.mem_append_left _ (hsub hold)
        · exact List.mem_append_right _ hnew
      exact ⟨h.1.mono hsub, ih h.2 hstep⟩

theorem Linked.append (hxs : Linked root before xs) (hys : Linked root before ys) :
    Linked root before (xs ++ ys) := by
  induction xs generalizing before with
  | nil => exact hys
  | cons c rest ih =>
      exact ⟨hxs.1, ih hxs.2 (hys.mono (List.subset_append_left _ _))⟩

theorem Linked.flatMap {α : Type} {items : List α} {f : α → List Chunk}
    (h : ∀ a ∈ items, Linked root before (f a)) : Linked root before (items.flatMap f) := by
  induction items with
  | nil => trivial
  | cons a rest ih =>
      rw [List.flatMap_cons]
      refine Linked.append (h a List.mem_cons_self) (ih ?_)
      intro b hb
      exact h b (List.mem_cons_of_mem _ hb)

theorem Linked.of_forall (h : ∀ c ∈ xs, c.Follows root before) : Linked root before xs := by
  induction xs generalizing before with
  | nil => trivial
  | cons c rest ih =>
      refine ⟨h c List.mem_cons_self, ih ?_⟩
      intro d hd
      exact (h d (List.mem_cons_of_mem _ hd)).mono (List.subset_append_left _ _)

theorem Linked.follows_of_getElem? (h : Linked root before xs) {i : Nat}
    (hc : xs[i]? = some c) : c.Follows root (before ++ xs.take i) := by
  induction xs generalizing before i with
  | nil => simp at hc
  | cons d rest ih =>
      cases i with
      | zero =>
          cases hc
          simpa using h.1
      | succ i =>
          have hrest := ih h.2 (by simpa using hc)
          simpa using hrest

end Links

/-! ## Walks -/

namespace Plan

variable {p : Plan}

theorem level_and_parent_of_declare {n : SyntaxNode} {level : Level} {parentId : String} {c : Chunk}
    (h : (p.declare n level parentId).chunk? = some c) :
    c.level = level ∧ c.parentId = some parentId := by
  rcases of_chunk?_declare_eq_some h with ⟨_, rfl⟩
  exact ⟨rfl, rfl⟩

theorem linked_chunksUnder {owner : Chunk} {before : List Chunk}
    (howner : owner.Owns p.root before) (n : SyntaxNode) :
    Linked p.root before (p.chunksUnder owner n) := by
  induction n generalizing owner before with
  | node n ih =>
      have hbelow : ∀ next before', next.Owns p.root before' →
          Linked p.root before' (n.children.flatMap (p.chunksUnder next)) := by
        intro next before' hnext
        exact Linked.flatMap fun c hc => ih c hc hnext
      rw [chunksUnder_eq]
      by_cases hclass : p.table.isClass n.type = true
      · simp only [hclass, if_true]
        cases hown : (p.declare n .classLike p.root.id).chunk? with
        | none => exact hbelow owner before howner
        | some c =>
            -- The class comes first, so it may own the methods below it.
            rcases level_and_parent_of_declare hown with ⟨hlevel, hparent⟩
            exact ⟨Or.inl ⟨hlevel, hparent⟩, hbelow c _ (Or.inr ⟨by simp, hlevel⟩)⟩
      · by_cases hmethod : p.table.isMethod n.type = true
        · refine Linked.of_forall ?_
          intro c hc
          have hown : (p.declare n .method owner.id).chunk? = some c := by
            simpa only [hclass, hmethod, if_true, if_false, Bool.false_eq_true,
              Option.mem_toList] using hc
          rcases level_and_parent_of_declare hown with ⟨hlevel, hparent⟩
          exact Or.inr ⟨hlevel, owner, howner, hparent⟩
        · simp only [hclass, hmethod]
          exact hbelow owner before howner

end Plan

/-! ## Chunkers written for one language -/

namespace Reference

theorem level_and_parent_of_declared? {r : Reference} {file : SourceFile} {n : SyntaxNode}
    {level : Level} {parentId : String} {c : Chunk}
    (h : r.declared? file n level parentId = some c) :
    c.level = level ∧ c.parentId = some parentId := by
  rw [declared?_eq_plan] at h
  exact Plan.level_and_parent_of_declare h

theorem linked_chunks {r : Reference} {file : SourceFile} {levels : Nat} {tree : SyntaxNode}
    {found : List Chunk}
    (h : r.chunks file (Chunk.ofFile file r.language).id levels tree = .ok found) :
    Linked (Chunk.ofFile file r.language) [] found := by
  cases r with
  | python =>
      let p : Plan := TableChunker.plan { table := .python } file
      rw [eq_flatMap_of_chunks_python (p := p) rfl h]
      exact Linked.flatMap fun n _ => Plan.linked_chunksUnder (p := p) (Or.inl rfl) n
  | go =>
      -- Classes and methods alike belong to the file.
      refine Linked.of_forall fun c hc => ?_
      rcases exists_declared?_of_mem_goChunks h hc with ⟨m, level, hkind, hdeclared⟩
      rcases level_and_parent_of_declared? hdeclared with ⟨hlevel, hparent⟩
      rcases hkind with rfl | rfl
      · exact Or.inl ⟨hlevel, hparent⟩
      · exact Or.inr ⟨hlevel, _, Or.inl rfl, hparent⟩

end Reference

/-! ## Outlines -/

namespace Outline

/-- An outline of two levels starts with the chunk of the file, which has no parent.  Every later
chunk is a class or a method and belongs to an earlier chunk: a class to the first one, a method to
the first one or to a class. -/
structure IsTwoLevel (o : Outline) : Prop where
  first : ∃ root, o.chunks[0]? = some root ∧ root.level = .file ∧ root.parentId = none
  later : ∀ i c, 0 < i → o.chunks[i]? = some c →
    ∃ j d, j < i ∧ o.chunks[j]? = some d ∧ c.parentId = some d.id ∧
      ((c.level = .classLike ∧ j = 0) ∨ (c.level = .method ∧ (j = 0 ∨ d.level = .classLike)))

variable {o : Outline}

theorem isTwoLevel_of_linked (file : SourceFile) (language : String) {rest : List Chunk}
    (hchunks : o.chunks = Chunk.ofFile file language :: rest)
    (hlinked : Linked (Chunk.ofFile file language) [] rest) : o.IsTwoLevel := by
  refine ⟨⟨_, by rw [hchunks]; rfl, rfl, rfl⟩, ?_⟩
  intro i c hi hc
  rw [hchunks] at hc ⊢
  cases i with
  | zero => cases hi
  | succ i =>
      have hfollows := hlinked.follows_of_getElem? (by simpa using hc)
      rcases hfollows with ⟨hlevel, hparent⟩ | ⟨hlevel, owner, howns, hparent⟩
      · exact ⟨0, _, hi, rfl, hparent, Or.inl ⟨hlevel, rfl⟩⟩
      · -- The owner of a method is the first chunk or lies at a place before the method.
        rcases howns with hroot | ⟨hmem, hclass⟩
        · rw [hroot] at hparent
          exact ⟨0, _, hi, rfl, hparent, Or.inr ⟨hlevel, Or.inl rfl⟩⟩
        · rcases List.mem_take_iff_getElem.1 (by simpa using hmem) with ⟨j, hj, howner⟩
          have hget : rest[j]? = some owner := by
            rw [List.getElem?_eq_some_iff]
            exact ⟨by omega, howner⟩
          exact ⟨j + 1, owner, by omega, by simpa using hget, hparent,
            Or.inr ⟨hlevel, Or.inr hclass⟩⟩

namespace IsTwoLevel

theorem isFile_eq_false (h : o.IsTwoLevel) {i : Nat} {c : Chunk} (hi : 0 < i)
    (hc : o.chunks[i]? = some c) : c.isFile = false := by
  rcases h.later i c hi hc with ⟨_, _, _, _, _, ⟨hlevel, _⟩ | ⟨hlevel, _⟩⟩
  · simp [Chunk.isFile, hlevel]
  · simp [Chunk.isFile, hlevel]

theorem exists_filter_isFile_eq (h : o.IsTwoLevel) :
    ∃ root, o.chunks.filter Chunk.isFile = [root] ∧ root.parentId = none := by
  rcases h.first with ⟨root, hroot, hlevel, hparent⟩
  rcases List.getElem?_eq_some_iff.1 hroot with ⟨hlength, hget⟩
  have hsplit : o.chunks = root :: o.chunks.tail := by
    rw [← hget, List.getElem_zero_eq_head, List.cons_head_tail]
  refine ⟨root, ?_, hparent⟩
  -- Every chunk after the first is a class or a method.
  rw [hsplit, List.filter_cons_of_pos (by simp [Chunk.isFile, hlevel]),
    List.filter_eq_nil_iff.2]
  intro c hc
  rcases List.mem_iff_getElem?.1 hc with ⟨i, hi⟩
  rw [List.getElem?_tail] at hi
  simp [h.isFile_eq_false (Nat.succ_pos i) hi]

theorem filterMap_parentProblem?_eq_nil (h : o.IsTwoLevel) :
    o.chunks.filterMap (parentProblem? (o.chunks.map Chunk.id)) = [] := by
  rw [List.filterMap_eq_nil_iff]
  intro c hc
  rcases List.mem_iff_getElem?.1 hc with ⟨i, hi⟩
  cases i with
  | zero =>
      rcases h.first with ⟨root, hroot, hlevel, _⟩
      rw [hroot] at hi
      cases hi
      simp [parentProblem?, Chunk.isFile, hlevel]
  | succ i =>
      rcases h.later (i + 1) c (Nat.succ_pos i) hi with ⟨j, d, _, hd, hparent, _⟩
      have hmem : d.id ∈ o.chunks.map Chunk.id :=
        List.mem_map_of_mem (List.mem_of_getElem? hd)
      simp [parentProblem?, hparent, hmem]

theorem problems_eq_nil (h : o.IsTwoLevel) : o.problems = [] := by
  rcases h.exists_filter_isFile_eq with ⟨root, hroots, hparent⟩
  unfold problems
  simp only [hroots, h.filterMap_parentProblem?_eq_nil]
  simp [hparent]

end IsTwoLevel

end Outline

/-! ## Chunkers -/

section Outcomes

variable {tools : Toolchain} {file : SourceFile} {poll : Option Poll} {s : Session} {o : Outline}

theorem TableChunker.isTwoLevel_outline (c : TableChunker) (file : SourceFile)
    (tree : SyntaxNode) : (c.outline file tree).IsTwoLevel :=
  Outline.isTwoLevel_of_linked file c.language rfl
    (Plan.linked_chunksUnder (p := c.plan file) (Or.inl rfl) tree)

theorem Reference.isTwoLevel_outline {r : Reference} {levels : Nat} {tree : SyntaxNode}
    (h : r.outline levels file tree = .ok o) : o.IsTwoLevel := by
  rcases Reference.exists_chunks_of_outline h with ⟨found, hfound, rfl⟩
  exact Outline.isTwoLevel_of_linked file r.language rfl (Reference.linked_chunks hfound)

theorem Chunker.eq_nil_or_isTwoLevel {chunker : Chunker}
    (h : ((chunker.chunk tools file poll).outcome s).1 = .ok o) :
    o.chunks = [] ∨ o.IsTwoLevel := by
  cases gives_of_outcome h with
  | empty _ _ _ => exact Or.inl rfl
  | table c tree => exact Or.inr (c.isTwoLevel_outline file tree)
  | reference r levels tree o houtline => exact Or.inr (Reference.isTwoLevel_outline houtline)
  | fallback language => exact Or.inr (Outline.isTwoLevel_of_linked file language rfl trivial)

theorem Outline.eq_nil_or_isTwoLevel
    (h : (∃ chunker : Chunker, ((chunker.chunk tools file poll).outcome s).1 = .ok o) ∨
      ∃ registry : Registry, ((registry.chunk tools file poll).outcome s).1 = .ok o) :
    o.chunks = [] ∨ o.IsTwoLevel := by
  rcases h with ⟨chunker, hchunk⟩ | ⟨registry, hchunk⟩
  · exact Chunker.eq_nil_or_isTwoLevel hchunk
  · rcases registry.exists_chunker tools file poll with ⟨chunker, file', heq⟩
    rw [heq] at hchunk
    exact Chunker.eq_nil_or_isTwoLevel hchunk

/-- Whatever a chunker or a registry gives for a file is a forest with one root; if there are chunks
at all, the first stands for the file and the others lie at most two levels below it. -/
theorem Outline.isTwoLevel_of_outcome
    (h : (∃ chunker : Chunker, ((chunker.chunk tools file poll).outcome s).1 = .ok o) ∨
      ∃ registry : Registry, ((registry.chunk tools file poll).outcome s).1 = .ok o) :
    o.problems = [] ∧ (o.chunks ≠ [] → o.IsTwoLevel) := by
  rcases Outline.eq_nil_or_isTwoLevel h with hempty | htwo
  · refine ⟨?_, fun hne => absurd hempty hne⟩
    simp [Outline.problems, hempty]
  · exact ⟨htwo.problems_eq_nil, fun _ => htwo⟩

end Outcomes

namespace NestedClass

def registry : Registry where
  byExtension := [(".py", chunker)]

def outline : Outline :=
  chunker.outline (file.withLanguage "python") tree

theorem outcome_registry :
    ((registry.chunk (.answering tree) file none).outcome {}).1 = .ok outline := by
  have hlookup :
      registry.byExtension.lookup (normalizeExtension file.extension) = some chunker := by
    decide +kernel
  have hparses : ({} : Session).engine.Parses (.answering tree) chunker.table.grammar
      (file.withLanguage "python").content tree := Engine.parses_answering _ _ tree
  have hblank : (file.withLanguage "python").content.isBlank = false := content_not_blank
  have hchunk := TableChunker.outcome_chunk (c := chunker) hblank hparses
  unfold Registry.chunk Registry.lookup
  rw [hlookup]
  exact congrArg Prod.fst hchunk

theorem outline_isTwoLevel :
    ((registry.chunk (.answering tree) file none).outcome {}).1 = .ok outline ∧
      outline.problems = [] ∧ outline.chunks ≠ [] ∧ outline.IsTwoLevel := by
  have hne : outline.chunks ≠ [] := List.cons_ne_nil _ _
  have htwo := Outline.isTwoLevel_of_outcome (Or.inr ⟨registry, outcome_registry⟩)
  exact ⟨outcome_registry, htwo.1, hne, htwo.2 hne⟩

end NestedClass

end SourceOutline
