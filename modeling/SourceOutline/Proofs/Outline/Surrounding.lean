import SourceOutline.Proofs.Outline.Lookalike
import SourceOutline.Proofs.SyntaxTree.Ancestry

/-!
# Surrounding — the parent of a chunk surrounds its lines

A chunk belongs to the chunk of the file or to that of a class above its node.  If the rows of a
tree are nested, the lines of the parent surround those of the chunk, however many nodes without a
chunk lie between the two.  The parent of a method is the innermost class around it: the lines of
every other class around the method surround those of the parent.

* `TableChunker.parent_surrounds` — what is known of the parents in the outline of a file.
-/

namespace SourceOutline

/-! ## Chunks -/

/-- All lines of the second chunk are lines of the first. -/
def Chunk.Surrounds (c d : Chunk) : Prop :=
  c.startLine ≤ d.startLine ∧ d.endLine ≤ c.endLine

theorem Chunk.Surrounds.refl (c : Chunk) : c.Surrounds c :=
  ⟨Int.le_refl _, Int.le_refl _⟩

/-- Chunks of one file and language with one digest have the same level and lines, unless different
digest inputs have the same digest. -/
theorem Outline.hasClash_or_of_id_eq {o : Outline} {d e : Chunk} (hd : d ∈ o.chunks)
    (he : e ∈ o.chunks) (hpath : d.path = e.path) (hlanguage : d.language = e.language)
    (hid : d.id = e.id) :
    o.HasClash ∨ (d.level = e.level ∧ d.startLine = e.startLine ∧ d.endLine = e.endLine) := by
  by_cases hinput : d.identity.digestInput = e.identity.digestInput
  · have hsame := (Chunk.digestInput_eq_iff hpath hlanguage).1 hinput
    exact .inr ⟨hsame.2.2.1, hsame.1, hsame.2.1⟩
  · exact .inl ⟨d, hd, e, he, hinput, hid⟩

namespace Plan

variable {p : Plan} {tree : SyntaxNode} {a b : Occurrence}

/-! ## The innermost class -/

theorem isEnclosing_iff {n : SyntaxNode} :
    p.isEnclosing n = true ↔
      p.table.isClass n.type = true ∧ n.IsWellFormed p.file.content p.table.nameField := by
  simp [isEnclosing]

/-- The first node is the nearest class above the second that has a chunk. -/
structure IsInnermost (p : Plan) (a b : Occurrence) : Prop where
  isAbove : a.IsAbove b
  isEnclosing : p.isEnclosing a.node = true
  eq_or_isAbove : ∀ d : Occurrence, d.IsAbove b → p.isEnclosing d.node = true →
    d = a ∨ d.IsAbove a

theorem isInnermost_of_find? {x : SyntaxNode} (h : b.above.find? p.isEnclosing = some x) :
    ∃ above, p.IsInnermost ⟨x, above⟩ b := by
  rcases List.find?_eq_some_iff_append.1 h with ⟨hx, nearer, above, hsplit, hnearer⟩
  have hxb : Occurrence.IsAbove ⟨x, above⟩ b := ⟨nearer, hsplit.symm⟩
  refine ⟨above, hxb, hx, ?_⟩
  intro d hd henclosing
  rcases hd.eq_or_isAbove hxb with heq | hdx | ⟨between, hbetween⟩
  · exact .inl heq
  · exact .inr hdx
  · -- Otherwise the search would have stopped at `d`.
    rcases hd with ⟨start, hstart⟩
    have happend : (start ++ d.node :: between) ++ x :: above = nearer ++ x :: above := by
      rw [← hsplit, ← hstart, ← hbetween, List.append_assoc, List.cons_append]
    have hprefix : start ++ d.node :: between = nearer := List.append_cancel_right happend
    have hmem : d.node ∈ nearer := by
      rw [← hprefix]
      exact List.mem_append_right start List.mem_cons_self
    have hnot := hnearer d.node hmem
    rw [henclosing] at hnot
    cases hnot

theorem id_chunkAt_of_isEnclosing (h : p.isEnclosing a.node = true) :
    (p.chunkAt a).id = (p.chunkOf .classLike p.root.id a.node).id := by
  have hclass := (isEnclosing_iff.1 h).1
  simp [chunkAt, parentIdAt, hclass]

/-- What encloses a place is the innermost class above it, or the file if there is none. -/
theorem isInnermost_or (p : Plan) (b : Occurrence) :
    (p.enclosingId b.above = p.root.id ∧
      ∀ a : Occurrence, a.IsAbove b → p.isEnclosing a.node = false) ∨
    ∃ a, p.IsInnermost a b ∧ p.enclosingId b.above = (p.chunkAt a).id := by
  cases hfind : b.above.find? p.isEnclosing with
  | none =>
      refine .inl ⟨by rw [enclosingId, hfind], ?_⟩
      intro a hab
      have hmem : a.node ∈ b.above := hab.mem List.mem_cons_self
      exact Bool.eq_false_iff.2 (List.find?_eq_none.1 hfind a.node hmem)
  | some x =>
      rcases isInnermost_of_find? hfind with ⟨above, hinner⟩
      refine .inr ⟨⟨x, above⟩, hinner, ?_⟩
      rw [enclosingId, hfind, id_chunkAt_of_isEnclosing hinner.isEnclosing]

/-! ## Order -/

theorem mem_and_declares {i : Nat} (ha : (p.declaredIn tree)[i]? = some a) :
    a ∈ tree.occurrences [] ∧ p.Declares a := by
  rcases List.mem_filter.1 (List.mem_of_getElem? ha) with ⟨hmem, hdeclares⟩
  exact ⟨hmem, of_decide_eq_true hdeclares⟩

theorem Declares.of_isAbove (hb : p.Declares b) (hab : a.IsAbove b)
    (ha : p.isEnclosing a.node = true) : p.Declares a := by
  rcases isEnclosing_iff.1 ha with ⟨hclass, hwell⟩
  refine ⟨.inl hclass, ?_, hwell⟩
  intro x hx
  exact hb.2.1 x (hab.mem (List.mem_cons_of_mem a.node hx))

theorem exists_lt_of_isAbove {i : Nat} (hb : (p.declaredIn tree)[i]? = some b) (hab : a.IsAbove b)
    (ha : p.isEnclosing a.node = true) : ∃ j, j < i ∧ (p.declaredIn tree)[j]? = some a := by
  rcases List.getElem?_eq_some_iff.1 hb with ⟨hi, hget⟩
  have hplace : p.declaredIn tree =
      (p.declaredIn tree).take i ++ b :: (p.declaredIn tree).drop (i + 1) := by
    rw [← hget, ← List.drop_eq_getElem_cons hi, List.take_append_drop]
  -- The place among the declared nodes is a place in the whole pre-order.
  rcases List.filter_eq_append_iff.1 hplace with ⟨before, rest, horder, hbefore, hrest⟩
  rcases List.filter_eq_cons_iff.1 hrest with ⟨between, after, hsplit, hbetween, hdeclares, _⟩
  have hpre : tree.occurrences [] = (before ++ between) ++ b :: after := by
    rw [horder, hsplit, List.append_assoc]
  have hmem : a ∈ before ++ between :=
    SyntaxNode.mem_of_occurrences_eq_append hpre hab (List.nil_suffix)
  have hdeclared : p.Declares a := (of_decide_eq_true hdeclares).of_isAbove hab ha
  have hmemBefore : a ∈ before := by
    rcases List.mem_append.1 hmem with hmem | hmem
    · exact hmem
    · exact absurd (decide_eq_true hdeclared) (hbetween a hmem)
  have hmemTake : a ∈ (p.declaredIn tree).take i := by
    rw [← hbefore]
    exact List.mem_filter.2 ⟨hmemBefore, decide_eq_true hdeclared⟩
  rcases List.mem_take_iff_getElem.1 hmemTake with ⟨j, hj, hja⟩
  have hlength : j < (p.declaredIn tree).length := by omega
  exact ⟨j, by omega, List.getElem?_eq_some_iff.2 ⟨hlength, hja⟩⟩

/-! ## Lines -/

theorem chunkAt_surrounds_chunkAt (hb : b.node.span.startRow ≤ b.node.span.endRow)
    (h : b.node.span.RowsWithin a.node.span.startRow a.node.span.endRow) :
    (p.chunkAt a).Surrounds (p.chunkAt b) := by
  have hrows := h hb
  simp only [Chunk.Surrounds, chunkAt, chunkOf]
  omega

/-- In a tree with nested rows, a node with a chunk that lies above another one surrounds it. -/
theorem surrounds_of_isAbove (hnested : tree.HasNestedRows) (hmem : b ∈ tree.occurrences [])
    (hb : p.Declares b) (hab : a.IsAbove b) : (p.chunkAt a).Surrounds (p.chunkAt b) := by
  have htop : [tree].Pairwise fun c a => c.span.RowsWithin a.span.startRow a.span.endRow :=
    List.pairwise_singleton _ _
  have hpath := SyntaxNode.pairwise_rowsWithin hnested htop hmem
  have hnode : a.node ∈ b.above := hab.mem List.mem_cons_self
  exact chunkAt_surrounds_chunkAt hb.2.2.rows_le ((List.pairwise_cons.1 hpath).1 a.node hnode)

/-- The chunk of the file surrounds all others if the rows of the tree are rows of the file. -/
theorem ofFile_surrounds_chunkAt {file : SourceFile} {language : String}
    (hnested : tree.HasNestedRows) (hroot : tree.span.RowsWithin 0 (file.content.count 10))
    (hmem : b ∈ tree.occurrences []) (hb : p.Declares b) :
    (Chunk.ofFile file language).Surrounds (p.chunkAt b) := by
  have hrows := SyntaxNode.rowsWithin_of_mem_occurrences hnested hroot hmem hb.2.2.rows_le
  simp only [Chunk.Surrounds, Chunk.ofFile, chunkAt, chunkOf, countLines]
  omega

/-! ## Parents -/

/-- The chunks at two places of the outline of a tree are those of declared nodes of which the first
lies above the second. -/
def AboveAt (p : Plan) (tree : SyntaxNode) (i j : Nat) : Prop :=
  ∃ k l a b, i = k + 1 ∧ j = l + 1 ∧ (p.declaredIn tree)[k]? = some a ∧
    (p.declaredIn tree)[l]? = some b ∧ a.IsAbove b

theorem aboveAt_succ_iff {j l : Nat} (hb : (p.declaredIn tree)[l]? = some b) :
    p.AboveAt tree j (l + 1) ↔
      ∃ k a, j = k + 1 ∧ (p.declaredIn tree)[k]? = some a ∧ a.IsAbove b := by
  constructor
  · rintro ⟨k, l', a, b', hj, hl, ha, hb', hab⟩
    cases hl
    rw [hb] at hb'
    cases hb'
    exact ⟨k, a, hj, ha, hab⟩
  · rintro ⟨k, a, hj, ha, hab⟩
    exact ⟨k, l, a, b, hj, rfl, ha, hb, hab⟩

theorem isEnclosing_of_isAbove (ha : p.Declares a) (hb : p.Declares b) (hab : a.IsAbove b) :
    p.isEnclosing a.node = true := by
  have hmethod := hb.2.1 a.node (hab.mem List.mem_cons_self)
  refine isEnclosing_iff.2 ⟨?_, ha.2.2⟩
  rcases ha.1 with hclass | hkind
  · exact hclass
  · rw [hkind] at hmethod
    cases hmethod

end Plan

namespace TableChunker

variable {c : TableChunker} {file : SourceFile} {tree : SyntaxNode} {b : Occurrence}

/-- The chunk of a declared node belongs to the chunk of the file or to that of the innermost class
above it.  A method belongs to the file only if no declared node lies above it. -/
theorem parent_of_declared {l : Nat} (hb : ((c.plan file).declaredIn tree)[l]? = some b) :
    (((c.plan file).chunkAt b).parentId = some (Chunk.ofFile file c.language).id ∧
      (((c.plan file).chunkAt b).level = .method → ∀ j, ¬ (c.plan file).AboveAt tree j (l + 1))) ∨
    ∃ k a, k < l ∧ ((c.plan file).declaredIn tree)[k]? = some a ∧ (c.plan file).IsInnermost a b ∧
      ((c.plan file).chunkAt b).parentId = some ((c.plan file).chunkAt a).id := by
  by_cases hclass : c.table.isClass b.node.type = true
  · -- A class belongs to the file.
    refine .inl ⟨?_, ?_⟩
    · simp only [Plan.chunkAt, Plan.chunkOf, Plan.parentIdAt, table_plan, hclass, if_true]
      rfl
    · intro hlevel
      simp [Plan.chunkAt, Plan.chunkOf, hclass] at hlevel
  · have hparent : ((c.plan file).chunkAt b).parentId =
        some ((c.plan file).enclosingId b.above) := by
      simp [Plan.chunkAt, Plan.chunkOf, Plan.parentIdAt, hclass]
    rcases (c.plan file).isInnermost_or b with ⟨hroot, hnone⟩ | ⟨a, hinner, hid⟩
    · refine .inl ⟨by rw [hparent, hroot]; rfl, ?_⟩
      intro _ j habove
      rcases (Plan.aboveAt_succ_iff hb).1 habove with ⟨k, a, _, ha, hab⟩
      have henclosing := Plan.isEnclosing_of_isAbove (Plan.mem_and_declares ha).2
        (Plan.mem_and_declares hb).2 hab
      rw [hnone a hab] at henclosing
      cases henclosing
    · rcases Plan.exists_lt_of_isAbove hb hinner.isAbove hinner.isEnclosing with ⟨k, hk, ha⟩
      exact .inr ⟨k, a, hk, ha, hinner, by rw [hparent, hid]⟩

theorem path_and_language_of_mem_outline (htable : c.table.IsAccepted) {d : Chunk}
    (hd : d ∈ (c.outline file tree).chunks) : d.path = file.path ∧ d.language = c.language := by
  rw [chunks_outline_eq htable] at hd
  rcases List.mem_cons.1 hd with rfl | hdeclared
  · exact ⟨rfl, rfl⟩
  · rcases List.mem_map.1 hdeclared with ⟨a, _, rfl⟩
    exact ⟨rfl, rfl⟩

/-- In the outline of a tree with nested rows, every chunk but that of the file belongs to an
earlier chunk that surrounds it: that of the file, or that of a node above.  If the chunk is that
of a method, all chunks of nodes above surround the parent. -/
theorem parent_surrounds_outline (htable : c.table.IsAccepted) (hnested : tree.HasNestedRows)
    (hroot : tree.span.RowsWithin 0 (file.content.count 10)) {i : Nat} {d : Chunk}
    (hd : (c.outline file tree).chunks[i]? = some d) (hfile : d.isFile = false) :
    ∃ j e, j < i ∧ (c.outline file tree).chunks[j]? = some e ∧ d.parentId = some e.id ∧
      e.Surrounds d ∧ (j = 0 ∨ (c.plan file).AboveAt tree j i) ∧
      (d.level = .method → ∀ k f, (c.outline file tree).chunks[k]? = some f →
        (c.plan file).AboveAt tree k i → f.Surrounds e) := by
  rw [chunks_outline_eq htable] at hd ⊢
  cases i with
  | zero =>
      cases hd
      cases hfile
  | succ l =>
      rw [List.getElem?_cons_succ, List.getElem?_map, Option.map_eq_some_iff] at hd
      rcases hd with ⟨b, hb, rfl⟩
      rcases Plan.mem_and_declares hb with ⟨hmemB, hdeclaresB⟩
      rcases parent_of_declared hb with ⟨hparent, hnone⟩ | ⟨k, a, hk, ha, hinner, hparent⟩
      · refine ⟨0, _, Nat.succ_pos l, rfl, hparent,
          Plan.ofFile_surrounds_chunkAt hnested hroot hmemB hdeclaresB, .inl rfl, ?_⟩
        intro hlevel k f _ habove
        exact absurd habove (hnone hlevel k)
      · rcases Plan.mem_and_declares ha with ⟨hmemA, hdeclaresA⟩
        have haplace : (Chunk.ofFile file c.language ::
            ((c.plan file).declaredIn tree).map (c.plan file).chunkAt)[k + 1]? =
              some ((c.plan file).chunkAt a) := by
          rw [List.getElem?_cons_succ, List.getElem?_map, ha, Option.map_some]
        refine ⟨k + 1, _, Nat.succ_lt_succ hk, haplace, hparent,
          Plan.surrounds_of_isAbove hnested hmemB hdeclaresB hinner.isAbove,
          .inr ⟨k, l, a, b, rfl, rfl, ha, hb, hinner.isAbove⟩, ?_⟩
        -- Whatever else lies above the method is the innermost class or lies above that.
        intro _ k' f hf habove
        rcases (Plan.aboveAt_succ_iff hb).1 habove with ⟨m, x, rfl, hx, hxb⟩
        rw [List.getElem?_cons_succ, List.getElem?_map, hx, Option.map_some] at hf
        cases hf
        have henclosing := Plan.isEnclosing_of_isAbove (Plan.mem_and_declares hx).2 hdeclaresB hxb
        rcases hinner.eq_or_isAbove x hxb henclosing with rfl | hxa
        · exact Chunk.Surrounds.refl _
        · exact Plan.surrounds_of_isAbove hnested hmemA hdeclaresA hxa

/-- In a tree with nested rows that are rows of the file, every chunk but that of the file belongs
to an earlier chunk that surrounds it: that of the file, or that of a node above.  The parent of a
method is the innermost chunk around it.  No other chunk with the digest of the parent has another
level or other lines, unless different digest inputs have the same digest. -/
theorem parent_surrounds {tools : Toolchain} {poll : Option Poll} {s : Session} {o : Outline}
    (htable : c.table.IsAccepted)
    (hparses : s.engine.Parses tools c.table.grammar file.content tree)
    (hnested : tree.HasNestedRows) (hroot : tree.span.RowsWithin 0 (file.content.count 10))
    (h : ((c.chunk tools file poll).outcome s).1 = .ok o) :
    ∀ (i : Nat) (d : Chunk), o.chunks[i]? = some d → d.isFile = false →
      ∃ j e, j < i ∧ o.chunks[j]? = some e ∧ d.parentId = some e.id ∧ e.Surrounds d ∧
        (j = 0 ∨ (c.plan file).AboveAt tree j i) ∧
        (d.level = .method → ∀ k f, o.chunks[k]? = some f →
          (c.plan file).AboveAt tree k i → f.Surrounds e) ∧
        (o.HasClash ∨ ∀ f ∈ o.chunks, d.parentId = some f.id →
          f.level = e.level ∧ f.startLine = e.startLine ∧ f.endLine = e.endLine) := by
  rcases of_outcome_chunk_eq_ok (Prod.ext h rfl) with ⟨_, rfl⟩ | ⟨_, tree', hparses', rfl⟩
  · -- A blank file has no chunks.
    intro i d hd
    simp at hd
  · have htree := hparses.tree_eq hparses'
    subst htree
    intro i d hd hfile
    rcases parent_surrounds_outline htable hnested hroot hd hfile with
      ⟨j, e, hj, he, hparent, hsurrounds, habove, hinner⟩
    refine ⟨j, e, hj, he, hparent, hsurrounds, habove, hinner, ?_⟩
    by_cases hclash : (c.outline file tree').HasClash
    · exact .inl hclash
    · refine .inr fun f hf hfparent => ?_
      have hmemE := List.mem_of_getElem? he
      rcases path_and_language_of_mem_outline htable hf with ⟨hpathF, hlanguageF⟩
      rcases path_and_language_of_mem_outline htable hmemE with ⟨hpathE, hlanguageE⟩
      have hid : f.id = e.id := Option.some.inj (hfparent.symm.trans hparent)
      exact (Outline.hasClash_or_of_id_eq hf hmemE (hpathF.trans hpathE.symm)
        (hlanguageF.trans hlanguageE.symm) hid).resolve_left hclash

end TableChunker

/-! ## A class in a class -/

namespace InnerClass

/-- A method of a class that lies in another class. -/
def file : SourceFile where
  path := "a.py"
  content := utf8Bytes "class A:\n  class B:\n    def f():\n      pass\n  x = 1\n"

def name (start : Nat) (row : Int) : SyntaxNode :=
  .node "identifier" ⟨start, start + 1, row, row⟩ (some "name") []

def method : SyntaxNode :=
  .node "function_definition" ⟨24, 43, 2, 3⟩ none [name 28 2]

def inner : SyntaxNode :=
  .node "class_definition" ⟨11, 43, 1, 3⟩ none [name 17 1, .node "block" ⟨24, 43, 2, 3⟩ none [method]]

def outer : SyntaxNode :=
  .node "class_definition" ⟨0, 51, 0, 4⟩ none
    [name 6 0, .node "block" ⟨11, 51, 1, 4⟩ none [inner, .node "ERROR" ⟨46, 51, 9, 4⟩ none []]]

def tree : SyntaxNode :=
  .node "module" ⟨0, 52, 0, 5⟩ none [outer]

def chunker : TableChunker := { table := .python }

def declared : List Occurrence :=
  [⟨outer, [tree]⟩, ⟨inner, [outer.children[1], outer, tree]⟩,
    ⟨method, [inner.children[1], inner, outer.children[1], outer, tree]⟩]

theorem isAccepted : chunker.table.IsAccepted :=
  LanguageTable.isAccepted_of_mem_packaged (t := .python) (by decide)

theorem declaredIn_eq : (chunker.plan file).declaredIn tree = declared := by rfl

theorem aboveAt_method : (chunker.plan file).AboveAt tree 1 3 := by
  refine ⟨0, 2, declared[0], declared[2], rfl, rfl, ?_, ?_, ?_⟩
  · rw [declaredIn_eq]
    rfl
  · rw [declaredIn_eq]
    rfl
  · exact ⟨[inner.children[1], inner, outer.children[1]], rfl⟩

theorem chunks_eq : (chunker.outline file tree).chunks =
    Chunk.ofFile file "python" :: declared.map (chunker.plan file).chunkAt := by
  rw [TableChunker.chunks_outline_eq isAccepted, declaredIn_eq]
  rfl

/-- The method belongs to a chunk that surrounds it, and the outer class surrounds that chunk. -/
theorem parent_of_method :
    chunker.table.IsAccepted ∧
      ({} : Engine).Parses (.answering tree) chunker.table.grammar file.content tree ∧
      tree.HasNestedRows ∧ tree.span.RowsWithin 0 (file.content.count 10) ∧
      ((chunker.chunk (.answering tree) file none).outcome {}).1 = .ok (chunker.outline file tree) ∧
      ∃ a d e, (chunker.outline file tree).chunks[1]? = some a ∧
        (chunker.outline file tree).chunks[3]? = some d ∧ e ∈ (chunker.outline file tree).chunks ∧
        d.level = .method ∧ d.parentId = some e.id ∧ e.Surrounds d ∧ a.Surrounds e := by
  have hparses := Engine.parses_answering chunker.table.grammar file.content tree
  have hblank : file.content.isBlank = false := by decide
  have hnested : tree.HasNestedRows := by decide +kernel
  have hroot : tree.span.RowsWithin 0 (file.content.count 10) := by decide
  have houtcome : ((chunker.chunk (.answering tree) file none).outcome {}).1 =
      .ok (chunker.outline file tree) := by
    rw [TableChunker.outcome_chunk hblank hparses]
  have houter : (chunker.outline file tree).chunks[1]? =
      some ((chunker.plan file).chunkAt declared[0]) := by
    rw [chunks_eq]
    rfl
  have hmethod : (chunker.outline file tree).chunks[3]? =
      some ((chunker.plan file).chunkAt declared[2]) := by
    rw [chunks_eq]
    rfl
  rcases TableChunker.parent_surrounds isAccepted hparses hnested hroot houtcome 3 _ hmethod rfl with
    ⟨j, e, _, he, hparent, hsurrounds, _, hinner, _⟩
  exact ⟨isAccepted, hparses, hnested, hroot, houtcome, _, _, e, houter, hmethod,
    List.mem_of_getElem? he, rfl, hparent, hsurrounds, hinner rfl 1 _ houter aboveAt_method⟩

end InnerClass

end SourceOutline
