import SourceOutline.Proofs.Chunk.Identity
import SourceOutline.Proofs.Chunker.Ancestors
import SourceOutline.Proofs.SyntaxTree.Layout

/-!
# Lookalike — which chunks of an outline have the same digest input

A chunk is identified by its lines, its level and its name; bytes and columns do not count.  So two
declarations of one tree can look alike.  When the tree is laid out over its source, there are two
ways for this: they lie side by side on one line, or they are a class and a class inside it that
starts and ends on the same lines.

* `TableChunker.digestInput_eq_iff_lookalikeAt` — what the digests of an outline can tell apart;
* `Lookalikes.digestInputs_collide` — a line on which they cannot.
-/

namespace SourceOutline

/-! ## Outlines -/

namespace Outline

variable {o : Outline} {i : Nat} {d e : Chunk}

/-- Two chunks have different digest inputs but the same digest. -/
def HasClash (o : Outline) : Prop :=
  ∃ c ∈ o.chunks, ∃ d ∈ o.chunks, c.identity.digestInput ≠ d.identity.digestInput ∧ c.id = d.id

/-- The digest of the chunk at a place leads to that chunk, and no chunk belongs both to it and to
the chunk at another place. -/
structure IdentifiesAt (o : Outline) (i : Nat) (d : Chunk) : Prop where
  get?_eq : o.get? d.id = some d
  childrenOf_disjoint : ∀ (j : Nat) (e : Chunk), j ≠ i → o.chunks[j]? = some e →
    ∀ f ∈ o.childrenOf (some d.id), f ∉ o.childrenOf (some e.id)

theorem identifiesAt_of_id_ne (hd : o.chunks[i]? = some d)
    (hother : ∀ (j : Nat) (e : Chunk), j ≠ i → o.chunks[j]? = some e → e.id ≠ d.id) :
    o.IdentifiesAt i d := by
  refine ⟨?_, ?_⟩
  · rcases List.getElem?_eq_some_iff.1 hd with ⟨hi, hget⟩
    rw [get?, List.find?_eq_some_iff_getElem]
    refine ⟨by simp, i, hi, hget, ?_⟩
    -- No earlier place has the digest, so the search does not stop before.
    intro j hj
    have hne := hother j o.chunks[j] (Nat.ne_of_lt hj) (List.getElem?_eq_getElem _)
    simpa using hne
  · -- A chunk has one parent, and the two digests differ.
    intro j e hj he f hf hf'
    have hparent : f.parentId = some d.id := by simpa using (List.mem_filter.1 hf).2
    have hparent' : f.parentId = some e.id := by simpa using (List.mem_filter.1 hf').2
    rw [hparent] at hparent'
    exact hother j e hj he (Option.some.inj hparent').symm

/-- A chunk whose digest input no other place has is identified by its digest, unless different
inputs have the same digest. -/
theorem hasClash_or_identifiesAt (hd : o.chunks[i]? = some d)
    (hother : ∀ (j : Nat) (e : Chunk), j ≠ i → o.chunks[j]? = some e →
      e.identity.digestInput ≠ d.identity.digestInput) :
    o.HasClash ∨ o.IdentifiesAt i d := by
  by_cases hclash : o.HasClash
  · exact .inl hclash
  · refine .inr (identifiesAt_of_id_ne hd ?_)
    intro j e hj he hid
    exact hclash ⟨e, List.mem_of_getElem? he, d, List.mem_of_getElem? hd, hother j e hj he, hid⟩

theorem get?_ne_some (hd : o.chunks[i]? = some d) (hid : d.id = e.id)
    (hearlier : ∀ f ∈ o.chunks.take (i + 1), f ≠ e) : o.get? e.id ≠ some e := by
  intro h
  rw [get?, List.find?_eq_some_iff_getElem] at h
  rcases h with ⟨_, k, hk, hget, hfirst⟩
  -- The search stops at the earlier chunk at the latest, and the chunk does not occur up to there.
  by_cases hki : k ≤ i
  · have hmem : e ∈ o.chunks.take (i + 1) :=
      List.mem_take_iff_getElem.2 ⟨k, by omega, hget⟩
    exact hearlier e hmem rfl
  · rcases List.getElem?_eq_some_iff.1 hd with ⟨_, hat⟩
    have hne := hfirst i (by omega)
    rw [hat] at hne
    simp [hid] at hne

/-- Of two chunks with the same digest input the later is not found by its digest, if chunks differ
in what they contain. -/
theorem exists_get?_ne_some (hcontents : o.chunks.Pairwise fun c d => c.content ≠ d.content)
    {j : Nat} (hij : i < j) (hj : j < o.chunks.length)
    (hsame : (o.chunks[i]?.map fun c => c.identity.digestInput) =
      o.chunks[j]?.map fun c => c.identity.digestInput) :
    ∃ d e, o.chunks[i]? = some d ∧ o.chunks[j]? = some e ∧
      d.identity.digestInput = e.identity.digestInput ∧ o.get? e.id ≠ some e := by
  have hi : i < o.chunks.length := Nat.lt_trans hij hj
  obtain ⟨d, hd⟩ : ∃ d, o.chunks[i]? = some d := ⟨_, List.getElem?_eq_getElem hi⟩
  obtain ⟨e, he⟩ : ∃ e, o.chunks[j]? = some e := ⟨_, List.getElem?_eq_getElem hj⟩
  rw [hd, he] at hsame
  have hinput : d.identity.digestInput = e.identity.digestInput := Option.some.inj hsame
  have hid : d.id = e.id := by
    rw [Chunk.id, Chunk.id, Identity.id, Identity.id, hinput]
  refine ⟨d, e, hd, he, hinput, get?_ne_some hd hid ?_⟩
  intro f hf hfe
  rcases List.mem_take_iff_getElem.1 hf with ⟨k, hk, hget⟩
  rcases List.getElem?_eq_some_iff.1 he with ⟨_, hat⟩
  have hcontent := List.pairwise_iff_getElem.1 hcontents k j (by omega) hj (by omega)
  rw [hget, hat, hfe] at hcontent
  exact hcontent rfl

end Outline

/-! ## Declared nodes -/

namespace Plan

variable {p : Plan} {a b : Occurrence} {tree : SyntaxNode}

/-- The second of two declared nodes looks like the first: it has the same level, name and lines,
and either they lie side by side on one line or the first is a class that encloses the second. -/
structure Lookalike (p : Plan) (a b : Occurrence) : Prop where
  isClass_eq : p.table.isClass a.node.type = p.table.isClass b.node.type
  name_eq : a.node.nameText p.file.content p.table.nameField =
    b.node.nameText p.file.content p.table.nameField
  startRow_eq : a.node.span.startRow = b.node.span.startRow
  endRow_eq : a.node.span.endRow = b.node.span.endRow
  place : ((a.node.span.Precedes b.node.span ∨ b.node.span.Precedes a.node.span) ∧
      a.node.span.startRow = a.node.span.endRow) ∨
    (p.table.isClass a.node.type = true ∧ a.Encloses b)

/-- What the digest input of a declared node depends on. -/
theorem digestInput_chunkAt_eq_iff :
    (p.chunkAt a).identity.digestInput = (p.chunkAt b).identity.digestInput ↔
      a.node.span.startRow = b.node.span.startRow ∧ a.node.span.endRow = b.node.span.endRow ∧
        p.table.isClass a.node.type = p.table.isClass b.node.type ∧
        a.node.nameText p.file.content p.table.nameField =
          b.node.nameText p.file.content p.table.nameField := by
  have hlevels : (p.chunkAt a).level = (p.chunkAt b).level ↔
      p.table.isClass a.node.type = p.table.isClass b.node.type := by
    simp only [chunkAt, chunkOf]
    cases p.table.isClass a.node.type <;> cases p.table.isClass b.node.type <;> simp
  have hpath : (p.chunkAt a).path = (p.chunkAt b).path := rfl
  have hlanguage : (p.chunkAt a).language = (p.chunkAt b).language := rfl
  rw [Chunk.digestInput_eq_iff hpath hlanguage, hlevels]
  simp only [chunkAt, chunkOf, Int.add_left_inj]

theorem digestInput_ofFile_ne_chunkAt {file : SourceFile} {language : String}
    (hpath : file.path = p.file.path) (hlanguage : language = p.table.language) :
    (Chunk.ofFile file language).identity.digestInput ≠ (p.chunkAt a).identity.digestInput := by
  intro h
  have hlevel := ((Chunk.digestInput_eq_iff hpath hlanguage).1 h).2.2.1
  simp only [Chunk.ofFile, chunkAt, chunkOf] at hlevel
  split at hlevel <;> cases hlevel

/-- Two declared nodes that are placed as in a laid-out tree have the same digest input exactly if
the second looks like the first. -/
theorem digestInput_chunkAt_eq_iff_lookalike {source : Bytes} (ha : p.Declares a)
    (hb : p.Declares b) (hplacedA : a.node.IsPlaced source) (hplacedB : b.node.IsPlaced source)
    (hplace : a.Encloses b ∨ a.node.span.Precedes b.node.span ∨
      b.node.span.Precedes a.node.span) :
    (p.chunkAt a).identity.digestInput = (p.chunkAt b).identity.digestInput ↔
      p.Lookalike a b := by
  rw [digestInput_chunkAt_eq_iff]
  constructor
  · rintro ⟨hstart, hend, hclass, hname⟩
    refine ⟨hclass, hname, hstart, hend, ?_⟩
    rcases hplace with hencloses | hbefore | hafter
    · -- Nothing declared lies below a method.
      have hmem : a.node ∈ b.above := hencloses.above.mem List.mem_cons_self
      have hmethod := hb.2.1 a.node hmem
      have houter : p.table.isClass a.node.type = true := by
        rcases ha.1 with hkind | hkind
        · exact hkind
        · rw [hkind] at hmethod
          cases hmethod
      exact .inr ⟨houter, hencloses⟩
    · -- The first ends in a row before the second starts, and both start in the same row.
      have hrow := hplacedA.endRow_le_of_precedes hplacedB hbefore
      have hrows := ha.2.2.rows_le
      exact .inl ⟨.inl hbefore, by omega⟩
    · have hrow := hplacedB.endRow_le_of_precedes hplacedA hafter
      have hrows := ha.2.2.rows_le
      exact .inl ⟨.inr hafter, by omega⟩
  · intro h
    exact ⟨h.startRow_eq, h.endRow_eq, h.isClass_eq, h.name_eq⟩

/-- The nodes of a tree that have a chunk, in pre-order. -/
def declaredIn (p : Plan) (tree : SyntaxNode) : List Occurrence :=
  (tree.occurrences []).filter fun o => p.Declares o

/-- The chunks at two places of the outline of a tree are those of declared nodes of which the
second looks like the first.  The chunk of the file comes before those of nodes. -/
def LookalikeAt (p : Plan) (tree : SyntaxNode) (i j : Nat) : Prop :=
  ∃ k l a b, i = k + 1 ∧ j = l + 1 ∧ (p.declaredIn tree)[k]? = some a ∧
    (p.declaredIn tree)[l]? = some b ∧ p.Lookalike a b

/-- In a tree that is laid out, an earlier and a later declared node have the same digest input
exactly if the later looks like the earlier. -/
theorem digestInput_declaredIn_eq_iff {source : Bytes} (hlaid : tree.IsLaidOut source) {k l : Nat}
    (hkl : k < l) (ha : (p.declaredIn tree)[k]? = some a) (hb : (p.declaredIn tree)[l]? = some b) :
    (p.chunkAt a).identity.digestInput = (p.chunkAt b).identity.digestInput ↔
      p.Lookalike a b := by
  have hmemA := List.mem_filter.1 (List.mem_of_getElem? ha)
  have hmemB := List.mem_filter.1 (List.mem_of_getElem? hb)
  have hpairs : (p.declaredIn tree).Pairwise fun a b =>
      a.Encloses b ∨ a.node.span.Precedes b.node.span ∨ b.node.span.Precedes a.node.span :=
    (SyntaxNode.pairwise_occurrences hlaid).filter _
  rcases List.getElem?_eq_some_iff.1 ha with ⟨hk, hgetA⟩
  rcases List.getElem?_eq_some_iff.1 hb with ⟨hl, hgetB⟩
  have hplace := List.pairwise_iff_getElem.1 hpairs k l hk hl hkl
  rw [hgetA, hgetB] at hplace
  exact digestInput_chunkAt_eq_iff_lookalike (of_decide_eq_true hmemA.2)
    (of_decide_eq_true hmemB.2) (hlaid a hmemA.1) (hlaid b hmemB.1) hplace

end Plan

/-! ## Outlines of files -/

namespace TableChunker

variable {c : TableChunker} {file : SourceFile} {tree : SyntaxNode}

theorem chunks_outline_eq (htable : c.table.IsAccepted) (file : SourceFile) (tree : SyntaxNode) :
    (c.outline file tree).chunks =
      Chunk.ofFile file c.language ::
        ((c.plan file).declaredIn tree).map (c.plan file).chunkAt := by
  rw [outline_eq_chunksAt htable]
  rfl

/-- The chunks at two places of the outline of a laid-out tree have the same digest input exactly if
the second looks like the first. -/
theorem digestInput_outline_eq_iff (htable : c.table.IsAccepted)
    (hlaid : tree.IsLaidOut file.content) {i j : Nat} {d e : Chunk} (hij : i < j)
    (hd : (c.outline file tree).chunks[i]? = some d)
    (he : (c.outline file tree).chunks[j]? = some e) :
    d.identity.digestInput = e.identity.digestInput ↔ (c.plan file).LookalikeAt tree i j := by
  rw [chunks_outline_eq htable] at hd he
  -- The later place is not the first, so its chunk is that of a declared node.
  obtain ⟨l, rfl⟩ : ∃ l, j = l + 1 := ⟨j - 1, by omega⟩
  rw [List.getElem?_cons_succ, List.getElem?_map, Option.map_eq_some_iff] at he
  rcases he with ⟨b, hb, rfl⟩
  cases i with
  | zero =>
      -- Nothing looks like the file.
      cases hd
      constructor
      · intro h
        exact absurd h (Plan.digestInput_ofFile_ne_chunkAt rfl rfl)
      · rintro ⟨k, _, _, _, hzero, _⟩
        cases hzero
  | succ k =>
      rw [List.getElem?_cons_succ, List.getElem?_map, Option.map_eq_some_iff] at hd
      rcases hd with ⟨a, ha, rfl⟩
      rw [Plan.digestInput_declaredIn_eq_iff hlaid (Nat.lt_of_succ_lt_succ hij) ha hb]
      constructor
      · intro h
        exact ⟨k, l, a, b, rfl, rfl, ha, hb, h⟩
      · -- Places determine the nodes.
        rintro ⟨k', l', a', b', hk, hl, ha', hb', h⟩
        cases hk
        cases hl
        rw [ha] at ha'
        rw [hb] at hb'
        cases ha'
        cases hb'
        exact h

/-- In an outline of a laid-out tree, the chunks at two places have the same digest input exactly
if the second looks like the first.  So if there is no place that looks like that of a chunk, its
digest identifies it, unless different digest inputs of the outline have the same digest. -/
theorem digestInput_eq_iff_lookalikeAt {tools : Toolchain} {poll : Option Poll} {s : Session}
    {o : Outline} (htable : c.table.IsAccepted)
    (hparses : s.engine.Parses tools c.table.grammar file.content tree)
    (hlaid : tree.IsLaidOut file.content) (h : ((c.chunk tools file poll).outcome s).1 = .ok o) :
    (∀ (i j : Nat) (d e : Chunk), i < j → o.chunks[i]? = some d → o.chunks[j]? = some e →
      (d.identity.digestInput = e.identity.digestInput ↔ (c.plan file).LookalikeAt tree i j)) ∧
    (o.HasClash ∨
      ∀ (i : Nat) (d : Chunk), o.chunks[i]? = some d →
        (∀ j, ¬ (c.plan file).LookalikeAt tree i j ∧ ¬ (c.plan file).LookalikeAt tree j i) →
          o.IdentifiesAt i d) := by
  have hpairs : ∀ (i j : Nat) (d e : Chunk), i < j → o.chunks[i]? = some d →
      o.chunks[j]? = some e →
        (d.identity.digestInput = e.identity.digestInput ↔
          (c.plan file).LookalikeAt tree i j) := by
    rcases of_outcome_chunk_eq_ok (Prod.ext h rfl) with ⟨_, rfl⟩ | ⟨_, tree', hparses', rfl⟩
    · -- A blank file has no chunks.
      intro i j d e _ hd
      simp at hd
    · have htree := hparses.tree_eq hparses'
      subst htree
      intro i j d e hij hd he
      exact digestInput_outline_eq_iff htable hlaid hij hd he
  refine ⟨hpairs, ?_⟩
  by_cases hclash : o.HasClash
  · exact .inl hclash
  · refine .inr fun i d hd halone => ?_
    -- A chunk with the same input would look like this one, whichever of the two comes first.
    have hother : ∀ (j : Nat) (e : Chunk), j ≠ i → o.chunks[j]? = some e →
        e.identity.digestInput ≠ d.identity.digestInput := by
      intro j e hj he hsame
      rcases Nat.lt_or_gt_of_ne hj with hlt | hgt
      · exact (halone j).2 ((hpairs j i e d hlt he hd).1 hsame)
      · exact (halone j).1 ((hpairs i j d e hgt hd he).1 hsame.symm)
    exact (Outline.hasClash_or_identifiesAt hd hother).resolve_left hclash

end TableChunker

/-! ## A line of lookalikes -/

namespace Lookalikes

/-- Two functions of one name on one line, and a class that is given as a value inside a class of
its name. -/
def file : SourceFile where
  path := "a.js"
  content := utf8Bytes "function f(){1} function f(){2} class A{x=class A{}}\n"

def tree : SyntaxNode :=
  let node (type : String) (start stop : Nat) (field : Option String) (cs : List SyntaxNode) :=
    SyntaxNode.node type ⟨start, stop, 0, 0⟩ field cs
  let function (start : Nat) :=
    node "function_declaration" start (start + 15) none
      [node "identifier" (start + 9) (start + 10) (some "name") [],
        node "formal_parameters" (start + 10) (start + 12) (some "parameters") [],
        node "statement_block" (start + 12) (start + 15) (some "body")
          [node "number" (start + 13) (start + 14) none []]]
  let inner :=
    node "class" 42 51 (some "value")
      [node "identifier" 48 49 (some "name") [], node "class_body" 49 51 (some "body") []]
  let outer :=
    node "class_declaration" 32 52 none
      [node "identifier" 38 39 (some "name") [],
        node "class_body" 39 52 (some "body")
          [node "field_definition" 40 51 (some "member")
            [node "property_identifier" 40 41 (some "property") [], inner]]]
  .node "program" ⟨0, 53, 0, 1⟩ none [function 0, function 16, outer]

def chunker : TableChunker := { table := .javascript }

def outline : Outline := chunker.outline file tree

theorem isAccepted : chunker.table.IsAccepted :=
  LanguageTable.isAccepted_of_mem_packaged (t := .javascript) (by decide)

theorem isLaidOut : tree.IsLaidOut file.content := by decide +kernel

theorem outcome_chunk : ((chunker.chunk (.answering tree) file none).outcome {}).1 = .ok outline := by
  have hblank : file.content.isBlank = false := by decide
  have hparses := Engine.parses_answering chunker.table.grammar file.content tree
  rw [TableChunker.outcome_chunk hblank hparses, outline]

/-- The chunks of the file differ in what they contain. -/
theorem pairwise_content_ne : outline.chunks.Pairwise fun c d => c.content ≠ d.content := by
  have hnodup : (outline.chunks.map Chunk.content).Nodup := by decide +kernel
  exact List.pairwise_map.1 hnodup

/-- The two functions have the same digest input, and so have the two classes.  The second of them
is not found by its digest. -/
theorem get?_ne_some_at : ∀ place ∈ [(1, 2), (3, 4)], ∃ d e,
    outline.chunks[place.1]? = some d ∧ outline.chunks[place.2]? = some e ∧
      d.identity.digestInput = e.identity.digestInput ∧ outline.get? e.id ≠ some e := by
  intro place hplace
  simp only [List.mem_cons, List.not_mem_nil, or_false] at hplace
  rcases hplace with rfl | rfl
  · exact Outline.exists_get?_ne_some pairwise_content_ne (by decide) (by decide +kernel)
      (by decide +kernel)
  · exact Outline.exists_get?_ne_some pairwise_content_ne (by decide) (by decide +kernel)
      (by decide +kernel)

/-- The tree is laid out, and yet there are chunks with the same digest input. -/
theorem digestInputs_collide :
    chunker.table.IsAccepted ∧ tree.IsLaidOut file.content ∧
      ((chunker.chunk (.answering tree) file none).outcome {}).1 = .ok outline ∧
      ∀ place ∈ [(1, 2), (3, 4)], ∃ d e,
        outline.chunks[place.1]? = some d ∧ outline.chunks[place.2]? = some e ∧
          d.identity.digestInput = e.identity.digestInput ∧ outline.get? e.id ≠ some e :=
  ⟨isAccepted, isLaidOut, outcome_chunk, get?_ne_some_at⟩

theorem lookalikeAt_same :
    chunker.table.IsAccepted ∧
      ({} : Engine).Parses (.answering tree) chunker.table.grammar file.content tree ∧
      tree.IsLaidOut file.content ∧
      ((chunker.chunk (.answering tree) file none).outcome {}).1 = .ok outline ∧
      (chunker.plan file).LookalikeAt tree 1 2 ∧ (chunker.plan file).LookalikeAt tree 3 4 ∧
      ¬ (chunker.plan file).LookalikeAt tree 2 3 ∧
      (outline.HasClash ∨ outline.IdentifiesAt 0 (Chunk.ofFile file "javascript")) := by
  have hparses := Engine.parses_answering chunker.table.grammar file.content tree
  have hmain := TableChunker.digestInput_eq_iff_lookalikeAt isAccepted hparses isLaidOut outcome_chunk
  rcases get?_ne_some_at (1, 2) (by simp) with ⟨f, g, hf, hg, hfg, _⟩
  rcases get?_ne_some_at (3, 4) (by simp) with ⟨a, b, ha, hb, hab, _⟩
  -- The second function and the outer class are told apart.
  have hdiffer : g.identity.digestInput ≠ a.identity.digestInput := by
    intro h
    have hinputs : (outline.chunks[2]?.map fun c => c.identity.digestInput) ≠
        outline.chunks[3]?.map fun c => c.identity.digestInput := by decide +kernel
    rw [hg, ha] at hinputs
    exact hinputs (congrArg some h)
  have hfile : ∀ j, ¬ (chunker.plan file).LookalikeAt tree 0 j ∧
      ¬ (chunker.plan file).LookalikeAt tree j 0 := by
    intro j
    constructor
    · rintro ⟨k, l, a, b, hk, _⟩
      cases hk
    · rintro ⟨k, l, a, b, _, hl, _⟩
      cases hl
  exact ⟨isAccepted, hparses, isLaidOut, outcome_chunk,
    (hmain.1 1 2 f g (by decide) hf hg).1 hfg, (hmain.1 3 4 a b (by decide) ha hb).1 hab,
    fun h => hdiffer ((hmain.1 2 3 g a (by decide) hg ha).2 h),
    hmain.2.imp_right fun hidentifies => hidentifies 0 _ rfl hfile⟩

end Lookalikes

end SourceOutline
