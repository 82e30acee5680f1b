import Mathlib.Data.List.Forall2
import SourceOutline.Proofs.Chunker.Outcome
import SourceOutline.Proofs.SyntaxTree.Facing

/-!
# BodyEdit — an edit inside of bodies keeps the identities of chunks

Two states of a file are chunked with one table.  Their bytes, the byte positions in their trees and
the texts of their nodes may differ, but the lines are as many, and the nodes of one tree declare
what those of the other do.  Then the two walks go through the same decisions, and give chunks that
only their texts can tell apart.

* `TableChunker.outcomes_agree_of_edit` — the outcomes of chunking a file before and after an edit.
-/

namespace SourceOutline

/-! ## Chunks -/

structure Chunk.SameDeclaration (c d : Chunk) : Prop where
  id_eq : c.id = d.id
  parentId_eq : c.parentId = d.parentId
  level_eq : c.level = d.level
  name_eq : c.name = d.name
  language_eq : c.language = d.language
  startLine_eq : c.startLine = d.startLine
  endLine_eq : c.endLine = d.endLine

theorem Chunk.sameDeclaration_ofFile {file file' : SourceFile} (hpath : file.path = file'.path)
    (hlines : file.content.count 10 = file'.content.count 10) (language : String) :
    (Chunk.ofFile file language).SameDeclaration (Chunk.ofFile file' language) := by
  have hend : countLines file.content = countLines file'.content := by
    rw [countLines, countLines, hlines]
  have hname : Text.ofString file.path = Text.ofString file'.path := by rw [hpath]
  have hidentity : (Chunk.ofFile file language).identity =
      (Chunk.ofFile file' language).identity := by
    simp only [Chunk.identity, Chunk.ofFile, hpath, hend]
  refine ⟨congrArg Identity.id hidentity, rfl, rfl, hname, rfl, rfl, ?_⟩
  exact congrArg Int.ofNat hend

namespace Plan

/-! ## One node -/

/-- Two walks by one table over two states of a file. -/
structure Parallel (p q : Plan) : Prop where
  table_eq : p.table = q.table
  path_eq : p.file.path = q.file.path
  rootId_eq : p.root.id = q.root.id

/-- The chunks of two walks agree, and their contents are the texts of two nodes that face each
other. -/
def ChunksFace (p q : Plan) (pairs : List (SyntaxNode × SyntaxNode)) (c d : Chunk) : Prop :=
  c.SameDeclaration d ∧
    ∃ pair ∈ pairs, c.content = pair.1.text p.file.content ∧ d.content = pair.2.text q.file.content

variable {p q : Plan} {n m : SyntaxNode} {pairs : List (SyntaxNode × SyntaxNode)}

theorem sameDeclaration_chunkOf (hwalks : p.Parallel q)
    (h : SyntaxNode.KeepsDeclaration p.file.content q.file.content p.table.nameField n m)
    (level : Level) (parentId : String) :
    (p.chunkOf level parentId n).SameDeclaration (q.chunkOf level parentId m) := by
  have hname : n.nameText p.file.content p.table.nameField =
      m.nameText q.file.content q.table.nameField := by
    rw [h.nameText_eq, hwalks.table_eq]
  have hlanguage : p.table.language = q.table.language := by rw [hwalks.table_eq]
  have hidentity : (p.chunkOf level parentId n).identity =
      (q.chunkOf level parentId m).identity := by
    simp only [Chunk.identity, chunkOf, hwalks.path_eq, h.startRow_eq, h.endRow_eq, hlanguage, hname]
  exact ⟨congrArg Identity.id hidentity, rfl, rfl, hname, hlanguage,
    congrArg (· + 1) h.startRow_eq, congrArg (· + 1) h.endRow_eq⟩

theorem rel_chunk?_declare (hwalks : p.Parallel q)
    (h : SyntaxNode.KeepsDeclaration p.file.content q.file.content p.table.nameField n m)
    (hmem : (n, m) ∈ pairs) (level : Level) (parentId : String) :
    Option.Rel (p.ChunksFace q pairs) (p.declare n level parentId).chunk?
      (q.declare m level parentId).chunk? := by
  have hwell := h.isWellFormed_iff
  rw [chunk?_declare, chunk?_declare, ← hwalks.table_eq]
  by_cases hn : n.IsWellFormed p.file.content p.table.nameField
  · rw [if_pos hn, if_pos (hwell.1 hn)]
    exact Option.Rel.some
      ⟨sameDeclaration_chunkOf hwalks h level parentId, (n, m), hmem, rfl, rfl⟩
  · rw [if_neg hn, if_neg fun hm => hn (hwell.2 hm)]
    exact Option.Rel.none

theorem forall₂_toList_of_rel {c? d? : Option Chunk}
    (h : Option.Rel (p.ChunksFace q pairs) c? d?) :
    List.Forall₂ (p.ChunksFace q pairs) c?.toList d?.toList := by
  cases h with
  | some hface => exact List.Forall₂.cons hface List.Forall₂.nil
  | none => exact List.Forall₂.nil

theorem id_getD_eq_of_rel {c? d? : Option Chunk} {owner owner' : Chunk}
    (h : Option.Rel (p.ChunksFace q pairs) c? d?) (howner : owner.id = owner'.id) :
    (c?.getD owner).id = (d?.getD owner').id := by
  cases h with
  | some hface => exact hface.1.id_eq
  | none => exact howner

/-! ## Whole trees -/

theorem forall₂_flatMap_of_zip {α β γ δ : Type} {R : γ → δ → Prop} {as : List α} {bs : List β}
    {f : α → List γ} {g : β → List δ} (hlength : as.length = bs.length)
    (h : ∀ pair ∈ as.zip bs, List.Forall₂ R (f pair.1) (g pair.2)) :
    List.Forall₂ R (as.flatMap f) (bs.flatMap g) := by
  have hzip : List.Forall₂ (fun a b => (a, b) ∈ as.zip bs) as bs :=
    List.forall₂_iff_zip.2 ⟨hlength, id⟩
  exact List.rel_flatMap hzip fun a b hab => h (a, b) hab

/-- Two walks over trees that face each other give chunks that face each other, in order. -/
theorem forall₂_chunksUnder (hwalks : p.Parallel q) {owner owner' : Chunk}
    (howner : owner.id = owner'.id) (hsub : n.facing m ⊆ pairs)
    (hkeeps : ∀ pair ∈ pairs, SyntaxNode.KeepsDeclaration p.file.content q.file.content
      p.table.nameField pair.1 pair.2) :
    List.Forall₂ (p.ChunksFace q pairs) (p.chunksUnder owner n) (q.chunksUnder owner' m) := by
  induction n generalizing m owner owner' with
  | node n ih =>
      have hmem : (n, m) ∈ pairs := hsub (SyntaxNode.mem_facing_self n m)
      have hhere := hkeeps (n, m) hmem
      -- The children come in pairs, and below each pair the enclosing chunks have one digest.
      have hbelow : ∀ next next' : Chunk, next.id = next'.id →
          List.Forall₂ (p.ChunksFace q pairs) (n.children.flatMap (p.chunksUnder next))
            (m.children.flatMap (q.chunksUnder next')) := by
        intro next next' hnext
        apply forall₂_flatMap_of_zip hhere.length_children_eq
        intro pair hpair
        exact ih pair.1 (List.of_mem_zip hpair).1 hnext
          (List.Subset.trans (SyntaxNode.facing_subset_of_mem_zip hpair) hsub)
      have htype : n.type = m.type := hhere.type_eq
      rw [chunksUnder_eq, chunksUnder_eq, ← hwalks.table_eq, ← htype]
      by_cases hclass : p.table.isClass n.type = true
      · have hown := rel_chunk?_declare hwalks hhere hmem .classLike p.root.id
        rw [hwalks.rootId_eq] at hown
        rw [if_pos hclass, if_pos hclass, hwalks.rootId_eq]
        apply List.rel_append
        · exact forall₂_toList_of_rel hown
        · exact hbelow _ _ (id_getD_eq_of_rel hown howner)
      · rw [if_neg hclass, if_neg hclass]
        by_cases hmethod : p.table.isMethod n.type = true
        · have hown := rel_chunk?_declare hwalks hhere hmem .method owner.id
          rw [if_pos hmethod, if_pos hmethod, ← howner]
          exact forall₂_toList_of_rel hown
        · rw [if_neg hmethod, if_neg hmethod]
          exact hbelow owner owner' howner

end Plan

/-! ## Files -/

namespace TableChunker

/-- The texts of two files, and those of the nodes of their trees that face each other. -/
def facingTexts (file file' : SourceFile) (tree tree' : SyntaxNode) : List (Text × Text) :=
  (file.text, file'.text) ::
    (tree.facing tree').map fun pair => (pair.1.text file.content, pair.2.text file'.content)

variable {c : TableChunker} {tools tools' : Toolchain} {file file' : SourceFile}
variable {tree tree' : SyntaxNode} {s s' : Session}

theorem forall₂_outline (hpath : file.path = file'.path)
    (hlines : file.content.count 10 = file'.content.count 10)
    (hkeeps : tree.KeepsDeclarations file.content file'.content c.table.nameField tree') :
    List.Forall₂
      (fun d e => d.SameDeclaration e ∧ (d.content, e.content) ∈ facingTexts file file' tree tree')
      (c.outline file tree).chunks (c.outline file' tree').chunks := by
  have hroot := Chunk.sameDeclaration_ofFile hpath hlines c.language
  have hwalks : (c.plan file).Parallel (c.plan file') := ⟨rfl, hpath, hroot.id_eq⟩
  have hunder := Plan.forall₂_chunksUnder hwalks hroot.id_eq (List.Subset.refl _) hkeeps
  refine List.Forall₂.cons ⟨hroot, List.mem_cons_self⟩ (hunder.imp ?_)
  rintro d e ⟨hsame, pair, hpair, hd, he⟩
  refine ⟨hsame, List.mem_cons_of_mem _ (List.mem_map.2 ⟨pair, hpair, ?_⟩)⟩
  rw [hd, he]
  rfl

/-- Two states of a file are chunked, and the nodes of one tree declare what those of the other
do.  The chunks have the same identities, place by place.  At each place the contents are the
texts of the files or of two nodes that face each other, and their digests differ only if these
texts do. -/
theorem outcomes_agree_of_edit (hblank : file.content.isBlank = false)
    (hblank' : file'.content.isBlank = false) (hpath : file.path = file'.path)
    (hlines : file.content.count 10 = file'.content.count 10)
    (hparses : s.engine.Parses tools c.table.grammar file.content tree)
    (hparses' : s'.engine.Parses tools' c.table.grammar file'.content tree')
    (hkeeps : tree.KeepsDeclarations file.content file'.content c.table.nameField tree') :
    (∃ o o', ((c.chunk tools file none).outcome s).1 = .ok o ∧
      ((c.chunk tools' file' none).outcome s').1 = .ok o') ∧
    ∀ poll poll' o o', ((c.chunk tools file poll).outcome s).1 = .ok o →
      ((c.chunk tools' file' poll').outcome s').1 = .ok o' →
        o.chunks.length = o'.chunks.length ∧
        ∀ (i : Nat) (d e : Chunk), o.chunks[i]? = some d → o'.chunks[i]? = some e →
          d.SameDeclaration e ∧ (d.content, e.content) ∈ facingTexts file file' tree tree' ∧
            (d.contentHash ≠ e.contentHash → d.content ≠ e.content) := by
  constructor
  · exact ⟨_, _, congrArg Prod.fst (outcome_chunk hblank hparses),
      congrArg Prod.fst (outcome_chunk hblank' hparses')⟩
  · intro poll poll' o o' h h'
    -- With any polls there are the outlines of the two trees or none.
    have ho := eq_outline_of_outcome_chunk hblank hparses h
    have ho' := eq_outline_of_outcome_chunk hblank' hparses' h'
    subst ho ho'
    have houtlines := List.forall₂_iff_get.1 (forall₂_outline hpath hlines hkeeps)
    refine ⟨houtlines.1, ?_⟩
    intro i d e hd he
    rcases List.getElem?_eq_some_iff.1 hd with ⟨hi, rfl⟩
    rcases List.getElem?_eq_some_iff.1 he with ⟨hi', rfl⟩
    have hface := houtlines.2 i hi hi'
    refine ⟨hface.1, hface.2, ?_⟩
    intro hhash hcontent
    exact hhash (congrArg SourceOutline.contentHash hcontent)

end TableChunker

/-! ## A string in a method -/

namespace EditedString

def file (string : String) : SourceFile where
  path := "a.py"
  content := utf8Bytes ("class A:\n  def f(): '" ++ string ++ "'\n")

def tree (stop : Nat) : SyntaxNode :=
  let name (start : Nat) (row : Int) := SyntaxNode.node "identifier" ⟨start, start + 1, row, row⟩
    (some "name") []
  let method := SyntaxNode.node "function_definition" ⟨11, stop, 1, 1⟩ none
    [name 15 1, .node "string" ⟨20, stop, 1, 1⟩ (some "body") []]
  .node "module" ⟨0, stop + 1, 0, 2⟩ none
    [.node "class_definition" ⟨0, stop, 0, 1⟩ none [name 6 0, method]]

def chunker : TableChunker := { table := .python }

/-- A longer string in place of a short one changes the texts of all three chunks, and no
identity. -/
theorem chunks_agree :
    (file "a").content.isBlank = false ∧ (file "b\xe9").content.isBlank = false ∧
      (file "a").content.count 10 = (file "b\xe9").content.count 10 ∧
      (tree 23).KeepsDeclarations (file "a").content (file "b\xe9").content "name" (tree 25) ∧
      ∃ o o', ((chunker.chunk (.answering (tree 23)) (file "a") none).outcome {}).1 = .ok o ∧
        ((chunker.chunk (.answering (tree 25)) (file "b\xe9") none).outcome {}).1 = .ok o' ∧
        o.chunks.length = 3 ∧ o'.chunks.length = 3 ∧
        ∀ (i : Nat) (d e : Chunk), o.chunks[i]? = some d → o'.chunks[i]? = some e →
          d.SameDeclaration e ∧ d.content ≠ e.content := by
  have hblank : (file "a").content.isBlank = false := by decide
  have hblank' : (file "b\xe9").content.isBlank = false := by decide
  have hlines : (file "a").content.count 10 = (file "b\xe9").content.count 10 := by decide
  have hkeeps : (tree 23).KeepsDeclarations (file "a").content (file "b\xe9").content
      chunker.table.nameField (tree 25) := by decide +kernel
  have hparses := Engine.parses_answering chunker.table.grammar (file "a").content (tree 23)
  have hparses' : ({} : Session).engine.Parses (.answering (tree 25)) chunker.table.grammar
      (file "b\xe9").content (tree 25) := Engine.parses_answering _ _ _
  have hedit := TableChunker.outcomes_agree_of_edit (s := {}) hblank hblank' rfl hlines hparses
    hparses' hkeeps
  have houtcome := TableChunker.outcome_chunk (c := chunker) (s := {}) hblank hparses
  have houtcome' := TableChunker.outcome_chunk (c := chunker) (s := {}) hblank' hparses'
  have hcontents : List.Forall₂ (fun d e => d.content ≠ e.content)
      (chunker.outline (file "a") (tree 23)).chunks
      (chunker.outline (file "b\xe9") (tree 25)).chunks := by decide +kernel
  refine ⟨hblank, hblank', hlines, hkeeps, _, _, congrArg Prod.fst houtcome,
    congrArg Prod.fst houtcome', by decide +kernel, by decide +kernel, ?_⟩
  intro i d e hd he
  have hagree := (hedit.2 none none _ _ (congrArg Prod.fst houtcome)
    (congrArg Prod.fst houtcome')).2 i d e hd he
  refine ⟨hagree.1, ?_⟩
  rcases List.getElem?_eq_some_iff.1 hd with ⟨hi, rfl⟩
  rcases List.getElem?_eq_some_iff.1 he with ⟨hi', rfl⟩
  exact (List.forall₂_iff_get.1 hcontents).2 i hi hi'

end EditedString

end SourceOutline
