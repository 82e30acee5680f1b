import SourceOutline.Proofs.Chunker.Declared

/-!
# Validity — which chunks of an outline have something wrong with them

A file counts as blank when its bytes are ASCII white space; a chunk counts as blank when its text
is Unicode white space.  The second notion is wider.  Chunks of nodes are checked for it before they
are made, but the chunk of a file is made as soon as the bytes of the file are not blank.

* `Outline.problems_of_outcome` — the chunks that a chunker gives after parsing are valid;
* `NoBreakSpace.chunks_not_valid` — a file of one no-break space gives a chunk that is not.
-/

namespace SourceOutline

/-! ## Chunks -/

theorem Chunk.problems_of_lines {c : Chunk} (hpath : c.path ≠ "") (hstart : 1 ≤ c.startLine)
    (hend : c.startLine ≤ c.endLine) :
    c.problems = if c.content.isBlank then ["content is required"] else [] := by
  have hfirst : ¬ c.startLine < 1 := by omega
  have hlast : ¬ c.endLine < c.startLine := by omega
  simp [problems, hpath, hfirst, hlast]

theorem Chunk.problems_ofFile {file : SourceFile} (hpath : file.path ≠ "") (language : String) :
    (Chunk.ofFile file language).problems =
      if file.text.isBlank then ["content is required"] else [] := by
  -- A file has at least one line.
  have hend : (Chunk.ofFile file language).startLine ≤ (Chunk.ofFile file language).endLine := by
    simp only [Chunk.ofFile, countLines]
    omega
  exact Chunk.problems_of_lines hpath (Int.le_refl 1) hend

theorem Plan.problems_chunkOf {p : Plan} {n : SyntaxNode} (hpath : p.file.path ≠ "")
    (hwell : n.IsWellFormed p.file.content p.table.nameField) (level : Level)
    (parentId : String) : (p.chunkOf level parentId n).problems = [] := by
  have hrow := hwell.startRow_nonneg
  have hrows := hwell.rows_le
  have hstart : 1 ≤ (p.chunkOf level parentId n).startLine := by
    simp only [chunkOf]
    omega
  have hend : (p.chunkOf level parentId n).startLine ≤ (p.chunkOf level parentId n).endLine := by
    simp only [chunkOf]
    omega
  have hcontent : (p.chunkOf level parentId n).content.isBlank = false := hwell.not_blank
  rw [Chunk.problems_of_lines hpath hstart hend, hcontent]
  rfl

/-! ## Outlines -/

section Outcomes

variable {tools : Toolchain} {file : SourceFile} {poll : Option Poll} {s : Session} {o : Outline}

/-- If nothing is wrong with what was found below a file, only the chunk of the file can be
blank. -/
theorem Outline.problems_of_cons {language : String} {rest : List Chunk} (hpath : file.path ≠ "")
    (hrest : ∀ c ∈ rest, c.problems = []) {i : Nat} {c : Chunk}
    (hc : (Chunk.ofFile file language :: rest)[i]? = some c) :
    c.problems = if i = 0 ∧ file.text.isBlank then ["content is required"] else [] := by
  cases i with
  | zero =>
      cases hc
      simpa using Chunk.problems_ofFile hpath language
  | succ i =>
      have hmem : c ∈ rest := List.mem_of_getElem? (by simpa using hc)
      simpa using hrest c hmem

theorem TableChunker.problems_outline (c : TableChunker) (hpath : file.path ≠ "")
    (tree : SyntaxNode) {i : Nat} {d : Chunk} (hd : (c.outline file tree).chunks[i]? = some d) :
    d.problems = if i = 0 ∧ file.text.isBlank then ["content is required"] else [] := by
  refine Outline.problems_of_cons hpath ?_ hd
  intro e he
  rcases Plan.exists_chunkOf_of_mem_chunksUnder (p := c.plan file) [] he with
    ⟨m, _, level, parentId, hwell, rfl⟩
  exact Plan.problems_chunkOf hpath hwell level parentId

theorem Reference.problems_outline {r : Reference} (hpath : file.path ≠ "") {levels : Nat}
    {tree : SyntaxNode} (h : r.outline levels file tree = .ok o) {i : Nat} {d : Chunk}
    (hd : o.chunks[i]? = some d) :
    d.problems = if i = 0 ∧ file.text.isBlank then ["content is required"] else [] := by
  rcases Reference.exists_chunks_of_outline h with ⟨found, hfound, rfl⟩
  refine Outline.problems_of_cons hpath ?_ hd
  intro e he
  rcases Reference.exists_chunkOf_of_mem_chunks hfound he with ⟨m, level, parentId, hwell, rfl⟩
  exact Plan.problems_chunkOf (p := r.plan file) hpath hwell level parentId

/-- In an outline that a chunker gives after parsing, nothing is wrong with any chunk, except that
the chunk of the file is blank if its text is Unicode white space. -/
theorem Outline.problems_of_outcome {chunker : Chunker} (hparsing : chunker ≠ .fallback)
    (hpath : file.path ≠ "") (h : ((chunker.chunk tools file poll).outcome s).1 = .ok o) :
    ∀ i c, o.chunks[i]? = some c →
      c.problems = if i = 0 ∧ file.text.isBlank then ["content is required"] else [] := by
  intro i c hc
  cases Chunker.gives_of_outcome h with
  | empty _ _ _ => simp at hc
  | table t tree => exact t.problems_outline hpath tree hc
  | reference r levels tree o houtline => exact Reference.problems_outline hpath houtline hc
  | fallback _ => exact absurd rfl hparsing

end Outcomes

namespace NestedClass

theorem chunks_valid :
    Chunker.table chunker ≠ .fallback ∧ file.path ≠ "" ∧
      (((Chunker.table chunker).chunk (.answering tree) file none).outcome {}).1 =
        .ok (chunker.outline file tree) ∧
      (chunker.outline file tree).chunks.length = 3 ∧
      ∀ (i : Nat) (c : Chunk),
        (chunker.outline file tree).chunks[i]? = some c → c.problems = [] := by
  have hkind : Chunker.table chunker ≠ .fallback := by simp
  have hpath : file.path ≠ "" := by decide
  have hparses := Engine.parses_answering chunker.table.grammar file.content tree
  have houtcome : (((Chunker.table chunker).chunk (.answering tree) file none).outcome {}).1 =
      .ok (chunker.outline file tree) := by
    rw [Chunker.chunk, TableChunker.outcome_chunk content_not_blank hparses]
  have hlength : (chunker.outline file tree).chunks.length = 3 := by decide +kernel
  have htext : file.text.isBlank = false := by decide +kernel
  refine ⟨hkind, hpath, houtcome, hlength, ?_⟩
  intro i c hc
  have hproblems := Outline.problems_of_outcome hkind hpath houtcome i c hc
  simpa [htext] using hproblems

end NestedClass

/-! ## A file of one no-break space -/

namespace NoBreakSpace

/-- The bytes of the space are no ASCII white space. -/
def file : SourceFile where
  path := "a.py"
  content := [0xC2, 0xA0]

def tree : SyntaxNode := .leafOver "module" file.content

theorem content_not_blank : file.content.isBlank = false := by decide

theorem problems_ofFile (language : String) :
    (Chunk.ofFile file language).problems = ["content is required"] := by
  have htext : file.text.isBlank = true := by decide
  rw [Chunk.problems_ofFile (by decide), if_pos htext]

/-- Every chunker that parses gives the file a chunk whose content is blank, so the chunk is not
valid. -/
theorem chunks_not_valid :
    file.path ≠ "" ∧
      ∀ chunker ∈ [Chunker.table { table := .python }, .reference .python, .reference .go],
        ∃ o, ((chunker.chunk (.answering tree) file none).outcome {}).1 = .ok o ∧
          ¬ ∀ c ∈ o.chunks, Chunk.problems c = [] := by
  -- The chunk of the file comes first in each outline.
  have hfirst : ∀ {o : Outline} {language : String} {rest : List Chunk},
      o.chunks = Chunk.ofFile file language :: rest → ¬ ∀ c ∈ o.chunks, Chunk.problems c = [] := by
    intro o language rest hchunks hvalid
    have hfile := hvalid (Chunk.ofFile file language) (by rw [hchunks]; exact List.mem_cons_self)
    rw [problems_ofFile] at hfile
    cases hfile
  refine ⟨by decide, ?_⟩
  intro chunker hmem
  simp only [List.mem_cons, List.not_mem_nil, or_false] at hmem
  rcases hmem with rfl | rfl | rfl
  · have hparses := Engine.parses_answering LanguageTable.python.grammar file.content tree
    refine ⟨TableChunker.outline { table := .python } file tree, ?_, hfirst rfl⟩
    rw [Chunker.chunk, TableChunker.outcome_chunk content_not_blank hparses]
  · have hparses := Engine.parses_answering "python" file.content tree
    refine ⟨{ file, chunks := [Chunk.ofFile file "python"] }, ?_, hfirst rfl⟩
    rw [Chunker.chunk, Reference.outcome_chunk content_not_blank hparses]
    rfl
  · have hparses := Engine.parses_answering "go" file.content tree
    refine ⟨{ file, chunks := [Chunk.ofFile file "go"] }, ?_, hfirst rfl⟩
    rw [Chunker.chunk, Reference.outcome_chunk content_not_blank hparses]
    rfl

end NoBreakSpace

end SourceOutline
