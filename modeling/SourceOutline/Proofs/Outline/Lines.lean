import SourceOutline.Proofs.Outline.Hierarchy
import SourceOutline.Proofs.SyntaxTree.Layout
import SourceOutline.Proofs.Text.Newline

/-!
# Lines — chunks have as many lines as their line numbers say

The line numbers of a chunk come from rows, which a parser counts on bytes; its content is decoded
text, and the bytes of a node may be cut in the middle of a character.  Nothing is asked of the
bytes here, and of the tree only that rows are counted from byte positions.  The chunk of a file
does not depend on the tree.

* `Outline.lineCount_of_outcome` — the lines of all chunks that a chunker gives.
-/

namespace SourceOutline

/-! ## Counting -/

theorem length_splitOn_newline (source : Bytes) :
    (source.splitOn 10).length = countLines source := by
  unfold countLines
  induction source with
  | nil => rfl
  | cons byte rest ih =>
      rw [List.splitOn_cons_eq_if_modifyHead, List.count_cons]
      by_cases hnewline : byte = 10
      · simp [hnewline, ih]
      · simp [hnewline, ih]

theorem count_slice (source : Bytes) {start stop : Nat} (h : start ≤ stop) :
    newlinesBefore source start + (slice source start stop).count 10 =
      newlinesBefore source stop := by
  have hstart : (source.take stop).take start = source.take start := by
    rw [List.take_take, Nat.min_eq_left h]
  calc
    newlinesBefore source start + (slice source start stop).count 10
        = ((source.take stop).take start).count 10 + ((source.take stop).drop start).count 10 := by
          rw [hstart]
          rfl
    _ = ((source.take stop).take start ++ (source.take stop).drop start).count 10 :=
          List.count_append.symm
    _ = newlinesBefore source stop := by
          rw [List.take_append_drop]
          rfl

namespace SyntaxNode

structure HasCountedRows (n : SyntaxNode) (source : Bytes) : Prop where
  startRow_eq : n.span.startRow = newlinesBefore source n.span.startByte
  endRow_eq : n.span.endRow = newlinesBefore source n.span.endByte

instance (n : SyntaxNode) (source : Bytes) : Decidable (n.HasCountedRows source) :=
  decidable_of_iff (_ ∧ _) ⟨fun h => ⟨h.1, h.2⟩, fun h => ⟨h.startRow_eq, h.endRow_eq⟩⟩

def RowsAreCounted (tree : SyntaxNode) (source : Bytes) : Prop :=
  ∀ o ∈ tree.occurrences [], o.node.HasCountedRows source

instance (tree : SyntaxNode) (source : Bytes) : Decidable (tree.RowsAreCounted source) :=
  inferInstanceAs (Decidable (∀ o ∈ tree.occurrences [], _))

end SyntaxNode

/-! ## One chunk -/

theorem Plan.lineCount_chunkOf {p : Plan} {n : SyntaxNode} (hrows : n.HasCountedRows p.file.content)
    (hbytes : n.span.startByte ≤ n.span.endByte) (level : Level) (parentId : String) :
    (p.chunkOf level parentId n).lineCount =
      (p.chunkOf level parentId n).content.count CodePoint.newline + 1 := by
  have hslice := count_slice p.file.content hbytes
  have hdecoded : (p.chunkOf level parentId n).content.count CodePoint.newline =
      (slice p.file.content n.span.startByte n.span.endByte).count 10 := Utf8.count_decode _
  have hstart := hrows.startRow_eq
  have hend := hrows.endRow_eq
  have hlines : (p.chunkOf level parentId n).lineCount =
      n.span.endRow + 1 - (n.span.startRow + 1) + 1 := rfl
  rw [hlines, hdecoded]
  omega

theorem Chunk.lineCount_ofFile (file : SourceFile) (language : String) :
    (Chunk.ofFile file language).lineCount =
      (Chunk.ofFile file language).content.count CodePoint.newline + 1 := by
  have hdecoded : (Chunk.ofFile file language).content.count CodePoint.newline =
      file.content.count 10 := Utf8.count_decode _
  have hlines : (Chunk.ofFile file language).lineCount = (countLines file.content : Int) - 1 + 1 :=
    rfl
  rw [hlines, hdecoded, countLines]
  omega

theorem Chunk.endLine_ofFile (file : SourceFile) (language : String) :
    (Chunk.ofFile file language).endLine = (file.content.splitOn 10).length := by
  rw [length_splitOn_newline]
  rfl

/-! ## All chunks -/

section Outcomes

variable {tools : Toolchain} {chunker : Chunker} {file : SourceFile} {poll : Option Poll}
variable {s : Session} {o : Outline} {d : Chunk}

theorem Chunker.exists_eq_ofFile (h : ((chunker.chunk tools file poll).outcome s).1 = .ok o)
    (hd : d ∈ o.chunks) (hfile : d.isFile = true) :
    ∃ language, d = Chunk.ofFile file language := by
  rcases Chunker.eq_nil_or_isTwoLevel h with hempty | htwo
  · rw [hempty] at hd
    cases hd
  · rcases List.mem_iff_getElem?.1 hd with ⟨i, hi⟩
    cases i with
    | zero =>
        cases Chunker.gives_of_outcome h with
        | empty _ _ _ => cases hi
        | table c tree => exact ⟨c.language, (Option.some.inj hi).symm⟩
        | reference r levels tree o houtline =>
            rcases Reference.exists_chunks_of_outline houtline with ⟨found, -, rfl⟩
            exact ⟨r.language, (Option.some.inj hi).symm⟩
        | fallback language => exact ⟨language, (Option.some.inj hi).symm⟩
    | succ i =>
        -- Only the first chunk stands for the file.
        have hother := htwo.isFile_eq_false (Nat.succ_pos i) hi
        rw [hother] at hfile
        cases hfile

theorem TableChunker.lineCount_outline {c : TableChunker} {tree : SyntaxNode}
    (hrows : tree.RowsAreCounted file.content) (hd : d ∈ (c.outline file tree).chunks) :
    d.lineCount = d.content.count CodePoint.newline + 1 := by
  rcases List.mem_cons.1 hd with rfl | hunder
  · exact Chunk.lineCount_ofFile file c.language
  · rcases Plan.exists_chunkOf_of_mem_chunksUnder (p := c.plan file) [] hunder with
      ⟨a, ha, level, parentId, hwell, rfl⟩
    exact Plan.lineCount_chunkOf (p := c.plan file) (hrows a ha) hwell.bytes_le level parentId

/-- A chunk that stands for its file has all lines of the file, whatever the tree and whichever the
chunker.  If the rows of the tree are counted from its bytes, every chunk of a table-driven chunker
has one line more than its content has newlines. -/
theorem Outline.lineCount_of_outcome (h : ((chunker.chunk tools file poll).outcome s).1 = .ok o) :
    (∀ d ∈ o.chunks, d.isFile = true →
      d.lineCount = d.content.count CodePoint.newline + 1 ∧ d.startLine = 1 ∧
        d.endLine = (file.content.splitOn 10).length) ∧
    (∀ c tree, chunker = .table c → s.engine.Parses tools c.table.grammar file.content tree →
      tree.RowsAreCounted file.content →
        ∀ d ∈ o.chunks, d.lineCount = d.content.count CodePoint.newline + 1) := by
  constructor
  · intro d hd hfile
    rcases Chunker.exists_eq_ofFile h hd hfile with ⟨language, rfl⟩
    exact ⟨Chunk.lineCount_ofFile file language, rfl, Chunk.endLine_ofFile file language⟩
  · intro c tree hkind hparses hrows d hd
    subst hkind
    rcases TableChunker.of_outcome_chunk_eq_ok (Prod.ext h rfl) with
      ⟨_, rfl⟩ | ⟨_, tree', hparses', rfl⟩
    · -- A blank file has no chunks.
      cases hd
    · have htree := hparses.tree_eq hparses'
      subst htree
      exact TableChunker.lineCount_outline hrows hd

end Outcomes

/-! ## A node that ends inside a character -/

namespace CutCharacter

def file : SourceFile where
  path := "a.py"
  content := utf8Bytes "class A:\n  s = '" ++ [0xE2, 0x82] ++ utf8Bytes "'\n\xe9\nx\n"

/-- The class ends after the first byte of the letter. -/
def tree : SyntaxNode :=
  .node "module" ⟨0, 25, 0, 4⟩ none
    [.node "class_definition" ⟨0, 21, 0, 2⟩ none
      [.node "identifier" ⟨6, 7, 0, 0⟩ (some "name") []]]

def chunker : TableChunker := { table := .python }

theorem chunk_lines :
    (((Chunker.table chunker).chunk (.answering tree) file none).outcome {}).1 =
        .ok (chunker.outline file tree) ∧
      tree.RowsAreCounted file.content ∧
      (chunker.outline file tree).chunks.map Chunk.lineCount = [5, 3] ∧
      (∀ d ∈ (chunker.outline file tree).chunks, d.isFile = true → d.endLine = 5) ∧
      ∀ d ∈ (chunker.outline file tree).chunks,
        d.lineCount = d.content.count CodePoint.newline + 1 := by
  have hblank : file.content.isBlank = false := by decide
  have hparses := Engine.parses_answering chunker.table.grammar file.content tree
  have houtcome : (((Chunker.table chunker).chunk (.answering tree) file none).outcome {}).1 =
      .ok (chunker.outline file tree) := by
    rw [Chunker.chunk, TableChunker.outcome_chunk hblank hparses]
  have hrows : tree.RowsAreCounted file.content := by decide +kernel
  have hlines := Outline.lineCount_of_outcome houtcome
  refine ⟨houtcome, hrows, by decide +kernel, ?_, hlines.2 chunker tree rfl hparses hrows⟩
  intro d hd hfile
  have hfive : (file.content.splitOn 10).length = 5 := by decide +kernel
  rw [(hlines.1 d hd hfile).2.2, hfive]
  rfl

end CutCharacter

end SourceOutline
