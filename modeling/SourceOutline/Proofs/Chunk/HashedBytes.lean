import SourceOutline.Chunk.Extraction
import SourceOutline.Proofs.Text.Utf8
import SourceOutline.Proofs.Text.WellFormed

/-!
# HashedBytes — the bytes over which the digest of a content is taken

A chunk keeps the decoded text of a file or of a node, and its content digest is taken over the byte
form of that text.  These are the bytes of the file or the node again if they are well-formed, and
other bytes if they are not, so the digest stands for well-formed contents themselves.

* `Chunk.hashedBytes_eq_iff` — when the bytes that are hashed are those of the file.
-/

namespace SourceOutline

namespace Chunk

/-- The bytes over which the digest of a chunk's content is taken. -/
def hashedBytes (c : Chunk) : Bytes :=
  Utf8.encode c.content

/-- A chunk was made for the bytes of a file, or for those that a node of its tree covers. -/
inductive IsMadeFor : Chunk → Bytes → Prop
  | file (file : SourceFile) (language : String) : IsMadeFor (ofFile file language) file.content
  | node {n : SyntaxNode} {file : SourceFile} {level : Level} {name : Text}
      {parentId language : String} {c : Chunk}
      (h : ofNode? n file level name parentId language = some c) :
      IsMadeFor c (slice file.content n.span.startByte n.span.endByte)

variable {c d : Chunk} {bs cs : Bytes}

theorem content_of_ofNode? {n : SyntaxNode} {file : SourceFile} {level : Level} {name : Text}
    {parentId language : String} (h : ofNode? n file level name parentId language = some c) :
    c.content = n.text file.content := by
  unfold ofNode? at h
  split at h
  · cases h
  · dsimp only at h
    split at h
    · cases h
    · cases h
      rfl

/-- The content of a chunk is what the bytes decode to, and nothing of it is lost. -/
theorem IsMadeFor.content_eq (h : c.IsMadeFor bs) : c.content = Utf8.decode bs := by
  cases h with
  | file file language => rfl
  | node h => exact content_of_ofNode? h

theorem IsMadeFor.hashedBytes_eq (h : c.IsMadeFor bs) :
    c.hashedBytes = Utf8.encode (Utf8.decode bs) := by
  rw [hashedBytes, h.content_eq]

/-- The digest of a content is taken over the bytes that the chunk was made for exactly if these are
well-formed.  So of two chunks with different well-formed bytes different bytes are hashed, and of a
chunk with malformed bytes others than its own. -/
theorem hashedBytes_eq_iff (h : c.IsMadeFor bs) :
    c.contentHash = fingerprint c.hashedBytes ∧
      (c.hashedBytes = bs ↔ Utf8.IsWellFormed bs) ∧
      (Utf8.IsWellFormed bs → ∀ {d : Chunk} {cs : Bytes}, d.IsMadeFor cs →
        Utf8.IsWellFormed cs → bs ≠ cs → c.hashedBytes ≠ d.hashedBytes) := by
  have hsame : ∀ {d : Chunk} {cs : Bytes}, d.IsMadeFor cs →
      (d.hashedBytes = cs ↔ Utf8.IsWellFormed cs) := by
    intro d cs hd
    rw [hd.hashedBytes_eq]
    exact Utf8.encode_decode_eq_iff
  refine ⟨rfl, hsame h, ?_⟩
  intro hbs d cs hd hcs hne heq
  rw [(hsame h).2 hbs, (hsame hd).2 hcs] at heq
  exact hne heq

end Chunk

/-! ## A node that cuts a letter -/

namespace CutLetter

/-- A file that holds a letter of two bytes and a newline. -/
def file : SourceFile where
  path := "a.py"
  content := [0xC3, 0xA9, 0x0A]

/-- A node that covers the bytes up to an end. -/
def node (stop : Nat) : SyntaxNode :=
  .node "function_definition" ⟨0, stop, 0, 0⟩ none []

def chunk? (stop : Nat) : Option Chunk :=
  Chunk.ofNode? (node stop) file .method (Text.ofString "f") "" "python"

/-- The bytes of the letter are hashed as they are, and so are those of the file, which differ.  In
place of the first byte of the letter those of the replacement are hashed. -/
theorem hashedBytes_of_cut :
    ∃ whole part, chunk? 2 = some whole ∧ chunk? 1 = some part ∧
      whole.hashedBytes = [0xC3, 0xA9] ∧
      whole.hashedBytes ≠ (Chunk.ofFile file "python").hashedBytes ∧
      part.hashedBytes = [0xEF, 0xBF, 0xBD] ∧ ¬ Utf8.IsWellFormed [0xC3] := by
  obtain ⟨whole, hwhole⟩ : ∃ c, chunk? 2 = some c := Option.isSome_iff_exists.1 (by decide)
  obtain ⟨part, hpart⟩ : ∃ c, chunk? 1 = some c := Option.isSome_iff_exists.1 (by decide)
  have hletter : Utf8.IsCharacter [0xC3, 0xA9] :=
    .two (by decide) (by decide) ⟨by decide, by decide⟩
  have hwell : Utf8.IsWellFormed [0xC3, 0xA9] := .append hletter .nil
  have hfile : Utf8.IsWellFormed file.content :=
    .append hletter (.append (.one (by decide)) .nil)
  have hall := Chunk.hashedBytes_eq_iff (Chunk.IsMadeFor.node hwhole)
  have hcut : part.hashedBytes = [0xEF, 0xBF, 0xBD] := by
    rw [(Chunk.IsMadeFor.node hpart).hashedBytes_eq]
    decide
  refine ⟨whole, part, hwhole, hpart, hall.2.1.2 hwell,
    hall.2.2 hwell (Chunk.IsMadeFor.file file "python") hfile (by decide), hcut, ?_⟩
  intro hbroken
  have hsame := (Chunk.hashedBytes_eq_iff (Chunk.IsMadeFor.node hpart)).2.1.2 hbroken
  rw [hcut] at hsame
  exact absurd hsame (by decide)

end CutLetter

end SourceOutline
