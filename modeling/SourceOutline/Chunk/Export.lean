import SourceOutline.Chunk.Outline
import SourceOutline.Json

/-!
# Export — chunks for other programs

* `Chunk.toJson` — a chunk with its digests;
* `Outline.toJson` — a file with its chunks.
-/

namespace SourceOutline

def Chunk.toJson (c : Chunk) : Json :=
  .object
    [("id", .string c.id), ("file_path", .string c.path), ("start_line", .int c.startLine),
      ("end_line", .int c.endLine), ("level", .string c.level.name),
      ("language", .string c.language), ("name", .text c.name), ("signature", .text c.signature),
      ("parent_id", .string? c.parentId), ("content_hash", .string c.contentHash),
      ("last_modified", .string? (c.lastModified.map Timestamp.render)),
      ("content", .text c.content)]

def Outline.toJson (o : Outline) : Json :=
  .object
    [("path", .string o.file.path), ("language", .string o.file.language),
      ("chunks", .list (o.chunks.map Chunk.toJson)), ("errors", .strings o.errors)]

end SourceOutline
