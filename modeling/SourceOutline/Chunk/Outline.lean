import SourceOutline.Chunk.Basic
import SourceOutline.SourceFile

/-!
# Outline — the chunks of one file

An outline lists the chunks of a file in source order.  Chunks refer to their parents by digest, so
the list is a forest only if every reference resolves and exactly one chunk stands for the file.
-/

namespace SourceOutline

structure Outline where
  file : SourceFile
  chunks : List Chunk := []
  errors : List String := []

namespace Outline

/-! ## Readers -/

def fileChunk? (o : Outline) : Option Chunk :=
  o.chunks.find? Chunk.isFile

def byLevel (o : Outline) (level : Level) : List Chunk :=
  o.chunks.filter fun c => c.level == level

/-- The chunks whose parent has a digest; without a digest, those without a parent. -/
def childrenOf (o : Outline) (id : Option String) : List Chunk :=
  o.chunks.filter fun c => c.parentId == id

def get? (o : Outline) (id : String) : Option Chunk :=
  o.chunks.find? fun c => c.id == id

/-! ## Changes -/

def add (o : Outline) (c : Chunk) : Outline :=
  { o with chunks := o.chunks ++ [c] }

def eraseAt (o : Outline) (position : Nat) : Outline :=
  { o with chunks := o.chunks.eraseIdx position }

/-! ## Hierarchy -/

/-- What is wrong with the parent of a chunk that does not stand for the file, when the digests of
all chunks are known. -/
def parentProblem? (known : List String) (c : Chunk) : Option String :=
  if c.isFile then none
  else
    let what := c.level.name ++ " chunk " ++ c.name.quoted
    match c.parentId with
    | none => some (what ++ " has no parent")
    | some id => if known.contains id then none else some (what ++ " has unknown parent " ++ id)

/-- What keeps the chunks from being a forest with one root.  No chunks at all are fine. -/
def problems (o : Outline) : List String :=
  if o.chunks.isEmpty then []
  else
    let roots := o.chunks.filter Chunk.isFile
    let known := o.chunks.map Chunk.id
    (if roots.length = 1 then []
      else ["expected exactly one file chunk, found " ++ toString roots.length]) ++
      (roots.filter fun c => c.parentId.isSome).map (fun c => "file chunk " ++ c.id ++
        " has a parent") ++
      o.chunks.filterMap (parentProblem? known)

end Outline

end SourceOutline
