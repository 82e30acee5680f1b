import SourceOutline.Digest.Sha256
import SourceOutline.Failure.Basic
import SourceOutline.Text.Blank
import SourceOutline.Text.Utf8
import SourceOutline.Timestamp

/-!
# Chunk — a named range of lines of a file

A chunk stands for a file, a class or a method.  It is identified by a digest of its place and name,
which does not depend on its content; a second digest tells contents apart.
-/

namespace SourceOutline

/-! ## Levels -/

inductive Level where
  | file
  | classLike
  | method
  deriving DecidableEq

namespace Level

def name : Level → String
  | file => "file"
  | classLike => "class"
  | method => "method"

def ofName? : String → Option Level
  | "file" => some file
  | "class" => some classLike
  | "method" => some method
  | _ => none

end Level

/-! ## Identity -/

/-- What identifies a chunk: its file, its first and last line, its level, its language and its
name. -/
structure Identity where
  path : Text
  startLine : Int
  endLine : Int
  level : Text
  language : Text
  name : Text
  deriving DecidableEq

namespace Identity

/-- The separator between the parts of an identity, the information separator one. -/
def separator : CodePoint := ⟨0x1F, by decide⟩

def joinParts : List Text → Text
  | [] => []
  | [t] => t
  | t :: rest => t ++ separator :: joinParts rest

/-- The parts of an identity in order; lines are written in decimal. -/
def parts (i : Identity) : List Text :=
  [i.path, Text.ofString (toString i.startLine), Text.ofString (toString i.endLine), i.level,
    i.language, i.name]

/-- The bytes over which the digest of an identity is taken. -/
def digestInput (i : Identity) : Bytes :=
  Utf8.encode (joinParts i.parts)

def id (i : Identity) : String :=
  fingerprint i.digestInput

end Identity

def contentHash (content : Text) : String :=
  fingerprint (Utf8.encode content)

/-! ## Chunks -/

/-- A named range of lines of a file.  Lines are counted from one. -/
structure Chunk where
  path : String
  startLine : Int
  endLine : Int
  level : Level
  language : String
  content : Text
  name : Text
  signature : Text := []
  parentId : Option String := none
  lastModified : Option Timestamp := none
  deriving DecidableEq

namespace Chunk

def identity (c : Chunk) : Identity where
  path := Text.ofString c.path
  startLine := c.startLine
  endLine := c.endLine
  level := Text.ofString c.level.name
  language := Text.ofString c.language
  name := c.name

def id (c : Chunk) : String :=
  c.identity.id

def contentHash (c : Chunk) : String :=
  SourceOutline.contentHash c.content

def lineCount (c : Chunk) : Int :=
  c.endLine - c.startLine + 1

def problems (c : Chunk) : List String :=
  (if c.path = "" then ["file path is required"] else []) ++
    (if c.startLine < 1 then ["start line must be >= 1"] else []) ++
    (if c.endLine < c.startLine then ["end line must be >= start line"] else []) ++
    (if c.content.isBlank then ["content is required"] else [])

def isValid (c : Chunk) : Bool :=
  c.problems.isEmpty

def isFile (c : Chunk) : Bool :=
  c.level == .file

end Chunk

end SourceOutline
