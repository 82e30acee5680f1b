import SourceOutline.FilePath
import SourceOutline.Timestamp
import SourceOutline.Text.Blank
import SourceOutline.Text.Utf8

/-!
# SourceFile — a file that is to be split into chunks
-/

namespace SourceOutline

/-- A file: its path as given, its bytes, its language if known, and its last change if known. -/
structure SourceFile where
  path : String
  content : Bytes
  language : String := ""
  lastModified : Option Timestamp := none

namespace SourceFile

def extension (f : SourceFile) : String :=
  fileExtension f.path

def withLanguage (f : SourceFile) (language : String) : SourceFile :=
  { f with language }

def text (f : SourceFile) : Text :=
  Utf8.decode f.content

end SourceFile

end SourceOutline
