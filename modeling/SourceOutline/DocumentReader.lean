import SourceOutline.Config.Basic
import SourceOutline.Contents
import SourceOutline.LanguageTable.Document
import SourceOutline.Text.Utf16
import SourceOutline.Yaml.Reader

/-!
# DocumentReader — how documents are read

Documents are read by a library that is not part of this one, so nothing is said about it here but
the form of its answers.  Most documents are values.  Some hold objects that are none, such as sets,
raw bytes, or a mapping that contains itself; what the checks of tables and of settings make of such
objects comes with the answer.
-/

namespace SourceOutline

/-- A document with objects that are no values.  An empty list of faults says that it is no map. -/
structure ForeignDocument where
  table : Except (List LocatedFault) WrittenTable
  settings : Environment → FilePath → Except Failure Config

inductive Document where
  | value (v : Value)
  | foreign (d : ForeignDocument)

structure DocumentReader where
  /-- The document in a text. -/
  ofText : Text → Except Yaml.DocumentFault Document
  /-- The document in bytes, which may say themselves what form of text they are. -/
  ofBytes : Bytes → Except Yaml.DocumentFault Document
  /-- The document in a file in UTF-8, of which no more is read than what the reader needs. -/
  ofFile : Bytes → Except Yaml.DocumentFault Document

namespace DocumentReader

def readPlain (t : Text) : Except Yaml.DocumentFault Document :=
  (Yaml.read (t.map CodePoint.toChar)).map .value

/-- Reads documents without anchors, tags, block scalars, directives and complex keys, and takes all
others for broken ones. -/
def plain : DocumentReader where
  ofText := readPlain
  ofBytes b :=
    let t :=
      match Utf16.ByteOrder.ofMark? b with
      | some order => Utf16.decode? order b
      | none => Utf8.decode? b
    match t with
    | none => .error .brokenRule
    | some t => readPlain t
  ofFile b :=
    match Utf8.decode? b with
    | none => .error (.raised .notUtf8)
    | some t => readPlain t

end DocumentReader

namespace Contents

variable (d : DocumentReader)

/-- The document in a file that is read as a text first.  Here and below, a file that was written
from a document reads back as that document. -/
def readText : Contents → Except Yaml.DocumentFault Document
  | document v => .ok (.value v)
  | bytes b =>
    match Utf8.decode? b with
    | none => .error (.raised .notUtf8)
    | some t => d.ofText t

def readFile : Contents → Except Yaml.DocumentFault Document
  | document v => .ok (.value v)
  | bytes b => d.ofFile b

def readMarked : Contents → Except Yaml.DocumentFault Document
  | document v => .ok (.value v)
  | bytes b => d.ofBytes b

end Contents

/-- The failure of a document that could not be read.  What a broken document stands for is given;
whatever else stopped the reader is not looked out for. -/
def Failure.ofUnread (broken : Failure) : Yaml.DocumentFault → Failure
  | .brokenRule => broken
  | .raised why => .fault why

end SourceOutline
