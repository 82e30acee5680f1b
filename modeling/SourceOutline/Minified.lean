import SourceOutline.FilePath
import SourceOutline.Text.CodePoint
import SourceOutline.Value.Number

/-!
# Minified — files that were generated

Generated files have long lines and little white space, so their chunks are of no use.  A file is
recognised by its name or by its content.
-/

namespace SourceOutline

structure Thresholds where
  maxAvgLineLength : Number := .int 500
  maxSingleLineSize : Number := .int 10240
  minWhitespaceRatio : Number := .float (Double.ofRatio false 1 20)
  minSizeForWhitespaceCheck : Number := .int 1024
  deriving DecidableEq

/-! ## Names -/

def occursIn (part : List Char) : List Char → Bool
  | [] => part.isEmpty
  | c :: rest => part.isPrefixOf (c :: rest) || occursIn part rest

def hasMinToken (path : String) : Bool :=
  occursIn ".min.".toList (lowerCase path).toList

/-- What stands before the extension in the names of generated files. -/
def generatedMarkers : List String := [".min", ".bundle"]

/-- The extensions of files that are generated for the web. -/
def generatedExtensions : List String := [".js", ".mjs", ".cjs", ".css", ".ts"]

/-- Whether a name is longer than a suffix and ends in it. -/
def endsAfter (stem marker : List Char) : Bool :=
  marker.reverse.isPrefixOf stem.reverse && marker.length < stem.length

def isMarked (name ext : List Char) : Bool :=
  ext.reverse.isPrefixOf name.reverse &&
    let stem := name.take (name.length - ext.length)
    generatedMarkers.any fun marker => endsAfter stem marker.toList

/-- Whether the last component of a path is the name of a minified or bundled file. -/
def hasMinifiedName (path : String) : Bool :=
  let name := (lowerCase (FilePath.ofString path).name).toList
  generatedExtensions.any fun ext => isMarked name ext.toList

/-! ## Contents -/

/-- Puts a byte in front of pieces: a newline opens a new piece, any other byte joins the first. -/
def joinPiece (b : UInt8) (pieces : List Bytes) : List Bytes :=
  if b = 10 then [] :: pieces
  else
    match pieces with
    | [] => [[b]]
    | line :: lines => (b :: line) :: lines

def splitLines (content : Bytes) : List Bytes :=
  content.foldr joinPiece [[]]

def contentLines (content : Bytes) : List Bytes :=
  let pieces := splitLines content
  match pieces.getLast? with
  | some [] => if 1 < pieces.length then pieces.dropLast else pieces
  | _ => pieces

def longestLine (lines : List Bytes) : Nat :=
  lines.foldl (fun n line => max n line.length) 0

def isVisibleBlank (b : UInt8) : Bool :=
  b == 32 || b == 9 || b == 10 || b == 13

namespace Thresholds

/-- Whether a content exceeds a limit: its lines are long on average, one line is huge, or the
content is large and there is little white space in it. -/
def exceeded (t : Thresholds) (content : Bytes) : Bool :=
  let size := content.length
  let lines := contentLines content
  let average := Double.ofRatio false size (max 1 lines.length)
  let ratio := Double.ofRatio false (content.countP isVisibleBlank) size
  t.maxAvgLineLength.lt (.float average) ||
    t.maxSingleLineSize.lt (.int (longestLine lines)) ||
    (t.minSizeForWhitespaceCheck.le (.int size) && Number.lt (.float ratio) t.minWhitespaceRatio)

/-- Whether a file was generated.  An empty file is not, and neither is one without a path. -/
def isMinified (t : Thresholds) (content : Bytes) (path : String) : Bool :=
  if content.isEmpty || path == "" then false
  else hasMinToken path || hasMinifiedName path || t.exceeded content

end Thresholds

end SourceOutline
