import SourceOutline.FileTree
import SourceOutline.SourceFile

/-!
# SourceListing — the files that paths stand for

A path to a file stands for that file.  A path to a directory stands for all files below it, apart
from those that are hidden or lie in a hidden directory, in the order of their paths, component by
component.
-/

namespace SourceOutline

structure Listing where
  path : FilePath
  contents : Contents
  modified : Number

def Listing.toSourceFile (l : Listing) : SourceFile where
  path := l.path.toString
  content := l.contents.toBytes
  lastModified := some (Timestamp.ofEpoch l.modified)

def isHidden (name : String) : Bool :=
  name.toList.head? == some '.'

def listing? (path : FilePath) (found : List String × FileTree) : Option Listing :=
  match found.2 with
  | .directory _ => none
  | .file contents modified =>
    if found.1.any isHidden then none
    else some { path := { path with parts := path.parts ++ found.1 }, contents, modified }

def FileTree.sourceFiles (path : FilePath) (t : FileTree) : List Listing :=
  (t.descendants.mergeSort fun a b => FilePath.partsBefore a.1 b.1).filterMap (listing? path)

namespace Workspace

def filesUnder (w : Workspace) (path : FilePath) : List Listing :=
  match w.find? path with
  | none => []
  | some (.file contents modified) => [{ path, contents, modified }]
  | some t@(.directory _) => t.sourceFiles path

def sourceFiles (w : Workspace) (paths : List FilePath) : List Listing :=
  paths.flatMap w.filesUnder

end Workspace

end SourceOutline
