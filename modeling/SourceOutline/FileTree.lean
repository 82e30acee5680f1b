import SourceOutline.Contents
import SourceOutline.Entries
import SourceOutline.FilePath
import SourceOutline.Failure.Basic

/-!
# FileTree — files and directories

* `FileTree` — a file, or a directory with named entries;
* `FileTree.follow`, `FileTree.descendants` — what a path leads to, and all that lies below;
* `FileTree.ensure`, `FileTree.place` — directories and files that are made;
* `Workspace` — all files, together with the path of the working directory.
-/

namespace SourceOutline

/-- A file with the time of its last change in seconds, or a directory. -/
inductive FileTree where
  | file (contents : Contents) (modified : Number)
  | directory (entries : List (String × FileTree))

namespace FileTree

instance : Inhabited FileTree := ⟨directory []⟩

/-! ## Looking up -/

def isFile : FileTree → Bool
  | file _ _ => true
  | directory _ => false

def isDirectory (t : FileTree) : Bool :=
  !t.isFile

def entries : FileTree → List (String × FileTree)
  | file _ _ => []
  | directory es => es

def entry? (t : FileTree) (name : String) : Option FileTree :=
  t.entries.lookup name

/-- What components lead to from `here`, where `above` are the directories on the way, nearest
first.  The directory above the top is the top. -/
def follow (above : List FileTree) (here : FileTree) : List String → Except Fault FileTree
  | [] => .ok here
  | name :: rest =>
    if here.isFile then .error .notADirectory
    else if name = ".." then
      match above with
      | [] => follow [] here rest
      | up :: further => follow further up rest
    else
      match here.entry? name with
      | none => .error .missing
      | some next => follow (here :: above) next rest

def get? (t : FileTree) : List String → Option FileTree
  | [] => some t
  | name :: rest =>
    match t.entry? name with
    | none => none
    | some next => next.get? rest

mutual

def descendants : FileTree → List (List String × FileTree)
  | file _ _ => []
  | directory es => descendantsOf es

def descendantsOf : List (String × FileTree) → List (List String × FileTree)
  | [] => []
  | (name, t) :: rest =>
    ([name], t) :: (t.descendants.map fun d => (name :: d.1, d.2)) ++ descendantsOf rest

end

/-! ## Making files -/

def place (t leaf : FileTree) : List String → FileTree
  | [] => leaf
  | name :: rest =>
    directory
      (putEntry name (((t.entry? name).getD (directory [])).place leaf rest) t.entries)

/-- Makes the directories that components name, after those in `made`.  A file in the way is a
fault, which says whether it stands in the last place. -/
def ensure (t : FileTree) (made : List String) : List String → Except Fault (FileTree × List String)
  | [] => .ok (t, made)
  | ".." :: rest => ensure t made.dropLast rest
  | name :: rest =>
    let here := made ++ [name]
    match t.get? here with
    | some (file _ _) => .error (if rest.isEmpty then .alreadyExists else .notADirectory)
    | some (directory _) => ensure t here rest
    | none => ensure (t.place (directory []) here) here rest

end FileTree

/-! ## Workspace -/

/-- All files, and the path of the working directory, from which relative paths start. -/
structure Workspace where
  cwd : FilePath := { anchor := "/", parts := ["CWD"] }
  files : FileTree := (FileTree.directory []).place (.directory []) cwd.parts

namespace Workspace

def fromTop (w : Workspace) (p : FilePath) : List String :=
  if p.isAbsolute then p.parts else w.cwd.parts ++ p.parts

/-- What a path leads to, or why it leads to nothing. -/
def resolve (w : Workspace) (p : FilePath) : Except Fault FileTree :=
  w.files.follow [] (w.fromTop p)

def find? (w : Workspace) (p : FilePath) : Option FileTree :=
  (w.resolve p).toOption

def contains (w : Workspace) (p : FilePath) : Bool :=
  (w.find? p).isSome

def read (w : Workspace) (p : FilePath) : Except Fault Contents :=
  match w.resolve p with
  | .ok (.file c _) => .ok c
  | .ok (.directory _) => .error .isADirectory
  | .error why => .error why

def update (w : Workspace) (p : FilePath) (change : Option FileTree → FileTree) :
    Except Fault Workspace :=
  let parts := w.fromTop p
  match w.files.ensure [] parts.dropLast with
  | .error e => .error e
  | .ok (files, made) =>
    match parts.getLast? with
    | none => .error .isADirectory
    | some name =>
      if name = ".." then .error .isADirectory
      else
        let here := made ++ [name]
        match files.get? here with
        | some (.directory _) => .error .isADirectory
        | found => .ok { w with files := files.place (change found) here }

def write (w : Workspace) (p : FilePath) (c : Contents) : Except Fault Workspace :=
  w.update p fun _ => .file c (.int 0)

/-- Makes an empty file unless there is one already. -/
def touch (w : Workspace) (p : FilePath) : Except Fault Workspace :=
  w.update p fun found => found.getD (.file (.bytes []) (.int 0))

end Workspace

end SourceOutline
