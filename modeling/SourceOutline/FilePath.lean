import SourceOutline.Text.Letter

/-!
# FilePath — paths in their plain form

A path is an anchor and the components after it.  Empty components and single dots vanish when a
path is read; a double dot stays, since what it leads to depends on the files.
-/

namespace SourceOutline

/-- A path: its anchor, which is empty for a relative path, and its components. -/
structure FilePath where
  anchor : String := ""
  parts : List String := []
  deriving DecidableEq

def splitSlashes {α : Type} [DecidableEq α] (slash : α) : List α → List (List α)
  | [] => [[]]
  | c :: rest =>
    if c = slash then [] :: splitSlashes slash rest
    else
      match splitSlashes slash rest with
      | [] => [[c]]
      | piece :: pieces => (c :: piece) :: pieces

namespace FilePath

def anchorOf (slashes : Nat) : String :=
  if slashes = 0 then "" else if slashes = 2 then "//" else "/"

def ofString (s : String) : FilePath :=
  let cs := s.toList
  let slashes := (cs.takeWhile (· == '/')).length
  let pieces := (splitSlashes '/' cs).map String.ofList
  { anchor := anchorOf slashes, parts := pieces.filter fun p => p != "" && p != "." }

def joinParts : List String → String
  | [] => ""
  | [p] => p
  | p :: rest => p ++ "/" ++ joinParts rest

def toString (p : FilePath) : String :=
  if p.anchor = "" ∧ p.parts = [] then "." else p.anchor ++ joinParts p.parts

def isAbsolute (p : FilePath) : Bool :=
  p.anchor != ""

def join (p q : FilePath) : FilePath :=
  if q.isAbsolute then q else { anchor := p.anchor, parts := p.parts ++ q.parts }

def child (p : FilePath) (name : String) : FilePath :=
  { p with parts := p.parts ++ [name] }

def parent (p : FilePath) : FilePath :=
  { p with parts := p.parts.dropLast }

def name (p : FilePath) : String :=
  p.parts.getLast?.getD ""

def suffixOf (name : List Char) : List Char :=
  let after := (name.reverse.takeWhile (· != '.')).reverse
  if after = [] ∨ name.length < after.length + 2 then [] else '.' :: after

def suffix (p : FilePath) : String :=
  String.ofList (suffixOf p.name.toList)

def partsBefore : List String → List String → Bool
  | [], _ => true
  | _ :: _, [] => false
  | a :: as, b :: bs => a < b || (a == b && partsBefore as bs)

def before (p q : FilePath) : Bool :=
  partsBefore (p.anchor :: p.parts) (q.anchor :: q.parts)

end FilePath

def fileExtension (path : String) : String :=
  lowerCase (FilePath.ofString path).suffix

end SourceOutline
