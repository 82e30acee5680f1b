import SourceOutline.Failure.Basic
import SourceOutline.FilePath

/-!
# TextPath — paths that settings name

Settings name a path by a text, and a text may hold surrogates.  No file of a workspace has such a
name, but the path can be read, shown, and joined to another one all the same.
-/

namespace SourceOutline

/-- A path: its anchor, which is empty for a relative path, and its components. -/
structure TextPath where
  anchor : String := ""
  parts : List Text := []
  deriving DecidableEq

namespace TextPath

def slash : CodePoint := .ofChar '/'

def dot : CodePoint := .ofChar '.'

def tilde : CodePoint := .ofChar '~'

def ofText (t : Text) : TextPath :=
  let slashes := (t.takeWhile (· == slash)).length
  { anchor := FilePath.anchorOf slashes
    parts := (splitSlashes slash t).filter fun p => p != [] && p != [dot] }

def toText (p : TextPath) : Text :=
  if p.anchor = "" ∧ p.parts = [] then [dot]
  else Text.ofString p.anchor ++ [slash].intercalate p.parts

def isAbsolute (p : TextPath) : Bool :=
  p.anchor != ""

def seenFrom (base : FilePath) (p : TextPath) : TextPath :=
  if p.isAbsolute then p
  else { anchor := base.anchor, parts := base.parts.map Text.ofString ++ p.parts }

/-- The path as one of files, whose names hold no surrogate. -/
def toFilePath? (p : TextPath) : Option FilePath :=
  if p.parts.any fun part => part.any CodePoint.isSurrogate then none
  else some { anchor := p.anchor, parts := p.parts.map Text.toString }

def isEncodable (p : TextPath) : Bool :=
  !p.parts.any fun part => part.any CodePoint.isUnencodable

/-! ## Home directories -/

def systemHomes : List (String × String) := [("root", "/root")]

def homeless : Fault :=
  .runtime "Could not determine home directory."

/-- The home directory of the user with a name, where no name stands for the user whose home is
given.  The homes of users that not every system has are not known. -/
def homeOf (home : Text) : Text → Except Fault TextPath
  | [] =>
    -- A home directory must not have to be looked up itself.
    if home.head? = some tilde then .error homeless
    else
      -- Slashes at its end are left out, except for the one of the top.
      let trimmed := (home.reverse.dropWhile (· == slash)).reverse
      .ok (ofText (if trimmed = [] then [slash] else trimmed))
  | name =>
    if name.any CodePoint.isUnencodable then .error .unencodable
    else if name.any (·.val == 0) then .error .badValue
    else
      match systemHomes.find? fun user => Text.ofString user.1 == name with
      | some user => .ok (ofText (Text.ofString user.2))
      | none => .error homeless

def user? (p : TextPath) : Option Text :=
  if p.isAbsolute then none
  else
    match p.parts with
    | (c :: name) :: _ => if c = tilde then some name else none
    | _ => none

/-- Replaces a leading tilde, with a user's name if one follows it, by the home directory. -/
def expandHome (home : Text) (p : TextPath) : Except Fault TextPath :=
  match p.user? with
  | none => .ok p
  | some name =>
    (homeOf home name).map fun base => { base with parts := base.parts ++ p.parts.tail }

end TextPath

end SourceOutline
