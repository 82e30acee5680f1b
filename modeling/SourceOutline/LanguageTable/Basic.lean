import SourceOutline.Failure.Basic
import SourceOutline.Text.Letter

/-!
# LanguageTable — which nodes of a language are classes and methods

A language table says for one language which node types stand for classes and which for methods,
under which field a name is held, which grammar parses the language, and which file extensions
belong to it.  A table is written with texts, which may hold surrogates.  What is compared with nodes
and files later on holds none.
-/

namespace SourceOutline

/-- The classification of node types of one language. -/
structure LanguageTable where
  language : String
  displayName : String := ""
  extensions : List String
  grammar : String
  classTypes : List String := []
  methodTypes : List String := []
  nameField : String := "name"
  deriving DecidableEq

namespace LanguageTable

def isClass (t : LanguageTable) (type : String) : Bool :=
  t.classTypes.contains type

def isMethod (t : LanguageTable) (type : String) : Bool :=
  t.methodTypes.contains type

def isDotted (ext : String) : Bool :=
  ext.toList.head? == some '.'

/-- Whether a table covers an extension, whose case does not matter and whose dot may be missing. -/
def covers (t : LanguageTable) (ext : String) : Bool :=
  let lower := lowerCase ext
  t.extensions.contains (if isDotted lower then lower else "." ++ lower)

end LanguageTable

/-- A language table as it is written. -/
structure WrittenTable where
  language : Text
  displayName : Text := []
  extensions : List Text
  grammar : Text
  classTypes : List Text := []
  methodTypes : List Text := []
  nameField : Text := Text.ofString "name"
  deriving DecidableEq

def LanguageTable.written (t : LanguageTable) : WrittenTable where
  language := Text.ofString t.language
  displayName := Text.ofString t.displayName
  extensions := t.extensions.map Text.ofString
  grammar := Text.ofString t.grammar
  classTypes := t.classTypes.map Text.ofString
  methodTypes := t.methodTypes.map Text.ofString
  nameField := Text.ofString t.nameField

namespace WrittenTable

def strings (texts : List Text) : List String :=
  (texts.filter fun t => !t.any CodePoint.isSurrogate).map Text.toString

/-- The table that nodes and files are compared with.  A text that holds a surrogate is the type of
no node and the extension of no file, so it is left out. -/
def table (t : WrittenTable) : LanguageTable where
  language := t.language.toString
  displayName := t.displayName.toString
  extensions := strings t.extensions
  grammar := t.grammar.toString
  classTypes := strings t.classTypes
  methodTypes := strings t.methodTypes
  nameField := t.nameField.toString

/-! ## Acceptance -/

def faultIf (condition : Bool) (location : String) (fault : TableFault) : List LocatedFault :=
  if condition then [⟨location, fault⟩] else []

def textFaults (location : String) (t : Text) : List LocatedFault :=
  if t.any CodePoint.isSurrogate then [⟨location, .brokenText⟩]
  else faultIf t.isEmpty location .emptyText

def isDotted (ext : Text) : Bool :=
  ext.head? == some (.ofChar '.')

def extensionFaults (extensions : List Text) : List LocatedFault :=
  if extensions.isEmpty then [⟨"extensions", .noItems⟩]
  else
    match extensions.find? fun ext => !isDotted ext with
    | some ext => [⟨"extensions", .undottedExtension ext⟩]
    | none => []

def sharedTypes (t : WrittenTable) : List Text :=
  sortedUnique (t.classTypes.filter t.methodTypes.contains)

def partFaults (t : WrittenTable) : List LocatedFault :=
  textFaults "language" t.language ++ extensionFaults t.extensions ++ textFaults "grammar" t.grammar

def typeFaults (t : WrittenTable) : List LocatedFault :=
  if t.classTypes.isEmpty && t.methodTypes.isEmpty then [⟨"table", .noNodeTypes⟩]
  else faultIf (!t.sharedTypes.isEmpty) "table" (.sharedNodeTypes t.sharedTypes)

/-- What is wrong with a table.  The node types are looked at once the single parts are right. -/
def faults (t : WrittenTable) : List LocatedFault :=
  if t.partFaults.isEmpty then t.typeFaults else t.partFaults

/-- A table in its normal form: extensions in lower case, and the usual name field if none is
given. -/
def normal (t : WrittenTable) : WrittenTable :=
  { t with
      extensions := t.extensions.map Text.lowerCase
      nameField := if t.nameField.isEmpty then Text.ofString "name" else t.nameField }

def accept (t : WrittenTable) : Except (List LocatedFault) WrittenTable :=
  if t.faults.isEmpty then .ok t.normal else .error t.faults

end WrittenTable

namespace LanguageTable

def faults (t : LanguageTable) : List LocatedFault :=
  t.written.faults

def normal (t : LanguageTable) : LanguageTable :=
  { t with
      extensions := t.extensions.map lowerCase
      nameField := if t.nameField = "" then "name" else t.nameField }

def accept (t : LanguageTable) : Except (List LocatedFault) LanguageTable :=
  if t.faults.isEmpty then .ok t.normal else .error t.faults

end LanguageTable

end SourceOutline
