import SourceOutline.Text.Quoted
import SourceOutline.Timestamp

/-!
# Value — the values of a document

Settings and language tables are read from documents.  A document is a `Value`: a scalar, a list, or
a map whose entries keep their order.
-/

namespace SourceOutline

def joinWith (separator : String) : List String → String
  | [] => ""
  | [s] => s
  | s :: rest => s ++ separator ++ joinWith separator rest

/-- A document value.  A text that holds a surrogate on its own, which no string can hold, stands
apart from the other texts. -/
inductive Value where
  | null
  | bool (b : Bool)
  | int (n : Int)
  | float (x : Double)
  | date (d : Date)
  | moment (t : Timestamp)
  | text (s : String)
  | surrogateText (t : Text)
  | list (items : List Value)
  | map (entries : List (Value × Value))

namespace Value

instance : Inhabited Value := ⟨null⟩

/-! ## Reading -/

def number? : Value → Option Number
  | bool b => some (.flag b)
  | int n => some (.int n)
  | float x => some (.float x)
  | _ => none

def ofText (t : Text) : Value :=
  if t.any CodePoint.isSurrogate then surrogateText t else text t.toString

def toText? : Value → Option Text
  | text s => some (Text.ofString s)
  | surrogateText t => some t
  | _ => none

def ofNumber : Number → Value
  | .int n => int n
  | .float x => float x
  | .flag b => bool b

/-- Null, false, nought and all that is empty count as false. -/
def isTruthy : Value → Bool
  | null => false
  | bool b => b
  | int n => n != 0
  | float x => !x.isZero
  | date _ => true
  | moment _ => true
  | text s => s != ""
  | surrogateText t => !t.isEmpty
  | list items => !items.isEmpty
  | map entries => !entries.isEmpty

def kindName : Value → String
  | null => "NoneType"
  | bool _ => "bool"
  | int _ => "int"
  | float _ => "float"
  | date _ => "date"
  | moment _ => "datetime"
  | text _ => "str"
  | surrogateText _ => "str"
  | list _ => "list"
  | map _ => "dict"

def lookup (key : String) : List (Value × Value) → Option Value
  | [] => none
  | (text k, v) :: rest => if k = key then some v else lookup key rest
  | _ :: rest => lookup key rest

def get? (v : Value) (key : String) : Option Value :=
  match v with
  | map entries => lookup key entries
  | _ => none

def present? (v : Value) (key : String) : Option Value :=
  match v.get? key with
  | some null => none
  | found => found

/-! ## Keys -/

/-- Whether two keys are one: equal texts, equal numbers of any kinds, equal dates or times, or both
null.  As a key, not-a-number is one with itself. -/
def sameKey (x y : Value) : Bool :=
  match x, y with
  | null, null => true
  | text s, text t => s == t
  | surrogateText s, surrogateText t => s == t
  | date d, date e => d == e
  | moment t, moment u => t.same u
  | float (.nan _), float (.nan _) => true
  | x, y =>
    match x.number?, y.number? with
    | some a, some b => a.same b
    | _, _ => false

/-- Puts a value under a key: in place of an earlier one, or at the end. -/
def put (key value : Value) : List (Value × Value) → List (Value × Value)
  | [] => [(key, value)]
  | (k, v) :: rest =>
    if k.sameKey key then (k, value) :: rest else (k, v) :: put key value rest

/-! ## Showing -/

def dateParts (d : Date) : List String :=
  [toString d.year, toString d.month, toString d.day]

/-- An offset from universal time, as days and seconds of which the seconds are not negative. -/
def renderZone (minutes : Int) : String :=
  if minutes = 0 then "datetime.timezone.utc"
  else
    let seconds := "seconds=" ++ toString (minutes % 1440 * 60)
    "datetime.timezone(datetime.timedelta(" ++
      (if minutes < 0 then "days=-1, " ++ seconds else seconds) ++ "))"

/-- A timestamp by its parts; seconds and microseconds are left out where they and all after them
are nought. -/
def renderMoment (t : Timestamp) : String :=
  let time := [toString t.hour, toString t.minute] ++
    (if t.second = 0 ∧ t.microsecond = 0 then [] else [toString t.second]) ++
    (if t.microsecond = 0 then [] else [toString t.microsecond])
  let zone := match t.offset with
    | some m => ["tzinfo=" ++ renderZone m]
    | none => []
  "datetime.datetime(" ++ joinWith ", " (dateParts t.date ++ time ++ zone) ++ ")"

mutual

def render : Value → String
  | null => "None"
  | bool b => if b then "True" else "False"
  | int n => toString n
  | float x => x.render
  | date d => "datetime.date(" ++ joinWith ", " (dateParts d) ++ ")"
  | moment t => renderMoment t
  | text s => quoted s
  | surrogateText t => t.quoted
  | list items => "[" ++ renderItems items ++ "]"
  | map entries => "\x7b" ++ renderEntries entries ++ "\x7d"

def renderItems : List Value → String
  | [] => ""
  | [v] => v.render
  | v :: rest => v.render ++ ", " ++ renderItems rest

def renderEntries : List (Value × Value) → String
  | [] => ""
  | [(k, v)] => k.render ++ ": " ++ v.render
  | (k, v) :: rest => k.render ++ ": " ++ v.render ++ ", " ++ renderEntries rest

end

mutual

def integers : Value → List Int
  | int n => [n]
  | list items => integersOfItems items
  | map entries => integersOfEntries entries
  | _ => []

def integersOfItems : List Value → List Int
  | [] => []
  | v :: rest => v.integers ++ integersOfItems rest

def integersOfEntries : List (Value × Value) → List Int
  | [] => []
  | (k, v) :: rest => k.integers ++ v.integers ++ integersOfEntries rest

end

/-- Whether a value can be shown: none of its integers has too many digits. -/
def isShowable (v : Value) : Bool :=
  v.integers.all SourceOutline.isShowable

def display : Value → String
  | text s => s
  | surrogateText t => t.toString
  | date d => d.render
  | moment t => t.renderWith " "
  | v => v.render

end Value

def renderStrings (items : List String) : String :=
  (Value.list (items.map .text)).render

def renderTexts (items : List Text) : String :=
  (Value.list (items.map .ofText)).render

end SourceOutline
