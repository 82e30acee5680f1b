import SourceOutline.Failure.Basic
import SourceOutline.Text.Utf8
import SourceOutline.Value.Basic

/-!
# Expand — variables in settings

Texts in settings may refer to variables of the environment: a dollar sign, and in braces a name,
which may be followed by a colon and a default.

A `Value` is a finite tree; a mapping that contains itself is none.  References are replaced by a
function that calls itself for what a list or a map holds, and fails on a value for which there is
no room for so many calls.  The few calls with which a reference is looked up are not counted one by
one: `Environment.levels` stands for the calls that leave enough room for them.
-/

namespace SourceOutline

/-- What the system has for the settings: variables with their values, and room for calls inside
each other, of which `spare` are more than what a document of the package's own making needs. -/
structure Environment where
  values : List (Text × Text) := []
  spare : Nat := 477

def Environment.levels (env : Environment) : Nat :=
  env.spare + 3

/-- The bytes by which the system knows a name: a surrogate that stands for a byte is that byte. -/
def systemBytes (name : Text) : Bytes :=
  name.flatMap fun c => if c.standsForByte then [UInt8.ofNat (c.val - 0xDC00)] else Utf8.encodeOne c

/-- The value of a variable.  Two names are one if the system knows both by the same bytes. -/
def Environment.value? (env : Environment) (name : Text) : Option Text :=
  (env.values.find? fun e => systemBytes e.1 == systemBytes name).map Prod.snd

def Environment.get? (env : Environment) (name : String) : Option Text :=
  env.value? (Text.ofString name)

def Environment.home (env : Environment) : Text :=
  (env.get? "HOME").getD (Text.ofString "/")

/-! ## References -/

def dollar : CodePoint := .ofChar '$'

def openBrace : CodePoint := ⟨0x7B, by decide⟩

def closeBrace : CodePoint := ⟨0x7D, by decide⟩

def colon : CodePoint := .ofChar ':'

/-- A reference to a variable: its name, and what it stands for when the variable is not set. -/
structure VariableRef where
  name : Text
  default : Text
  deriving DecidableEq

/-- Reads the reference that stands in braces at the front of a text whose opening brace is gone,
and gives the rest of the text, too.  The name is not empty; a default may be. -/
def readReference? (t : Text) : Option (VariableRef × Text) :=
  let name := t.takeWhile fun c => c != closeBrace && c != colon
  if name.isEmpty then none
  else
    match t.dropWhile fun c => c != closeBrace && c != colon with
    -- No brace closes the reference.
    | [] => none
    | c :: more =>
      if c = closeBrace then some (⟨name, []⟩, more)
      else
        -- The default ends at the first closing brace, also if another reference opens in it.
        match more.dropWhile (· != closeBrace) with
        | [] => none
        | _ :: rest => some (⟨name, more.takeWhile (· != closeBrace)⟩, rest)

def referenceAt? : Text → Option (VariableRef × Text)
  | c :: d :: rest => if c = dollar ∧ d = openBrace then readReference? rest else none
  | _ => none

theorem length_of_readReference? {t rest : Text} {r : VariableRef}
    (h : readReference? t = some (r, rest)) : rest.length < t.length := by
  have h₁ : (t.dropWhile fun c => c != closeBrace && c != colon).length ≤ t.length :=
    (List.dropWhile_sublist _).length_le
  simp only [readReference?] at h
  split at h
  · simp at h
  · split at h
    · simp at h
    · rename_i c more heq
      rw [heq] at h₁
      simp only [List.length_cons] at h₁
      split at h
      · simp only [Option.some.injEq, Prod.mk.injEq] at h
        rw [← h.2]
        omega
      · have h₂ : (more.dropWhile (· != closeBrace)).length ≤ more.length :=
          (List.dropWhile_sublist _).length_le
        split at h
        · simp at h
        · rename_i d tail heq'
          rw [heq'] at h₂
          simp only [List.length_cons] at h₂
          simp only [Option.some.injEq, Prod.mk.injEq] at h
          rw [← h.2]
          omega

theorem length_of_referenceAt? {t rest : Text} {r : VariableRef}
    (h : referenceAt? t = some (r, rest)) : rest.length < t.length := by
  unfold referenceAt? at h
  split at h
  · split at h
    · have hread := length_of_readReference? h
      simp only [List.length_cons]
      omega
    · cases h
  · cases h

def VariableRef.value (env : Environment) (r : VariableRef) : Text :=
  (env.value? r.name).getD r.default

/-! ## Expansion -/

/-- A part of a text: a reference, or a character outside of references. -/
inductive Piece where
  | plain (c : CodePoint)
  | reference (r : VariableRef)
  deriving DecidableEq

def Piece.value (env : Environment) : Piece → Text
  | plain c => [c]
  | reference r => r.value env

def Piece.reference? : Piece → Option VariableRef
  | plain _ => none
  | reference r => some r

def pieces : Text → List Piece
  | [] => []
  | c :: rest =>
    match h : referenceAt? (c :: rest) with
    | some (r, after) =>
      have : after.length < (c :: rest).length := length_of_referenceAt? h
      .reference r :: pieces after
    | none => .plain c :: pieces rest
termination_by t => t.length
decreasing_by
  · exact this
  · exact Nat.lt_add_one rest.length

def references (t : Text) : List VariableRef :=
  (pieces t).filterMap Piece.reference?

/-- Replaces the references in a text.  What has been put in is not read again. -/
def expandText (env : Environment) (t : Text) : Text :=
  (pieces t).flatMap (Piece.value env)

namespace Value

mutual

def expand (env : Environment) : Value → Value
  | text s => ofText (expandText env (Text.ofString s))
  | surrogateText t => ofText (expandText env t)
  | list items => list (expandItems env items)
  | map entries => map (expandEntries env entries)
  | null => null
  | bool b => bool b
  | int n => int n
  | float x => float x
  | date d => date d
  | moment t => moment t

def expandItems (env : Environment) : List Value → List Value
  | [] => []
  | v :: rest => v.expand env :: expandItems env rest

def expandEntries (env : Environment) : List (Value × Value) → List (Value × Value)
  | [] => []
  | (k, v) :: rest => (k, v.expand env) :: expandEntries env rest

end

mutual

def texts : Value → List Text
  | text s => [Text.ofString s]
  | surrogateText t => [t]
  | list items => textsOfItems items
  | map entries => textsOfEntries entries
  | _ => []

def textsOfItems : List Value → List Text
  | [] => []
  | v :: rest => v.texts ++ textsOfItems rest

def textsOfEntries : List (Value × Value) → List Text
  | [] => []
  | (_, v) :: rest => v.texts ++ textsOfEntries rest

end

def anyUnencodable (ts : List Text) : Bool :=
  ts.any fun t => (references t).any fun r => r.name.any CodePoint.isUnencodable

def asksUnencodable (v : Value) : Bool :=
  anyUnencodable v.texts

def replaceText (env : Environment) (t : Text) : Except Fault Value :=
  if anyUnencodable [t] then .error .unencodable else .ok (ofText (expandText env t))

mutual

/-- Replaces the references in all texts of a value, where `room` more calls may be made inside each
other.  Each item of a list and each value of a map takes one. -/
def replaceWithin (env : Environment) : Nat → Value → Except Fault Value
  | 0, _ => .error .tooDeep
  | _ + 1, text s => replaceText env (Text.ofString s)
  | _ + 1, surrogateText t => replaceText env t
  | room + 1, list items => (replaceItems env room items).map list
  | room + 1, map entries => (replaceEntries env room entries).map map
  | _ + 1, v => .ok v

def replaceItems (env : Environment) (room : Nat) : List Value → Except Fault (List Value)
  | [] => .ok []
  | v :: rest => do
    let v ← replaceWithin env room v
    let rest ← replaceItems env room rest
    pure (v :: rest)

def replaceEntries (env : Environment) (room : Nat) :
    List (Value × Value) → Except Fault (List (Value × Value))
  | [] => .ok []
  | (k, v) :: rest => do
    let v ← replaceWithin env room v
    let rest ← replaceEntries env room rest
    pure ((k, v) :: rest)

end

def replaceVariables (env : Environment) (v : Value) : Except Fault Value :=
  replaceWithin env env.levels v

end Value

end SourceOutline
