import SourceOutline.Yaml.Node

/-!
# Reader — the value that a document's text writes

A map may take over the entries of other maps, which are put before its own.  Then scalars get their
meaning and keys are brought together, where a later entry replaces an earlier one.  A document is
read level by level, so of several faults the one nearest to the top is reported, and on one level
the first.
-/

namespace SourceOutline

namespace Yaml

namespace Node

/-! ## Entries taken over -/

def isMerge : Node → Bool
  | plain s => s == "<<"
  | _ => false

/-- The entries that are taken over from a node: those of a map, or those of the maps of a list,
where the entries of a later map come first. -/
def entriesToMerge : Node → Option (List (Node × Node))
  | map entries => some entries
  | list items =>
    items.foldl
      (fun taken item =>
        match taken, item with
        | some later, map entries => some (entries ++ later)
        | _, _ => none)
      (some [])
  | _ => none

def taken : List (Node × Node) → Option (List (Node × Node))
  | [] => some []
  | (k, v) :: rest =>
    if k.isMerge then do
      let here ← v.entriesToMerge
      let others ← taken rest
      some (here ++ others)
    else taken rest

def mergeMap (entries : List (Node × Node)) : Node :=
  match taken entries with
  | some others => map (others ++ entries.filter fun e => !e.1.isMerge)
  | none => unmergeable

mutual

def merged : Node → Node
  | list items => list (mergedItems items)
  | map entries => mergeMap (mergedEntries entries)
  | plain s => plain s
  | quoted t => quoted t
  | unmergeable => unmergeable

def mergedItems : List Node → List Node
  | [] => []
  | v :: rest => v.merged :: mergedItems rest

def mergedEntries : List (Node × Node) → List (Node × Node)
  | [] => []
  | (k, v) :: rest => (k.merged, v.merged) :: mergedEntries rest

end

/-! ## Values -/

def isCollection : Node → Bool
  | plain _ => false
  | quoted _ => false
  | _ => true

def plainValue (s : String) : Except DocumentFault Value :=
  match Plain.resolve s with
  | .null => .ok .null
  | .bool b => .ok (.bool b)
  | .int n => .ok (.int n)
  | .float x => .ok (.float x)
  | .date d => .ok (.date d)
  | .moment t => .ok (.moment t)
  | .text => .ok (.text s)
  | .merge => .error .brokenRule
  | .standIn => .error .brokenRule
  | .malformed => .error (.raised .badValue)
  | .tooLarge => .error (.raised .tooLarge)

def keyValue : Node → Except DocumentFault Value
  | plain "=" => .ok (.text "=")
  | plain s => plainValue s
  | quoted t => .ok (Value.ofText t)
  | _ => .error .brokenRule

end Node

/-- A fault and the level on which it was met. -/
structure LeveledFault where
  level : Nat
  fault : DocumentFault

structure Built (α : Type) where
  result : α
  faults : List LeveledFault := []

/-- What was read on a level, where a fault leaves something else in its place. -/
def Built.ofExcept {α : Type} (level : Nat) (missing : α) : Except DocumentFault α → Built α
  | .ok a => ⟨a, []⟩
  | .error why => ⟨missing, [⟨level, why⟩]⟩

namespace Node

mutual

/-- The value of a node.  The scalars of a collection are read on its level, and the collections in
it on the next. -/
def build (level : Nat) : Node → Built Value
  | plain s => .ofExcept level .null (plainValue s)
  | quoted t => ⟨Value.ofText t, []⟩
  | unmergeable => ⟨.null, [⟨level, .brokenRule⟩]⟩
  | list items =>
    let built := buildItems level items
    ⟨.list built.result, built.faults⟩
  | map entries =>
    let built := buildEntries level [] entries
    ⟨.map built.result, built.faults⟩

def buildItems (level : Nat) : List Node → Built (List Value)
  | [] => ⟨[], []⟩
  | v :: rest =>
    let first := v.build (if v.isCollection then level + 1 else level)
    let others := buildItems level rest
    ⟨first.result :: others.result, first.faults ++ others.faults⟩

def buildEntries (level : Nat) (done : List (Value × Value)) :
    List (Node × Node) → Built (List (Value × Value))
  | [] => ⟨done, []⟩
  | (k, v) :: rest =>
    let key := Built.ofExcept level .null k.keyValue
    let value := v.build (if v.isCollection then level + 1 else level)
    let others := buildEntries level (Value.put key.result value.result done) rest
    ⟨others.result, key.faults ++ value.faults ++ others.faults⟩

end

end Node

/-- The fault on the highest level, the first of those. -/
def uppermost? (faults : List LeveledFault) : Option DocumentFault :=
  (faults.foldl
    (fun (best : Option LeveledFault) f =>
      match best with
      | some b => if f.level < b.level then some f else best
      | none => some f)
    none).map LeveledFault.fault

def read (text : List Char) : Except DocumentFault Value := do
  let tokens ← match Token.scan? text with
    | some ts => pure ts
    | none => throw .brokenRule
  let node ← Node.ofTokens tokens
  let built := node.merged.build 0
  match uppermost? built.faults with
  | some why => throw why
  | none => pure built.result

end Yaml

end SourceOutline
