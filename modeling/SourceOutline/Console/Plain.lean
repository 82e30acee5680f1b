import SourceOutline.Console.Report

/-!
# Plain — the console without colours

* `plainText` — a text without its tags;
* `Item.plain` — an item as lines of text.
-/

namespace SourceOutline

/-- Leaves tags out and takes the backslashes away that kept brackets from being tags.  While a tag
is passed over, nothing is kept up to its closing bracket. -/
def dropTags (inTag : Bool) : List Char → List Char
  | [] => []
  | c :: rest =>
    if inTag then dropTags (c != ']') rest
    else if c = Quoted.backslash ∧ rest.head? = some '[' then
      match rest with
      | [] => [c]
      | d :: more => d :: dropTags false more
    else if c = '[' ∧ isTag rest = true then dropTags true rest
    else c :: dropTags false rest

def plainText (markup : String) : String :=
  String.ofList (dropTags false markup.toList)

mutual

def Branch.plain (indent : Nat) : Branch → List String
  | .node label branches =>
    (String.ofList (List.replicate (2 * indent) ' ') ++ plainText label) ::
      Branch.plainAll (indent + 1) branches

def Branch.plainAll (indent : Nat) : List Branch → List String
  | [] => []
  | b :: rest => b.plain indent ++ Branch.plainAll indent rest

end

def Item.plain : Item → List String
  | .text markup | .notice markup => [plainText markup]
  | .tree root => root.plain 0
  | .table title columns rows =>
    title :: (columns :: rows).map fun cells => joinWith "  " (cells.map plainText)
  | .panel title body => [plainText title, body]

end SourceOutline
