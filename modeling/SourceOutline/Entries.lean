/-!
# Entries — values under names

Several parts of the program keep values under names in a list, in the order in which the names were
first given: the fields of a record, the channels of a hub, the files of a directory and the
languages of a registry.
-/

namespace SourceOutline

def putEntry {α : Type} (name : String) (a : α) : List (String × α) → List (String × α)
  | [] => [(name, a)]
  | (n, b) :: rest => if n = name then (n, a) :: rest else (n, b) :: putEntry name a rest

end SourceOutline
