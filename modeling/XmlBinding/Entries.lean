/-!
This module contains the setting of entries in lists of keys with values, where an entry keeps its place.
-/

namespace XmlBinding.Entries

/-- Sets the value of a key. A key that is there keeps its place, and a new one comes last. -/
def set {α β : Type} [BEq α] (entries : List (α × β)) (key : α) (value : β) : List (α × β) :=
  match entries with
  | [] => [(key, value)]
  | (k, v) :: rest => if k == key then (k, value) :: rest else (k, v) :: set rest key value

/-- The entries of a sequence in which the last value of a key counts, in the place of its first. -/
def ofList {α β : Type} [BEq α] (entries : List (α × β)) : List (α × β) :=
  entries.foldl (fun acc (key, value) => set acc key value) []

end XmlBinding.Entries
