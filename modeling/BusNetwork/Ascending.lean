/-!
# Ascending lists: one item to a name, in the order of the names

Names of buses at a stop, and distances by the name of their far end, are listed in ascending order
of the names, character by character in the order of code points. **An item that comes under a name
already listed takes the place of the former one.**
-/

namespace BusNetwork.Ascending

variable {β : Type}

/-- An ascending list with one more item, which replaces the item of the same name. -/
def insert (name : β → String) (item : β) : List β → List β
  | [] => [item]
  | other :: rest =>
    if name item < name other then item :: other :: rest
    else if name item == name other then item :: rest
    else other :: insert name item rest

/-- The ascending list of the last item of each name. -/
def ofList (name : β → String) (items : List β) : List β :=
  items.foldl (fun listed item => insert name item listed) []

end BusNetwork.Ascending
