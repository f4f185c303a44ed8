/-!
# Sorted texts

Lists of texts, and lists of pairs with texts as keys, in rising order. The order of texts is that
of their code points, which is also the order of their octets.

* `insert`, `unique`: the texts of a list, sorted, each once.
* `put`, `get?`: the value of a key; the last value put for a key stays.
-/

namespace BindingCoverage.Text.Sorted

/-- Adds a text to a rising list. -/
def insert (s : String) : List String → List String
  | [] => [s]
  | t :: rest =>
    if s < t then s :: t :: rest
    else if s = t then t :: rest
    else t :: insert s rest

def unique (texts : List String) : List String := texts.foldr insert []

/-- Sets the value of a key among pairs with rising keys. -/
def put {α : Type} (key : String) (value : α) : List (String × α) → List (String × α)
  | [] => [(key, value)]
  | (k, v) :: rest =>
    if key < k then (key, value) :: (k, v) :: rest
    else if key = k then (key, value) :: rest
    else (k, v) :: put key value rest

def get? {α : Type} (key : String) (entries : List (String × α)) : Option α :=
  (entries.find? (·.1 == key)).map (·.2)

end BindingCoverage.Text.Sorted
