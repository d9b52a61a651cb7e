namespace TypedClient

/-- Pairs in increasing order of their keys. -/
abbrev Table (α : Type) := List (String × α)

namespace Table

variable {α : Type}

def insert (key : String) (value : α) : Table α → Table α
  | [] => [(key, value)]
  | (k, v) :: t =>
    match compare key k with
    | .lt => (key, value) :: (k, v) :: t
    | .eq => (key, value) :: t
    | .gt => (k, v) :: insert key value t

/-- The table of a list of pairs; of pairs with one key the last counts. -/
def ofList (pairs : List (String × α)) : Table α := pairs.foldl (fun t p => t.insert p.1 p.2) []

def merge (t u : Table α) : Table α := u.foldl (fun t p => t.insert p.1 p.2) t

def get? (t : Table α) (key : String) : Option α := t.lookup key

end Table

end TypedClient
