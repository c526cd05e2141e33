/-! Finite sets and tables as strictly increasing lists.

The order of the elements or keys is part of what a report shows, so a set or table of this library
is its own listing. -/
namespace MutationTesting.Ordered

variable {κ : Type} {α : Type} [LT κ] [DecidableLT κ]

def insert (a : κ) : List κ → List κ
  | [] => [a]
  | b :: bs => if a < b then a :: b :: bs else if b < a then b :: insert a bs else b :: bs

def ofList (xs : List κ) : List κ := xs.foldl (fun s a => insert a s) []

def find? [DecidableEq κ] (k : κ) : List (κ × α) → Option α
  | [] => none
  | (l, a) :: rest => if k = l then some a else find? k rest

def put (k : κ) (a : α) : List (κ × α) → List (κ × α)
  | [] => [(k, a)]
  | (l, b) :: rest =>
    if k < l then (k, a) :: (l, b) :: rest
    else if l < k then (l, b) :: put k a rest
    else (k, a) :: rest

/-- The table of a list of entries, later ones in place of earlier ones with the same key. -/
def tableOfList (xs : List (κ × α)) : List (κ × α) :=
  xs.foldl (fun t e => put e.1 e.2 t) []

end MutationTesting.Ordered
