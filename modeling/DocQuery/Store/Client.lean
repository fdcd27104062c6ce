import DocQuery.Store.Collection

/-!
# Clients in memory

A client keeps the collections of its databases, each made when it is first used. A collection is
found under the joined names of its database and its own, so two pairs of names that join to one
text share a collection.
-/
namespace DocQuery

structure Client where
  collections : List (String × Collection)
  closed : Bool
  closeCount : Nat
  deriving Repr

namespace Client

def empty : Client := ⟨[], false, 0⟩

def key (database name : String) : String := database ++ "." ++ name

def collection (database name : String) (c : Client) : Collection :=
  (c.collections.lookup (key database name)).getD (.empty name c.closed)

def insert (key : String) (x : Collection) :
    List (String × Collection) → List (String × Collection)
  | [] => [(key, x)]
  | (k, y) :: rest => if k = key then (k, x) :: rest else (k, y) :: insert key x rest

def setCollection (database name : String) (x : Collection) (c : Client) : Client :=
  { c with collections := insert (key database name) x c.collections }

def close (c : Client) : Client where
  collections := c.collections.map fun (k, x) => (k, { x with closed := true })
  closed := true
  closeCount := c.closeCount + 1

def on {ε α : Type} (database name : String)
    (action : ExceptT ε (StateM (Session Collection)) α) : ExceptT ε (StateM (Session Client)) α :=
  zoom (collection database name) (setCollection database name) action

end Client
end DocQuery
