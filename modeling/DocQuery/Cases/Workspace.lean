import DocQuery.Cases.Repository
import DocQuery.Regex.Engine

/-!
# Sharing a client

Handles and repositories hold leases on one client. A clone of a handle shares its lease, and when
the last holder of a lease gives it back the client is closed.
-/
namespace DocQuery

/-- The leases on a client and how many holders each has. Leases are numbered as they are taken. -/
structure Leases where
  taken : Nat
  holders : Nat → Nat

namespace Leases

def empty : Leases := ⟨0, fun _ => 0⟩

def take (l : Leases) : Nat × Leases :=
  (l.taken, ⟨l.taken + 1, fun i => if i = l.taken then 1 else l.holders i⟩)

def share (lease : Nat) (l : Leases) : Leases :=
  { l with holders := fun i => if i = lease then l.holders i + 1 else l.holders i }

def giveBack (lease : Nat) (l : Leases) : Leases :=
  { l with holders := fun i => if i = lease then l.holders i - 1 else l.holders i }

end Leases

structure LeasedRepository where
  lease : Nat
  repository : CasesRepository

/-- The services with the handles and repositories that hold leases on their client, by name. -/
structure Workspace where
  services : Services
  leases : Leases
  handles : List (String × Nat)
  repositories : List (String × LeasedRepository)

namespace Workspace

def empty : Workspace := ⟨.empty, .empty, [], []⟩

def setServices (services : Services) (w : Workspace) : Workspace := { w with services }

def closeClient (w : Workspace) : Workspace :=
  { w with services := w.services.setClient w.services.client.close }

/-- Gives a lease back; the last holder closes the client. -/
def release (lease : Nat) (w : Workspace) : Workspace :=
  let w := { w with leases := w.leases.giveBack lease }
  if w.leases.holders lease = 0 then w.closeClient else w

/-- Gives the lease back of what no longer has a name. -/
def releaseAll (leases : List Nat) (w : Workspace) : Workspace :=
  leases.foldl (fun w lease => w.release lease) w

def lease (w : Workspace) : Nat × Workspace :=
  let (lease, leases) := w.leases.take
  (lease, { w with leases })

def named {α : Type} (name : String) (items : List (String × α)) : List α :=
  (items.filter fun x => x.1 == name).map Prod.snd

def unnamed {α : Type} (name : String) (items : List (String × α)) : List (String × α) :=
  items.filter fun x => x.1 != name

/-- Names a handle; the one of that name before, if any, gives its lease back. -/
def nameHandle (name : String) (lease : Nat) (w : Workspace) : Workspace :=
  { w with handles := (name, lease) :: unnamed name w.handles }.releaseAll (named name w.handles)

def newHandle (name : String) (w : Workspace) : Workspace :=
  let (lease, w) := w.lease
  w.nameHandle name lease

def cloneHandle (name newName : String) (w : Workspace) : Option Workspace :=
  (w.handles.lookup name).map fun lease =>
    { w with leases := w.leases.share lease }.nameHandle newName lease

def dropHandle (name : String) (w : Workspace) : Workspace :=
  { w with handles := unnamed name w.handles }.releaseAll (named name w.handles)

def leaseCount (name : String) (w : Workspace) : Option Nat :=
  (w.handles.lookup name).map w.leases.holders

def handleText (leaseCount : Nat) : String :=
  "ClientHandle \x7b leases: " ++ leaseCount.repr ++ " \x7d"

/-- The lease for a new repository: that of a handle if one is named, and a new one otherwise. -/
def leaseFor (handle : Option String) (w : Workspace) : Option (Nat × Workspace) :=
  match handle with
  | none => some w.lease
  | some name => (w.handles.lookup name).map fun lease =>
    (lease, { w with leases := w.leases.share lease })

/-- Opens a repository under a name. It gives its lease back if its configuration is not valid, and
a repository of that name before gives back its own after. Nothing happens if a handle is named
that does not exist. -/
def openRepository (name : String) (handle : Option String) (config : StoreConfig)
    (embedder : Option Embedder) (w : Workspace) :
    Option (Except QueryError Unit × Workspace) :=
  (w.leaseFor handle).map fun (lease, w) =>
    match CasesRepository.ofConfig config embedder with
    | .error e => (.error e, w.release lease)
    | .ok repository =>
      (.ok (), { w with
        repositories := (name, ⟨lease, repository⟩) :: unnamed name w.repositories }.releaseAll
          ((named name w.repositories).map LeasedRepository.lease))

def dropRepository (name : String) (w : Workspace) : Workspace :=
  { w with repositories := unnamed name w.repositories }.releaseAll
    ((named name w.repositories).map LeasedRepository.lease)

def repository? (name : String) (w : Workspace) : Option CasesRepository :=
  (w.repositories.lookup name).map LeasedRepository.repository

def onServices {ε α : Type} (action : ExceptT ε (StateM (Session Services)) α) :
    ExceptT ε (StateM (Session Workspace)) α :=
  zoom services setServices action

end Workspace
end DocQuery
