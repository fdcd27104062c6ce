import DocQuery.Cases.Workspace
import DocQuery.Proofs.Store.Isolation
import DocQuery.Regex.Engine

/-!
# Leases on one client

All handles and repositories that stem from one handle hold one lease. Its holders are counted at
every step, so the client is open as long as there is one of them, is closed once when the last is
gone, and stays closed.
-/
namespace DocQuery

namespace Collection

theorem run_of_closed [PatternEngine] {α : Type} (call : StoreCall α) {s : Session Collection}
    (h : s.state.closed = true) :
    (call.run s).1 = .error .closed ∧ stored (call.run s).2 = stored s := by
  obtain ⟨ids, name, documents, failure, lastFilter, lastPipeline, closed⟩ := s
  cases h
  cases call <;> exact ⟨rfl, rfl⟩

end Collection

namespace Client

/-- A client that is open with all its collections, or closed with all of them. -/
structure Uniform (closed : Bool) (c : Client) : Prop where
  client : c.closed = closed
  collections : ∀ entry ∈ c.collections, entry.2.closed = closed

theorem Uniform.closed_collection {closed : Bool} {c : Client} (h : c.Uniform closed)
    (database name : String) : (c.collection database name).closed = closed := by
  rw [Client.collection]
  cases hlookup : c.collections.lookup (key database name) with
  | none => exact h.client
  | some x =>
    exact h.collections _ (Members.mem_of_lookup hlookup)

theorem mem_insert {key : String} {x : Collection} {collections : List (String × Collection)}
    {entry : String × Collection} (h : entry ∈ insert key x collections) :
    entry.2 = x ∨ entry ∈ collections := by
  induction collections with
  | nil => exact .inl (congrArg Prod.snd (List.mem_singleton.mp h))
  | cons first rest ih =>
    rw [insert] at h
    split at h
    · rcases List.mem_cons.mp h with rfl | hrest
      · exact .inl rfl
      · exact .inr (List.mem_cons_of_mem _ hrest)
    · rcases List.mem_cons.mp h with rfl | hrest
      · exact .inr List.mem_cons_self
      · exact (ih hrest).imp_right (List.mem_cons_of_mem _)

theorem Uniform.setCollection {closed : Bool} {c : Client} (h : c.Uniform closed) {x : Collection}
    (hx : x.closed = closed) (database name : String) :
    (c.setCollection database name x).Uniform closed := by
  refine ⟨h.client, fun entry hentry => ?_⟩
  rcases mem_insert hentry with heq | hmem
  · rw [heq, hx]
  · exact h.collections entry hmem

theorem uniform_close (c : Client) : c.close.Uniform true := by
  refine ⟨rfl, fun entry hentry => ?_⟩
  obtain ⟨old, -, rfl⟩ := List.mem_map.mp hentry
  rfl

def stored (ref : CollectionRef) (c : Client) : List Json := (ref.collection c).documents

theorem stored_of_key_eq {a b : CollectionRef} (h : a.key = b.key) (c : Client) :
    stored a c = stored b c := by
  have hkey : key a.database a.name = key b.database b.name := h
  simp only [stored, CollectionRef.collection, Client.collection, hkey]
  cases c.collections.lookup (key b.database b.name) <;> rfl

end Client

namespace Use

variable (u : Use) (s : Session Client)

theorem uniform_after [PatternEngine] {closed : Bool} (h : s.state.Uniform closed) :
    (u.after s).state.Uniform closed := by
  have hfixed := u.access.keepsFixed (s.withState (u.ref.collection s.state))
  have hclosed := (congrArg Prod.snd hfixed).trans (h.closed_collection u.ref.database u.ref.name)
  exact h.setCollection hclosed u.ref.database u.ref.name

end Use

/-- A client as it is while a lease on it has some number of holders: it is open, and with no holder
left it has been closed once. -/
structure Client.Held (holders : Nat) (c : Client) : Prop where
  uniform : c.Uniform (decide (holders = 0))
  closeCount : c.closeCount = if holders = 0 then 1 else 0

theorem Client.Held.congr {m n : Nat} {c : Client} (h : c.Held m) (hiff : m = 0 ↔ n = 0) :
    c.Held n := by
  obtain ⟨huniform, hcount⟩ := h
  simp only [hiff] at huniform hcount
  exact ⟨huniform, hcount⟩

theorem Client.Held.close {n : Nat} {c : Client} (h : c.Held (n + 1)) : c.close.Held 0 :=
  ⟨c.uniform_close, congrArg (· + 1) h.closeCount⟩

/-- A call of a collection of a closed client is refused, and all documents are as they were. -/
theorem Client.run_of_closed [PatternEngine] {α : Type} {s : Session Client}
    (h : s.state.Uniform true) (ref : CollectionRef) (call : StoreCall α) :
    ((⟨ref, .call call⟩ : Use).run s).1 = .error .closed ∧
      ∀ other, stored other ((⟨ref, .call call⟩ : Use).after s).state = stored other s.state := by
  let u : Use := ⟨ref, .call call⟩
  have hcall := Collection.run_of_closed call (s := s.withState (ref.collection s.state))
    (h.closed_collection ref.database ref.name)
  have hself : call.run (s.withState (ref.collection s.state)) =
      ((u.run s).1, (u.after s).withState (ref.collection (u.after s).state)) := u.run_self s
  rw [hself] at hcall
  refine ⟨hcall.1, fun other => ?_⟩
  by_cases hkey : other.key = ref.key
  · rw [stored_of_key_eq hkey, stored_of_key_eq hkey]
    exact hcall.2
  · exact congrArg Collection.documents (u.collection_after_of_ne s hkey)

namespace Workspace

def live (w : Workspace) : Nat := w.handles.length + w.repositories.length

/-- All handles and repositories hold one lease, and `pending` more of its holders have no name, no
longer or not yet. -/
structure Leased (lease pending : Nat) (w : Workspace) : Prop where
  handles : ∀ handle ∈ w.handles, handle.2 = lease
  repositories : ∀ entry ∈ w.repositories, entry.2.lease = lease
  holders : w.leases.holders lease = w.live + pending
  client : w.services.client.Held (w.live + pending)

variable {lease pending : Nat} {w : Workspace}

theorem Leased.share (h : Leased lease pending w) (hheld : 0 < w.live + pending) :
    Leased lease (pending + 1) { w with leases := w.leases.share lease } := by
  refine ⟨h.handles, h.repositories, ?_, h.client.congr ?_⟩
  · have hshared : (w.leases.share lease).holders lease = w.leases.holders lease + 1 := if_pos rfl
    exact hshared.trans (congrArg (· + 1) h.holders)
  · change w.live + pending = 0 ↔ w.live + (pending + 1) = 0
    omega

theorem Leased.release (h : Leased lease (pending + 1) w) :
    Leased lease pending (w.release lease) := by
  have hcount : (w.leases.giveBack lease).holders lease = w.live + pending := by
    have hback : (w.leases.giveBack lease).holders lease = w.leases.holders lease - 1 := if_pos rfl
    rw [hback, h.holders]
    omega
  rw [Workspace.release]
  -- Only the last holder closes the client, which was never closed while it was held.
  by_cases hlast : w.live + pending = 0
  · rw [if_pos (hcount.trans hlast)]
    have hclosed := h.client.close.congr (n := w.live + pending) (by simp only [hlast])
    exact ⟨h.handles, h.repositories, hcount, hclosed⟩
  · rw [if_neg (hcount ▸ hlast)]
    refine ⟨h.handles, h.repositories, hcount, h.client.congr ?_⟩
    change w.live + (pending + 1) = 0 ↔ w.live + pending = 0
    omega

theorem Leased.releaseAll {leases : List Nat} (hall : ∀ l ∈ leases, l = lease)
    (h : Leased lease (pending + leases.length) w) :
    Leased lease pending (w.releaseAll leases) := by
  induction leases generalizing w with
  | nil => exact h
  | cons l rest ih =>
    obtain ⟨rfl, hrest⟩ := List.forall_mem_cons.mp hall
    exact ih hrest h.release

theorem length_named_add {α : Type} (name : String) (items : List (String × α)) :
    (named name items).length + (unnamed name items).length = items.length := by
  rw [named, List.length_map]
  exact (List.length_eq_length_filter_add _).symm

theorem forall_named {α : Type} {p : α → Prop} {items : List (String × α)}
    (h : ∀ item ∈ items, p item.2) (name : String) :
    (∀ x ∈ named name items, p x) ∧ ∀ item ∈ unnamed name items, p item.2 := by
  refine ⟨fun x hx => ?_, fun item hitem => h item (List.mem_of_mem_filter hitem)⟩
  obtain ⟨item, hitem, rfl⟩ := List.mem_map.mp hx
  exact h item (List.mem_of_mem_filter hitem)

/-- Holders that had no name become handles or repositories, and those whose place they take give
back their lease. -/
theorem Leased.replace {w' : Workspace} {gone : List Nat} (h : Leased lease pending w)
    (hleases : w'.leases = w.leases) (hservices : w'.services = w.services)
    (hhandles : ∀ handle ∈ w'.handles, handle.2 = lease)
    (hrepositories : ∀ entry ∈ w'.repositories, entry.2.lease = lease)
    (hgone : ∀ l ∈ gone, l = lease) (hcount : w'.live + gone.length = w.live + pending) :
    Leased lease 0 (w'.releaseAll gone) := by
  rw [← Nat.zero_add gone.length] at hcount
  refine Leased.releaseAll hgone ⟨hhandles, hrepositories, ?_, ?_⟩
  · rw [hleases, hcount]
    exact h.holders
  · rw [hservices, hcount]
    exact h.client

theorem Leased.setHandles (added : List (String × Nat)) (h : Leased lease added.length w)
    (hadded : ∀ handle ∈ added, handle.2 = lease) (name : String) :
    Leased lease 0 ({ w with handles := added ++ unnamed name w.handles }.releaseAll
      (named name w.handles)) := by
  obtain ⟨hnamed, hunnamed⟩ := forall_named (p := (· = lease)) h.handles name
  have hlength := length_named_add name w.handles
  have hhandles := List.forall_mem_append.mpr ⟨hadded, hunnamed⟩
  refine h.replace rfl rfl hhandles h.repositories hnamed ?_
  simp only [live, List.length_append]
  omega

theorem Leased.setRepositories (added : List (String × LeasedRepository))
    (h : Leased lease added.length w) (hadded : ∀ entry ∈ added, entry.2.lease = lease)
    (name : String) :
    Leased lease 0 ({ w with repositories := added ++ unnamed name w.repositories }.releaseAll
      ((named name w.repositories).map LeasedRepository.lease)) := by
  obtain ⟨hnamed, hunnamed⟩ :=
    forall_named (p := fun r : LeasedRepository => r.lease = lease) h.repositories name
  have hlength := length_named_add name w.repositories
  have hrepositories := List.forall_mem_append.mpr ⟨hadded, hunnamed⟩
  refine h.replace rfl rfl h.handles hrepositories (List.forall_mem_map.mpr hnamed) ?_
  simp only [live, List.length_append, List.length_map]
  omega

theorem Leased.of_lookup (h : Leased lease pending w) {name : String} {l : Nat}
    (hlookup : w.handles.lookup name = some l) : l = lease ∧ 0 < w.live := by
  have hmem := Members.mem_of_lookup hlookup
  have hlength := List.length_pos_of_mem hmem
  exact ⟨h.handles _ hmem, by rw [live]; omega⟩

theorem Leased.lookup (h : Leased lease pending w) {handle : String × Nat}
    (hmem : handle ∈ w.handles) : w.handles.lookup handle.1 = some lease := by
  cases hlookup : w.handles.lookup handle.1 with
  | none =>
    have hne := List.lookup_eq_none_iff.mp hlookup handle hmem
    simp at hne
  | some l => rw [(h.of_lookup hlookup).1]

theorem Leased.cloneHandle (h : Leased lease 0 w) {name newName : String} {w' : Workspace}
    (hclone : w.cloneHandle name newName = some w') : Leased lease 0 w' := by
  obtain ⟨l, hlookup, rfl⟩ := Option.map_eq_some_iff.mp hclone
  obtain ⟨rfl, hlive⟩ := h.of_lookup hlookup
  have hshared := h.share (Nat.lt_of_lt_of_le hlive (Nat.le_add_right _ _))
  exact hshared.setHandles [(newName, l)] (List.forall_mem_singleton.mpr rfl) newName

theorem Leased.dropHandle (h : Leased lease 0 w) (name : String) :
    Leased lease 0 (w.dropHandle name) :=
  h.setHandles [] (List.forall_mem_nil _) name

theorem Leased.dropRepository (h : Leased lease 0 w) (name : String) :
    Leased lease 0 (w.dropRepository name) :=
  h.setRepositories [] (List.forall_mem_nil _) name

theorem release_share (h : 0 < w.leases.holders lease) :
    release lease { w with leases := w.leases.share lease } = w := by
  have hholders : ((w.leases.share lease).giveBack lease).holders = w.leases.holders := by
    funext i
    simp only [Leases.share, Leases.giveBack]
    split
    · exact Nat.add_sub_cancel _ 1
    · rfl
  have hleases : (w.leases.share lease).giveBack lease = w.leases :=
    congrArg (Leases.mk w.leases.taken) hholders
  have hheld : w.leases.holders lease ≠ 0 := Nat.pos_iff_ne_zero.mp h
  simp only [release, hleases, hheld, if_false]

/-- What comes of a repository that is opened for a handle: with a configuration that is not valid
everything is as before. -/
theorem Leased.openRepository (h : Leased lease 0 w) {handle : String × Nat}
    (hmem : handle ∈ w.handles) (name : String) (config : StoreConfig)
    (embedder : Option Embedder) :
    (∀ fault, config.validate = .error fault →
      w.openRepository name (some handle.1) config embedder = some (.error (.config fault), w)) ∧
    (config.validate = .ok () → ∃ w', Leased lease 0 w' ∧
      w.openRepository name (some handle.1) config embedder = some (.ok (), w')) := by
  have hlookup := h.lookup hmem
  have hlive := (h.of_lookup hlookup).2
  have hheld : 0 < w.leases.holders lease := by
    rw [h.holders]
    omega
  refine ⟨fun fault hfault => ?_, fun hvalid => ?_⟩
  · have hconfig : CasesRepository.ofConfig config embedder = .error (.config fault) := by
      rw [CasesRepository.ofConfig, hfault]
      rfl
    simp only [Workspace.openRepository, leaseFor, hlookup, Option.map_some, hconfig,
      release_share hheld]
  · have hconfig : CasesRepository.ofConfig config embedder = .ok ⟨config, embedder⟩ := by
      rw [CasesRepository.ofConfig, hvalid]
      rfl
    have hshared := h.share (Nat.lt_of_lt_of_le hlive (Nat.le_add_right _ _))
    refine ⟨_, hshared.setRepositories [(name, ⟨lease, config, embedder⟩)]
      (List.forall_mem_singleton.mpr rfl) name, ?_⟩
    simp only [Workspace.openRepository, leaseFor, hlookup, Option.map_some, hconfig]
    rfl

inductive Move where
  | cloneHandle (name newName : String)
  | dropHandle (name : String)
  | openRepository (name handle : String) (config : StoreConfig) (embedder : Option Embedder)
  | dropRepository (name : String)
  | use (u : Use)

/-- The services with a first handle on their client, and with no other handle or repository. -/
def opened (services : Services) (leases : Leases) (name : String) : Workspace :=
  newHandle name ⟨services, leases, [], []⟩

theorem leased_opened {services : Services} (hopen : services.client.Uniform false)
    (hcount : services.client.closeCount = 0) (leases : Leases) (name : String) :
    Leased leases.taken 0 (opened services leases name) where
  handles := List.forall_mem_singleton.mpr rfl
  repositories := List.forall_mem_nil _
  holders := if_pos rfl
  client := ⟨hopen, hcount⟩

section

variable [PatternEngine]

def perform (u : Use) : ExceptT StoreFailure (StateM (Session Workspace)) u.answer :=
  onServices (Services.on u.ref.database u.ref.name u.access.run)

namespace Move

/-- A move that names a handle that does not exist does nothing. -/
def after : Move → Session Workspace → Session Workspace
  | .cloneHandle name newName, s => s.withState ((s.state.cloneHandle name newName).getD s.state)
  | .dropHandle name, s => s.withState (s.state.dropHandle name)
  | .openRepository name handle config embedder, s =>
    s.withState (((s.state.openRepository name (some handle) config embedder).map Prod.snd).getD
      s.state)
  | .dropRepository name, s => s.withState (s.state.dropRepository name)
  | .use u, s => (perform u s).2

def run (moves : List Move) (s : Session Workspace) : Session Workspace :=
  moves.foldl (fun s move => move.after s) s

end Move

theorem Leased.perform (u : Use) {s : Session Workspace} (h : Leased lease 0 s.state) :
    Leased lease 0 (Workspace.perform u s).2.state := by
  have huniform := u.uniform_after (s.withState s.state.services.client) h.client.uniform
  exact ⟨h.handles, h.repositories, h.holders, huniform, h.client.closeCount⟩

theorem Leased.after (move : Move) {s : Session Workspace} (h : Leased lease 0 s.state) :
    Leased lease 0 (move.after s).state := by
  cases move with
  | cloneHandle name newName =>
    rw [Move.after]
    cases hclone : s.state.cloneHandle name newName with
    | none => exact h
    | some w' => exact h.cloneHandle hclone
  | dropHandle name => exact h.dropHandle name
  | openRepository name handle config embedder =>
    rw [Move.after]
    cases hlookup : s.state.handles.lookup handle with
    | none =>
      have hmissing : s.state.openRepository name (some handle) config embedder = none := by
        simp only [Workspace.openRepository, leaseFor, hlookup, Option.map_none]
      rw [hmissing]
      exact h
    | some l =>
      obtain ⟨hinvalid, hvalid⟩ :=
        h.openRepository (Members.mem_of_lookup hlookup) name config embedder
      cases hconfig : config.validate with
      | error fault =>
        rw [hinvalid fault hconfig]
        exact h
      | ok u =>
        obtain ⟨w', hw', heq⟩ := hvalid hconfig
        rw [heq]
        exact hw'
  | dropRepository name => exact h.dropRepository name
  | use u => exact h.perform u

theorem Leased.run (moves : List Move) {s : Session Workspace} (h : Leased lease 0 s.state) :
    Leased lease 0 (Move.run moves s).state := by
  induction moves generalizing s with
  | nil => exact h
  | cons move moves ih => exact ih (h.after move)

/-- Without a handle there is nothing to clone and nothing to open a repository for. -/
theorem live_after (move : Move) {s : Session Workspace} (h : s.state.live = 0) :
    (move.after s).state.live = 0 := by
  obtain ⟨ids, services, leases, handles, repositories⟩ := s
  obtain ⟨hhandles, hrepositories⟩ := Nat.add_eq_zero_iff.mp h
  cases List.eq_nil_of_length_eq_zero hhandles
  cases List.eq_nil_of_length_eq_zero hrepositories
  cases move <;> rfl

theorem live_run (moves : List Move) {s : Session Workspace} (h : s.state.live = 0) :
    (Move.run moves s).state.live = 0 := by
  induction moves generalizing s with
  | nil => exact h
  | cons move moves ih => exact ih (live_after move h)

/-- Of a client with one first handle, in whatever order handles are cloned and dropped,
repositories opened and dropped, and collections used: the lease counts all handles and
repositories, the client is closed once, when the last of them is gone, an attempt to open a
repository that fails has changed nothing, and the closed client refuses all calls and keeps its
documents from then on. -/
theorem leases_counted {services : Services} (hopen : services.client.Uniform false)
    (hcount : services.client.closeCount = 0) (leases : Leases) (name : String) (ids : IdSource)
    (moves : List Move) {s : Session Workspace}
    (hs : s = Move.run moves ⟨ids, opened services leases name⟩) :
    s.state.leases.holders leases.taken = s.state.live ∧
    (∀ handle ∈ s.state.handles, s.state.leaseCount handle.1 = some s.state.live) ∧
    s.state.services.client.closeCount = (if s.state.live = 0 then 1 else 0) ∧
    (∀ handle ∈ s.state.handles, ∀ name config embedder fault, config.validate = .error fault →
      s.state.openRepository name (some handle.1) config embedder =
        some (.error (.config fault), s.state)) ∧
    (s.state.live = 0 → ∀ more, (Move.run more s).state.live = 0 ∧
      (Move.run more s).state.services.client.closeCount = 1 ∧
      ∀ ref (α : Type) (call : StoreCall α),
        (perform ⟨ref, .call call⟩ (Move.run more s)).1 = .error .closed ∧
        ∀ other, Client.stored other
            (perform ⟨ref, .call call⟩ (Move.run more s)).2.state.services.client =
          Client.stored other (Move.run more s).state.services.client) := by
  have hleased : Leased leases.taken 0 s.state := by
    rw [hs]
    exact (leased_opened hopen hcount leases name).run moves
  refine ⟨hleased.holders, fun handle hmem => ?_, hleased.client.closeCount,
    fun handle hmem => ?_, fun hlive more => ?_⟩
  · rw [leaseCount, hleased.lookup hmem, Option.map_some, hleased.holders]
    rfl
  · intro name config embedder
    exact (hleased.openRepository hmem name config embedder).1
  · have hgone := live_run more hlive
    obtain ⟨huniform, hclosed⟩ := (hleased.run more).client
    rw [hgone] at huniform hclosed
    refine ⟨hgone, hclosed, fun ref α call => ?_⟩
    exact Client.run_of_closed
      (s := (Move.run more s).withState (Move.run more s).state.services.client) huniform ref call

end

def movesSample : List Move :=
  [.cloneHandle "first" "second", .openRepository "cases" "second" (.ofDatabase "cams") none,
    .dropHandle "first", .openRepository "other" "second" (.ofDatabase "") none,
    .dropHandle "second", .dropRepository "cases"]

theorem leases_counted_released :
    Services.empty.client.Uniform false ∧ Services.empty.client.closeCount = 0 ∧
      (Move.run movesSample ⟨⟨ObjectId.ofNat, Nat.repr, 0⟩,
        opened .empty .empty "first"⟩).state.live = 0 ∧
      (perform ⟨⟨"cams", "cases"⟩, .call (.count .null)⟩ (Move.run movesSample
        ⟨⟨ObjectId.ofNat, Nat.repr, 0⟩, opened .empty .empty "first"⟩)).1 = .error .closed := by
  have hopen : Services.empty.client.Uniform false := ⟨rfl, List.forall_mem_nil _⟩
  have hlive : (Move.run movesSample ⟨⟨ObjectId.ofNat, Nat.repr, 0⟩,
      opened .empty .empty "first"⟩).state.live = 0 := by decide +kernel
  obtain ⟨-, -, -, -, hgone⟩ := leases_counted hopen rfl .empty "first"
    ⟨ObjectId.ofNat, Nat.repr, 0⟩ movesSample rfl
  obtain ⟨-, -, hcalls⟩ := hgone hlive []
  exact ⟨hopen, rfl, hlive, (hcalls ⟨"cams", "cases"⟩ Nat (.count .null)).1⟩

end Workspace
end DocQuery
