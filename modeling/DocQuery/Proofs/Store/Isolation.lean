import DocQuery.Proofs.Store.Writing
import DocQuery.Regex.Engine
import DocQuery.Store.Client

/-!
# Collections of one client

A collection of a client is found under the joined names of its database and its own. Where two
pairs of names join to different texts, whatever is done through one leaves the other alone, and
each collection answers out of what was done through it. Pairs that join to one text share a
collection.
-/
namespace DocQuery

namespace Collection

variable {α : Type}

def fixed (s : Session Collection) : String × Bool := (s.state.name, s.state.closed)

abbrev KeepsFixed (action : StoreAction Collection α) : Prop := Outcome.Keeps fixed action

theorem keepsFixed_begin (filter : Option Json) : KeepsFixed (begin filter) := by
  rintro ⟨ids, name, documents, failure, lastFilter, lastPipeline, closed⟩
  cases closed <;> cases filter <;> cases failure <;> rfl

theorem keepsFixed_liftExcept (result : Except StoreFailure α) : KeepsFixed (liftExcept result) :=
  Outcome.keeps_liftExcept _ result

theorem keepsFixed_pure (x : α) : KeepsFixed (pure x) := Outcome.keeps_pure _ x

theorem keepsFixed_store (documents : List Json) : KeepsFixed (store documents) := fun _ => rfl

theorem mapM_withObjectId_state (documents : List Json) (s : Session Collection) :
    ((documents.mapM withObjectId : StateM (Session Collection) (List Json)) s).2.state =
      s.state := by
  induction documents generalizing s with
  | nil => rfl
  | cons d documents ih =>
    rw [List.mapM_cons]
    exact (ih _).trans (withObjectId_state d s)

theorem keepsFixed_append (documents : List Json) :
    KeepsFixed (append documents : StoreAction Collection Unit) := by
  intro s
  have hfixed := congrArg (fun c : Collection => (c.name, c.closed))
    (mapM_withObjectId_state documents s)
  exact hfixed

variable [PatternEngine]

theorem keepsFixed_marked (filter : Json) : KeepsFixed (marked filter) := by
  have hget : KeepsFixed (get : StoreAction Collection (Session Collection)) := fun _ => rfl
  exact hget.bind fun _ => keepsFixed_liftExcept _

theorem keepsFixed_onMarked (filter : Json) {next : List (Json × Bool) → StoreAction Collection α}
    (h : ∀ m, KeepsFixed (next m)) : KeepsFixed (onMarked filter next) :=
  (keepsFixed_begin _).bind fun _ => (keepsFixed_marked filter).bind h

theorem keepsFixed_find (filter : Json) (order : Option Json) : KeepsFixed (find filter order) := by
  refine keepsFixed_onMarked filter fun m => ?_
  cases order with
  | none => exact keepsFixed_pure _
  | some spec => exact keepsFixed_liftExcept _

theorem keepsFixed_replaceOne (filter replacement : Json) (upsert : Bool) :
    KeepsFixed (replaceOne filter replacement upsert) := by
  refine keepsFixed_onMarked filter fun m => ?_
  cases (Documents.chosen m).head? with
  | some old => exact (keepsFixed_store _).bind fun _ => keepsFixed_pure _
  | none =>
    cases upsert with
    | false => exact keepsFixed_pure _
    | true => exact (keepsFixed_append _).bind fun _ => keepsFixed_pure _

theorem keepsFixed_updateOne (filter update : Json) : KeepsFixed (updateOne filter update) := by
  cases update with
  | object operators =>
    refine keepsFixed_onMarked filter fun m => ?_
    cases (Documents.chosen m).head? with
    | none => exact keepsFixed_pure _
    | some old =>
      exact (keepsFixed_store _).bind fun _ => (keepsFixed_liftExcept _).bind fun _ =>
        keepsFixed_pure _
  | _ => exact (keepsFixed_begin _).bind fun _ => Outcome.keeps_throw _ _

theorem keepsFixed_delete (many : Bool) (filter : Json) : KeepsFixed (delete many filter) :=
  keepsFixed_onMarked filter fun _ => (keepsFixed_store _).bind fun _ => keepsFixed_pure _

theorem keepsFixed_aggregate (stages : List Json) : KeepsFixed (aggregate stages) := by
  have hrecord : KeepsFixed (change (ran stages)) := fun _ => rfl
  have hget : KeepsFixed (get : StoreAction Collection (Session Collection)) := fun _ => rfl
  exact hrecord.bind fun _ => (keepsFixed_begin none).bind fun _ => hget.bind fun _ =>
    keepsFixed_liftExcept _

end Collection

theorem StoreCall.keepsFixed [PatternEngine] {α : Type} (call : StoreCall α) :
    Collection.KeepsFixed call.run := by
  cases call with
  | find filter sort => exact Collection.keepsFixed_find filter sort
  | findOne filter =>
    exact (Collection.keepsFixed_find filter none).bind fun _ => Collection.keepsFixed_pure _
  | insertOne document =>
    exact (Collection.keepsFixed_begin none).bind fun _ =>
      (Collection.keepsFixed_append _).bind fun _ => Collection.keepsFixed_pure _
  | insertMany documents =>
    exact (Collection.keepsFixed_begin none).bind fun _ =>
      (Collection.keepsFixed_append _).bind fun _ => Collection.keepsFixed_pure _
  | replaceOne filter replacement upsert =>
    exact Collection.keepsFixed_replaceOne filter replacement upsert
  | updateOne filter update => exact Collection.keepsFixed_updateOne filter update
  | deleteOne filter => exact Collection.keepsFixed_delete false filter
  | deleteMany filter => exact Collection.keepsFixed_delete true filter
  | count filter =>
    exact (Collection.keepsFixed_find filter none).bind fun _ => Collection.keepsFixed_pure _
  | aggregate stages => exact Collection.keepsFixed_aggregate stages

/-- Anything that is done with the handle of a collection, with the type of its answer: a call of
the store, a look at what the collection keeps, the documents and the failure that a test plants. -/
inductive Access : Type → Type 1 where
  | call {α : Type} (call : StoreCall α) : Access α
  | look {α : Type} (part : Collection → α) : Access α
  | seed (documents : List Json) : Access Unit
  | failNext (failure : StoreFailure) : Access Unit

namespace Access

variable {α : Type} [PatternEngine]

def run : Access α → StoreAction Collection α
  | .call c => c.run
  | .look part => do return part (← get).state
  | .seed documents => Collection.append documents
  | .failNext failure => Collection.change (Collection.failNext failure)

theorem keepsFixed (access : Access α) : Collection.KeepsFixed access.run := by
  cases access with
  | call c => exact c.keepsFixed
  | look part => exact fun _ => rfl
  | seed documents => exact Collection.keepsFixed_append documents
  | failNext failure => exact fun _ => rfl

end Access

structure CollectionRef where
  database : String
  name : String
  deriving DecidableEq

namespace CollectionRef

def key (ref : CollectionRef) : String := Client.key ref.database ref.name

def collection (ref : CollectionRef) (c : Client) : Collection :=
  c.collection ref.database ref.name

end CollectionRef

structure Use where
  ref : CollectionRef
  {answer : Type}
  access : Access answer

structure Use.Entry where
  use : Use
  result : Except StoreFailure use.answer

namespace Use

variable [PatternEngine]

def run (u : Use) : ExceptT StoreFailure (StateM (Session Client)) u.answer :=
  Client.on u.ref.database u.ref.name u.access.run

def after (u : Use) (s : Session Client) : Session Client := (u.run s).2

def log : List Use → Session Client → List Entry
  | [], _ => []
  | u :: rest, s => ⟨u, (u.run s).1⟩ :: log rest (u.after s)

def final (uses : List Use) (s : Session Client) : Session Client :=
  uses.foldl (fun s u => u.after s) s

/-- The entries in which the collection of some names was used. -/
def logOf (ref : CollectionRef) (uses : List Use) (s : Session Client) : List Entry :=
  (log uses s).filter fun e => e.use.ref = ref

end Use

/-- The entries are those of a run of one collection by itself. Only the identifiers that it draws
are not told. -/
inductive Serves [PatternEngine] : Collection → List Use.Entry → Collection → Prop
  | nil (c : Collection) : Serves c [] c
  | cons {s t : Session Collection} {u : Use} {result : Except StoreFailure u.answer}
      {entries : List Use.Entry} {c : Collection} (first : u.access.run s = (result, t))
      (rest : Serves t.state entries c) : Serves s.state (⟨u, result⟩ :: entries) c

theorem Serves.name_eq [PatternEngine] {c c' : Collection} {entries : List Use.Entry}
    (h : Serves c entries c') : c'.name = c.name := by
  induction h with
  | nil c => rfl
  | @cons s t u result entries c first rest ih =>
    have hfixed := u.access.keepsFixed s
    rw [first] at hfixed
    exact ih.trans (congrArg Prod.fst hfixed)

theorem Serves.eq_of_nil [PatternEngine] {c c' : Collection} (h : Serves c [] c') : c = c' := by
  cases h
  rfl

namespace Client

theorem lookup_insert (key : String) (x : Collection)
    (collections : List (String × Collection)) :
    (insert key x collections).lookup key = some x := by
  induction collections with
  | nil => simp [insert]
  | cons entry rest ih =>
    obtain ⟨k, y⟩ := entry
    rw [insert]
    by_cases hk : k = key
    · simp [hk]
    · have hbeq : (key == k) = false := beq_eq_false_iff_ne.mpr (Ne.symm hk)
      rw [if_neg hk, List.lookup_cons, hbeq, ih]

theorem collection_setCollection (database name : String) (x : Collection) (c : Client) :
    (c.setCollection database name x).collection database name = x := by
  rw [collection, setCollection, lookup_insert, Option.getD_some]

theorem lookup_insert_of_ne {key other : String} (h : other ≠ key) (x : Collection)
    (collections : List (String × Collection)) :
    (insert key x collections).lookup other = collections.lookup other := by
  have hbeq : (other == key) = false := beq_eq_false_iff_ne.mpr h
  induction collections with
  | nil => simp [insert, List.lookup_cons, hbeq]
  | cons entry rest ih =>
    obtain ⟨k, y⟩ := entry
    rw [insert]
    by_cases hk : k = key
    · simp [hk, List.lookup_cons, hbeq]
    · rw [if_neg hk, List.lookup_cons, List.lookup_cons, ih]

end Client

namespace Use

variable [PatternEngine] {ref : CollectionRef} (u : Use) (s : Session Client)

/-- A use runs on the collection of its names, and leaves there what it made of it. -/
theorem run_self :
    u.access.run (s.withState (u.ref.collection s.state)) =
      ((u.run s).1, (u.after s).withState (u.ref.collection (u.after s).state)) := by
  let inner := u.access.run (s.withState (u.ref.collection s.state))
  have hcollection : u.ref.collection (u.after s).state = inner.2.state :=
    Client.collection_setCollection u.ref.database u.ref.name inner.2.state s.state
  rw [hcollection]
  rfl

theorem collection_after_of_ne (h : ref.key ≠ u.ref.key) :
    ref.collection (u.after s).state = ref.collection s.state := by
  have hlookup := Client.lookup_insert_of_ne h
    (u.access.run (s.withState (u.ref.collection s.state))).2.state s.state.collections
  exact congrArg (fun x => Option.getD x (.empty ref.name s.state.closed)) hlookup

/-- In a run each collection is served by itself, unless names are used that join to its text and
are other names. -/
theorem serves_run {uses : List Use} (h : ∀ u ∈ uses, ref.key = u.ref.key → u.ref = ref)
    (s : Session Client) :
    Serves (ref.collection s.state) (logOf ref uses s) (ref.collection (final uses s).state) := by
  induction uses generalizing s with
  | nil => exact .nil _
  | cons u rest ih =>
    obtain ⟨hu, hrest⟩ := List.forall_mem_cons.mp h
    have hserves := ih hrest (u.after s)
    by_cases hself : u.ref = ref
    · subst hself
      have hlog : logOf u.ref (u :: rest) s =
          ⟨u, (u.run s).1⟩ :: logOf u.ref rest (u.after s) := by simp [logOf, log]
      rw [hlog]
      exact .cons (u.run_self s) hserves
    · have hlog : logOf ref (u :: rest) s = logOf ref rest (u.after s) := by
        simp [logOf, log, hself]
      rw [hlog, ← u.collection_after_of_ne s fun hkey => hself (hu hkey)]
      exact hserves

end Use

namespace CollectionRef

/-- The names of `b` are those of `a` with the dot elsewhere: the database of `a` ends in what the
collection of `b` begins with. -/
def Extends (a b : CollectionRef) (middle : String) : Prop :=
  a.database = b.database ++ "." ++ middle ∧ b.name = middle ++ "." ++ a.name

theorem Extends.key_eq {a b : CollectionRef} {middle : String} (h : Extends a b middle) :
    a.key = b.key := by
  obtain ⟨hdatabase, hname⟩ := h
  simp only [key, Client.key, hdatabase, hname, String.append_assoc]

/-- Where the joined texts agree and one database is a prefix of the other. -/
theorem eq_or_extends {a b : CollectionRef} {more : List Char}
    (hdatabase : a.database.toList = b.database.toList ++ more)
    (hname : '.' :: b.name.toList = more ++ '.' :: a.name.toList) :
    a = b ∨ ∃ middle, a.Extends b middle := by
  cases more with
  | nil =>
    left
    rw [List.append_nil] at hdatabase
    have hnames := (List.cons.inj hname).2
    cases a
    cases b
    simp_all [String.toList_inj]
  | cons c middle =>
    obtain ⟨rfl, hrest⟩ := List.cons.inj hname
    refine .inr ⟨String.ofList middle, ?_, ?_⟩
    · apply String.toList_inj.mp
      simp [hdatabase]
    · apply String.toList_inj.mp
      simp [hrest]

theorem key_eq_iff {a b : CollectionRef} :
    a.key = b.key ↔ a = b ∨ ∃ middle, a.Extends b middle ∨ b.Extends a middle := by
  constructor
  · intro h
    have hchars := congrArg String.toList h
    simp only [key, Client.key, String.toList_append, List.append_assoc] at hchars
    rcases List.append_eq_append_iff.mp hchars with ⟨more, hb, ha⟩ | ⟨more, ha, hb⟩
    · rcases eq_or_extends hb ha with rfl | ⟨middle, hextends⟩
      · exact .inl rfl
      · exact .inr ⟨middle, .inr hextends⟩
    · rcases eq_or_extends ha hb with rfl | ⟨middle, hextends⟩
      · exact .inl rfl
      · exact .inr ⟨middle, .inl hextends⟩
  · rintro (rfl | ⟨middle, h | h⟩)
    · rfl
    · exact h.key_eq
    · exact h.key_eq.symm

variable {a b : CollectionRef}

theorem not_extends {middle : String} (h : '.' ∉ a.database.toList) : ¬ a.Extends b middle := by
  rintro ⟨hdatabase, -⟩
  refine h ?_
  rw [hdatabase]
  simp

section

variable [PatternEngine]

/-- Whatever is done through two collections of a client, each answers and is left as if it had been
used alone, and in a client without collections each gets the name under which it is asked for. -/
def Isolated (a b : CollectionRef) : Prop :=
  ∀ (uses : List Use) (s : Session Client), (∀ u ∈ uses, u.ref = a ∨ u.ref = b) →
    ∀ ref, ref = a ∨ ref = b →
      Serves (ref.collection s.state) (Use.logOf ref uses s)
        (ref.collection (Use.final uses s).state) ∧
      (s.state.collections = [] → (ref.collection (Use.final uses s).state).name = ref.name)

theorem isolated_of_key_ne (h : a.key ≠ b.key) : Isolated a b := by
  intro uses s huses ref href
  have hself : ∀ u ∈ uses, ref.key = u.ref.key → u.ref = ref := by
    intro u hu hkey
    rcases href with rfl | rfl
    · rcases huses u hu with hu | hu
      · exact hu
      · exact absurd (hu ▸ hkey) h
    · rcases huses u hu with hu | hu
      · exact absurd (hu ▸ hkey).symm h
      · exact hu
  have hserves := Use.serves_run hself s
  refine ⟨hserves, fun hnone => ?_⟩
  rw [hserves.name_eq, collection, Client.collection, hnone]
  rfl

/-- What is stored under one pair of names is there under another that joins to the same text. -/
theorem not_isolated_of_key_eq (hne : a ≠ b) (h : a.key = b.key) : ¬ Isolated a b := by
  intro hisolated
  let u : Use := ⟨b, .seed [.null]⟩
  let s : Session Client := ⟨⟨ObjectId.ofNat, Nat.repr, 0⟩, .empty⟩
  have huses : ∀ v ∈ [u], v.ref = a ∨ v.ref = b :=
    List.forall_mem_singleton.mpr (.inr rfl)
  obtain ⟨hserves, -⟩ := hisolated [u] s huses a (.inl rfl)
  have hlog : Use.logOf a [u] s = [] := by simp [Use.logOf, Use.log, u, hne.symm]
  have hbefore : (a.collection s.state).documents = [] := rfl
  have hafter : (a.collection (u.after s).state).documents = [.null] := by
    have hstored : (u.after s).state.collections.lookup a.key =
        some (u.access.run (s.withState (u.ref.collection s.state))).2.state := by
      rw [h]
      exact Client.lookup_insert _ _ _
    rw [collection, Client.collection, ← key, hstored]
    rfl
  rw [hlog] at hserves
  rw [hserves.eq_of_nil] at hbefore
  cases hbefore.symm.trans hafter

/-- The collections of two pairs of names are isolated unless one database has the name of the other
with more after a dot, and the name of the other collection begins with as much before a dot. -/
theorem isolated_iff (hne : a ≠ b) :
    Isolated a b ↔ ¬ ∃ middle, a.Extends b middle ∨ b.Extends a middle := by
  have hkey : a.key = b.key ↔ ∃ middle, a.Extends b middle ∨ b.Extends a middle :=
    key_eq_iff.trans (or_iff_right hne)
  rw [← hkey]
  exact ⟨fun hisolated h => not_isolated_of_key_eq hne h hisolated, isolated_of_key_ne⟩

end

/-- Two collections of one database. -/
theorem isolated_iff_cams : Isolated ⟨"cams", "cases"⟩ ⟨"cams", "orders"⟩ := by
  refine (isolated_iff (by decide)).mpr ?_
  rintro ⟨middle, h | h⟩
  · exact not_extends (by decide) h
  · exact not_extends (by decide) h

/-- The collection `c` of the database `a.b` is the collection `b.c` of the database `a`. -/
theorem exists_shared : ¬ ∀ a b : CollectionRef, a ≠ b → Isolated a b := by
  intro h
  have hne : CollectionRef.mk "a.b" "c" ≠ ⟨"a", "b.c"⟩ := by decide
  exact not_isolated_of_key_eq hne (by decide) (h _ _ hne)

end CollectionRef
end DocQuery
