import DocQuery.Proofs.Adapter.Atomicity
import DocQuery.Store.Scripted

/-!
# What is found out before a store is asked

A request fault is found before the store is asked, so that it is safe to ask again, with one
exception: the answer to a pipeline that ends in a page may be no page, and that is reported as a
request fault as well. `requestFault_called_iff` tells these cases apart for a store that may give
any answers and fail in any way.
-/
namespace DocQuery

/-- An answer that the request is at fault. -/
def Outcome.RequestFault {α : Type} (result : Except QueryError α) : Prop :=
  ∃ e, result = .error e ∧ e.isRequestFault = true

namespace Outcome

variable {α β : Type}

theorem requestFault_error {e : QueryError} :
    RequestFault (.error e : Except QueryError α) ↔ e.isRequestFault = true := by
  simp [RequestFault]

theorem not_requestFault_ok (x : α) : ¬ RequestFault (.ok x) := by
  rintro ⟨e, he, -⟩
  cases he

theorem requestFault_map (f : α → β) (result : Except QueryError α) :
    RequestFault (result.map f) ↔ RequestFault result := by
  cases result with
  | error e => exact requestFault_error.trans requestFault_error.symm
  | ok x => exact iff_of_false (not_requestFault_ok _) (not_requestFault_ok x)

end Outcome

namespace Action
open Outcome

variable {σ α β : Type} {action : Action σ α} {next : α → Action σ β}

/-- An action that never ends in a request fault. -/
def Faultless (action : Action σ α) : Prop := ∀ s, ¬ RequestFault (action s).1

/-- An action that has not touched its store when it ends in a request fault. -/
def Early (action : Action σ α) : Prop :=
  ∀ s, RequestFault (action s).1 → (action s).2.state = s.state

theorem Faultless.early (h : Faultless action) : Early action :=
  fun s hfault => absurd hfault (h s)

theorem Faultless.bind (ha : Faultless action) (hn : ∀ x, Faultless (next x)) :
    Faultless (action >>= next) := by
  intro s
  refine bind_elim (P := fun run : Except QueryError β × Session σ => ¬ RequestFault run.1)
    (fun e t hrun hfault => ?_) fun x t _ => hn x t
  refine ha s ?_
  rw [hrun]
  exact requestFault_error.mpr (requestFault_error.mp hfault)

theorem Early.bind (ha : Keeps Session.state action) (hn : ∀ x, Early (next x)) :
    Early (action >>= next) := by
  intro s
  have hs := ha s
  refine bind_elim (P := fun run : Except QueryError β × Session σ =>
    RequestFault run.1 → run.2.state = s.state) (fun e t hrun _ => ?_) fun x t hrun hfault => ?_
  · rwa [hrun] at hs
  · rw [hrun] at hs
    exact (hn x t hfault).trans hs

theorem faultless_pure (x : α) : Faultless (pure x : Action σ α) :=
  fun _ => not_requestFault_ok x

theorem faultless_throw {e : QueryError} (h : e.isRequestFault = false) :
    Faultless (throw e : Action σ α) := by
  intro s hfault
  cases h.symm.trans (requestFault_error.mp hfault)

theorem faultless_liftExcept {result : Except QueryError α} (h : ¬ RequestFault result) :
    Faultless (liftExcept result : Action σ α) := by
  intro s
  rwa [liftExcept_apply]

/-- A result in front of what ends in no request fault is the only one to look at. -/
theorem requestFault_liftExcept_bind {result : Except QueryError α} (h : ∀ x, Faultless (next x))
    (s : Session σ) :
    RequestFault ((liftExcept result >>= next : Action σ β) s).1 ↔ RequestFault result := by
  have hlift := liftExcept_apply result s
  cases result with
  | error e =>
    rw [bind_of_error hlift]
    exact requestFault_error.trans requestFault_error.symm
  | ok x =>
    rw [bind_of_ok hlift]
    exact iff_of_false (h x s) (not_requestFault_ok x)

/-- Compiling a query comes first, and after it no request fault may be left to be found. -/
theorem early_compiled (query : Expr) {next : Json → Action σ β}
    (h : ∀ filter, Faultless (next filter)) :
    Early (liftExcept (Native.filter query) >>= next) :=
  .bind (keeps_liftExcept _ _) fun filter => (h filter).early

end Action

namespace Adapter
open DocQuery.Action Outcome

variable {σ α : Type} (A : Adapter)

theorem faultless_ask (query : Json) (action : StoreAction σ α) :
    Faultless (A.ask query action) := by
  rintro s ⟨e, he, hfault⟩
  obtain ⟨failure, -, rfl⟩ := exists_of_mapError_eq_error he
  exact Bool.false_ne_true hfault

theorem faultless_missing (what : Missing) : Faultless (A.missing what : Action σ α) :=
  faultless_throw rfl

section

variable [Document α]

theorem not_requestFault_read (d : Json) :
    ¬ RequestFault (Document.read d : Except QueryError α) := by
  rintro ⟨e, he, hfault⟩
  obtain ⟨err, -, rfl⟩ := exists_of_mapError_eq_error he
  exact Bool.false_ne_true hfault

theorem faultless_read (documents : List Json) :
    Faultless (liftExcept (documents.mapM Document.read) : Action σ (List α)) := by
  refine faultless_liftExcept ?_
  rintro ⟨e, he, hfault⟩
  obtain ⟨d, -, hd⟩ := exists_of_mapM_eq_error he
  exact not_requestFault_read d ⟨e, hd, hfault⟩

end

section

variable [DocumentStore σ] [Document α]

theorem faultless_findBy (filter : Json) (sort : Option SortSpec) :
    Faultless (A.findBy filter sort : Action σ (List α)) :=
  (A.faultless_ask _ _).bind faultless_read

theorem early_findOne (query : Expr) : Early (A.findOne query : Action σ α) := by
  refine early_compiled query fun filter => (A.faultless_ask _ _).bind fun first => ?_
  cases first with
  | none => exact A.faultless_missing _
  | some d => exact faultless_liftExcept (not_requestFault_read d)

theorem early_replaceOne (query : Expr) (item : α) (upsert : Bool) :
    Early (A.replaceOne query item upsert : Action σ String) := by
  refine .bind (keeps_liftExcept _ _) fun filter => ?_
  refine .bind (Document.keeps_identified _) fun ⟨document, id⟩ => ?_
  refine ((A.faultless_ask _ _).bind fun outcome => ?_).early
  split
  · split
    · exact faultless_throw rfl
    · exact A.faultless_missing _
  · split
    · exact A.faultless_missing _
    · exact faultless_pure id

theorem early_insertOne (item : α) : Early (A.insertOne item : Action σ String) := by
  refine .bind (Document.keeps_identified _) fun ⟨document, id⟩ => ?_
  refine ((A.faultless_ask _ _).bind fun acknowledged => ?_).early
  cases acknowledged with
  | true => exact faultless_pure id
  | false => exact faultless_throw rfl

theorem early_insertMany (items : List α) :
    Early (A.insertMany items : Action σ (List String)) := by
  refine .bind (keeps_mapM fun item => Document.keeps_identified _) fun prepared => ?_
  refine ((A.faultless_ask _ _).bind fun outcome => ?_).early
  split
  · exact faultless_pure _
  · exact faultless_throw rfl

theorem early_updateOne (query : Expr) (patch : Json) :
    Early (A.updateOne query patch : Action σ Nat) := by
  refine early_compiled query fun filter => (A.faultless_ask _ _).bind fun outcome => ?_
  split
  · exact A.faultless_missing _
  · exact faultless_pure _

theorem early_deleteOne (query : Expr) : Early (A.deleteOne query : Action σ Nat) := by
  refine early_compiled query fun filter => (A.faultless_ask _ _).bind fun outcome => ?_
  split
  · exact faultless_pure _
  · exact A.faultless_missing _

theorem early_deleteMany (query : Expr) : Early (A.deleteMany query : Action σ Nat) := by
  refine early_compiled query fun filter => (A.faultless_ask _ _).bind fun outcome => ?_
  split
  · exact faultless_pure _
  · exact A.faultless_missing _

end

/-- An answer to a pipeline that ends in a page, when no page can be taken from it. -/
def NoPage : List Json → Prop
  | [] => False
  | [facet] => ∃ data, facet.get? "data" = some data ∧ data.isArray = false
  | _ :: _ :: _ => True

theorem requestFault_splitFacet (results : List Json) :
    RequestFault (splitFacet results) ↔ NoPage results := by
  match results with
  | [] => exact iff_of_false (not_requestFault_ok _) id
  | _ :: _ :: _ => exact iff_of_true (requestFault_error.mpr rfl) trivial
  | [facet] =>
    cases hdata : facet.get? "data" with
    | none =>
      refine iff_of_false ?_ (fun ⟨data, hsome, _⟩ => by cases hdata.symm.trans hsome)
      rw [splitFacet, hdata]
      exact not_requestFault_ok _
    | some data =>
      rw [NoPage, splitFacet, hdata]
      cases data with
      | array items =>
        refine iff_of_false (not_requestFault_ok _) ?_
        rintro ⟨data, hsome, hlist⟩
        cases hsome
        cases hlist
      | _ => exact iff_of_true (requestFault_error.mpr rfl) ⟨_, rfl, rfl⟩

end Adapter

namespace Scripted

def upcoming (store : Scripted) : Reply := store.replies.head?.getD {}

def recorded (call : Json) (s : Session Scripted) : Session Scripted :=
  s.withState (next call s.state).2

theorem calls_recorded (call : Json) (s : Session Scripted) :
    (recorded call s).state.calls = s.state.calls ++ [call] := by
  obtain ⟨ids, replies, calls⟩ := s
  cases replies <;> rfl

theorem answer_apply {α : Type} (name : String) (args : List Json) (read : Reply → α)
    (s : Session Scripted) :
    answer name args read s =
      (match s.state.upcoming.failure with
        | some failure => .error failure
        | none => .ok (read s.state.upcoming),
        recorded (.array (.string name :: args)) s) := by
  obtain ⟨ids, replies, calls⟩ := s
  cases replies with
  | nil => rfl
  | cons reply rest =>
    obtain ⟨failure⟩ := reply
    cases failure <;> rfl

end Scripted

namespace Adapter
open DocQuery.Action Outcome

variable {β : Type} (A : Adapter) {s : Session Scripted}

theorem run_uncompiled {p : Pipeline} {err : QueryError}
    (h : Native.pipeline A.renderer p = .error err) : A.run p s = (.error err, s) := by
  rw [run, h]
  rfl

theorem ask_answer {α : Type} (query : Json) (name : String) (args : List Json)
    (read : Reply → α) :
    A.ask query (Scripted.answer name args read) s = (match s.state.upcoming.failure with
      | some failure => .error (.store A.module query failure)
      | none => .ok (read s.state.upcoming),
      Scripted.recorded (.array (.string name :: args)) s) := by
  have hanswer := Scripted.answer_apply name args read s
  change ((Scripted.answer name args read s).1.mapError _, (Scripted.answer name args read s).2) = _
  rw [hanswer]
  cases s.state.upcoming.failure <;> rfl

theorem run_scripted {p : Pipeline} {stages : List Json}
    (h : Native.pipeline A.renderer p = .ok stages) :
    A.run p s = (match s.state.upcoming.failure with
      | some failure => .error (.store A.module (.array stages) failure)
      | none => .ok s.state.upcoming.documents,
      Scripted.recorded (.array [.string "aggregate", .array stages]) s) := by
  rw [run, h]
  exact A.ask_answer (.array stages) "aggregate" [.array stages] Reply.documents

/-- When a pipeline was run, a request fault after the call is one of the answer. -/
theorem requestFault_called_run_iff {p : Pipeline} {next : List Json → Action Scripted β}
    {bad : List Json → Prop} (hnext : ∀ results t, RequestFault (next results t).1 ↔ bad results)
    (hkeeps : ∀ results, Keeps Session.state (next results)) :
    RequestFault ((A.run p >>= next) s).1 ∧
        ((A.run p >>= next) s).2.state.calls ≠ s.state.calls ↔
      (∃ stages, Native.pipeline A.renderer p = .ok stages) ∧
        s.state.upcoming.failure = none ∧ bad s.state.upcoming.documents := by
  cases hp : Native.pipeline A.renderer p with
  | error err =>
    rw [bind_of_error (A.run_uncompiled hp)]
    simp
  | ok stages =>
    have hrun := A.run_scripted (s := s) hp
    cases hfailure : s.state.upcoming.failure with
    | some failure =>
      rw [hfailure] at hrun
      rw [bind_of_error hrun, requestFault_error]
      simp [QueryError.isRequestFault]
    | none =>
      rw [hfailure] at hrun
      rw [bind_of_ok hrun, hnext, hkeeps, Scripted.calls_recorded]
      simp

end Adapter

namespace AdapterCall
open DocQuery.Action Outcome

variable {α β : Type} [Document α]

/-- The operations that ask for a page and are answered with none. -/
def MeetsNoPage (A : Adapter) (store : Scripted) : AdapterCall α β → Prop
  | .aggregate p | .paginate p =>
    (A.withDefaults p).terminalWindow?.isSome = true ∧
      (∃ stages, Native.pipeline A.renderer (A.withDefaults p) = .ok stages) ∧
      store.upcoming.failure = none ∧ Adapter.NoPage store.upcoming.documents
  | _ => False

theorem aggregate_called_iff (A : Adapter) (p : Pipeline) (s : Session Scripted) :
    let call : AdapterCall α (List α) := .aggregate p
    RequestFault (call.perform A s).1 ∧ (call.perform A s).2.state.calls ≠ s.state.calls ↔
      call.MeetsNoPage A s.state := by
  intro call
  have hsplit : ∀ results, RequestFault (if (A.withDefaults p).terminalWindow?.isSome then
      (Adapter.splitFacet results).map Prod.fst else .ok results) ↔
      (A.withDefaults p).terminalWindow?.isSome = true ∧ Adapter.NoPage results := by
    intro results
    by_cases hpage : (A.withDefaults p).terminalWindow?.isSome = true
    · rw [if_pos hpage, requestFault_map, Adapter.requestFault_splitFacet]
      exact (and_iff_right hpage).symm
    · rw [if_neg hpage]
      exact iff_of_false (not_requestFault_ok results) fun h => hpage h.1
  refine (A.requestFault_called_run_iff (fun results t =>
    (requestFault_liftExcept_bind (Adapter.faultless_read (α := α)) t).trans (hsplit results))
    fun results => (keeps_liftExcept _ _).bind fun documents => keeps_liftExcept _ _).trans ?_
  exact (and_congr .rfl and_left_comm).trans and_left_comm

theorem paginate_called_iff (A : Adapter) (p : Pipeline) (s : Session Scripted) :
    let call : AdapterCall α (Page α) := .paginate p
    RequestFault (call.perform A s).1 ∧ (call.perform A s).2.state.calls ≠ s.state.calls ↔
      call.MeetsNoPage A s.state := by
  intro call
  have hfaultless : ∀ split : List Json × Option PageMetadata, Faultless (do
      return ⟨split.2, ← liftExcept (split.1.mapM Document.read)⟩ : Action Scripted (Page α)) :=
    fun split => (Adapter.faultless_read split.1).bind fun _ => faultless_pure _
  cases hpage : (A.withDefaults p).terminalWindow? with
  | none =>
    have hrun : call.perform A s = (.error (.malformed .paginateRequired), s) := by
      rw [perform, Adapter.paginate, hpage]
      rfl
    rw [hrun, MeetsNoPage, hpage]
    simp
  | some w =>
    rw [perform, Adapter.paginate, MeetsNoPage, hpage]
    refine (A.requestFault_called_run_iff (fun results t =>
      (requestFault_liftExcept_bind hfaultless t).trans
        (Adapter.requestFault_splitFacet results)) ?_).trans (and_iff_right rfl).symm
    exact fun results => (keeps_liftExcept _ _).bind fun split =>
      (keeps_liftExcept _ _).bind fun documents => keeps_pure _ _

theorem not_called {action : Action Scripted β} (h : Early action) (s : Session Scripted) :
    ¬ (RequestFault (action s).1 ∧ (action s).2.state.calls ≠ s.state.calls) :=
  fun ⟨hfault, hcalled⟩ => hcalled (congrArg Scripted.calls (h s hfault))

/-- Whatever a store replies, an operation that ends in a request fault has asked the store just if
it asked for a page and was answered with none: several documents, or one whose data is no list. -/
theorem requestFault_called_iff (A : Adapter) (call : AdapterCall α β) (s : Session Scripted) :
    RequestFault (call.perform A s).1 ∧ (call.perform A s).2.state.calls ≠ s.state.calls ↔
      call.MeetsNoPage A s.state := by
  cases call with
  | aggregate p => exact aggregate_called_iff A p s
  | paginate p => exact paginate_called_iff A p s
  | find query sort =>
    exact iff_of_false (not_called (early_compiled query fun _ => A.faultless_findBy _ sort) s) id
  | getAll sort => exact iff_of_false (not_called (A.faultless_findBy _ sort).early s) id
  | findOne query => exact iff_of_false (not_called (A.early_findOne query) s) id
  | insertOne item => exact iff_of_false (not_called (A.early_insertOne item) s) id
  | insertMany items => exact iff_of_false (not_called (A.early_insertMany items) s) id
  | replaceOne query item upsert =>
    exact iff_of_false (not_called (A.early_replaceOne query item upsert) s) id
  | updateOne query patch => exact iff_of_false (not_called (A.early_updateOne query patch) s) id
  | deleteOne query => exact iff_of_false (not_called (A.early_deleteOne query) s) id
  | deleteMany query => exact iff_of_false (not_called (A.early_deleteMany query) s) id
  | count query =>
    exact iff_of_false (not_called (early_compiled query fun _ => A.faultless_ask _ _) s) id
  | countAll => exact iff_of_false (not_called (A.faultless_ask _ _).early s) id

/-- A request fault does not tell that the store was not asked. -/
theorem exists_requestFault_called :
    ¬ ∀ (β : Type) (A : Adapter) (call : AdapterCall Json β) (s : Session Scripted),
      RequestFault (call.perform A s).1 → (call.perform A s).2.state.calls = s.state.calls := by
  intro h
  let replies : List Reply := [{ documents := [.object [("a", .int 1)], .object [("a", .int 2)]] }]
  have hkept := h _ (.plain "MODULE") (.paginate ⟨[.paginate ⟨0, 5⟩]⟩)
    ⟨⟨ObjectId.ofNat, Nat.repr, 0⟩, ⟨replies, []⟩⟩ ⟨_, rfl, rfl⟩
  cases hkept

end AdapterCall
end DocQuery
