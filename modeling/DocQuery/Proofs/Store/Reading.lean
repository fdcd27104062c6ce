import DocQuery.Proofs.Outcome
import DocQuery.Store.Collection

/-!
# Reading a collection

What a collection answers when it is ready, as functions of its documents. Reading records what
was asked for and changes nothing else.
-/
namespace DocQuery

namespace Documents

theorem chosen_map (holds : Json → Bool) (documents : List Json) :
    chosen (documents.map fun d => (d, holds d)) = documents.filter holds := by
  simp [chosen, List.filter_map, Function.comp_def]

variable [PatternEngine]

theorem marked_cons (filter d : Json) (documents : List Json) :
    marked filter (d :: documents) = do
      let holds ← Eval.satisfies d filter
      let rest ← marked filter documents
      return (d, holds) :: rest := by
  unfold marked
  rw [List.mapM_cons]
  cases Eval.satisfies d filter <;> rfl

def query (filter : Json) (order : Option Json) (documents : List Json) :
    Except CommandFault (List Json) := do
  let found ← select filter documents
  match order with
  | some spec => sort spec found
  | none => return found

theorem query_none (filter : Json) (documents : List Json) :
    query filter none documents = select filter documents := by
  unfold query
  cases select filter documents <;> rfl

theorem marked_eq_map {filter : Json} {documents : List Json} {holds : Json → Bool}
    (h : ∀ d ∈ documents, Eval.satisfies d filter = .ok (holds d)) :
    marked filter documents = .ok (documents.map fun d => (d, holds d)) := by
  refine Outcome.mapM_eq_ok_map fun d hd => ?_
  rw [h d hd]
  rfl

/-- A filter that faults on no document selects those of which it holds. -/
theorem select_eq_filter {filter : Json} {documents : List Json} {holds : Json → Bool}
    (h : ∀ d ∈ documents, Eval.satisfies d filter = .ok (holds d)) :
    select filter documents = .ok (documents.filter holds) := by
  rw [select, marked_eq_map h, Except.map, chosen_map]

end Documents

namespace Collection

/-- A collection that runs what it is asked to run. -/
structure Ready (c : Collection) : Prop where
  isOpen : c.closed = false
  sound : c.pendingFailure = none

def asked (filter : Json) (c : Collection) : Collection := { c with lastFilter := some filter }

def ran (stages : List Json) (c : Collection) : Collection := { c with lastPipeline := some stages }

theorem Ready.ran {c : Collection} (hc : c.Ready) (stages : List Json) : (c.ran stages).Ready :=
  ⟨hc.isOpen, hc.sound⟩

@[simp] theorem asked_documents (filter : Json) (c : Collection) :
    (c.asked filter).documents = c.documents := rfl

@[simp] theorem ran_documents (stages : List Json) (c : Collection) :
    (c.ran stages).documents = c.documents := rfl

def holding (documents : List Json) : Session Collection :=
  ⟨⟨ObjectId.ofNat, Nat.repr, 0⟩, { empty "" false with documents }⟩

theorem ready_holding (documents : List Json) : (holding documents).state.Ready := ⟨rfl, rfl⟩

variable {s : Session Collection}

theorem begin_filter (hs : s.state.Ready) (filter : Json) :
    begin (some filter) s = (.ok (), s.withState (s.state.asked filter)) := by
  obtain ⟨ids, name, documents, failure, lastFilter, lastPipeline, closed⟩ := s
  obtain ⟨rfl, rfl⟩ := hs
  rfl

theorem begin_none (hs : s.state.Ready) : begin none s = (.ok (), s) := by
  obtain ⟨ids, name, documents, failure, lastFilter, lastPipeline, closed⟩ := s
  obtain ⟨rfl, rfl⟩ := hs
  rfl

theorem attempt_apply {α : Type} (result : Except CommandFault α) (s : Session Collection) :
    attempt result s = (result.mapError .command, s) :=
  Outcome.liftExcept_apply _ s

variable [PatternEngine]

theorem marked_asked (filter asked : Json) (s : Session Collection) :
    marked filter (s.withState (s.state.asked asked)) =
      ((Documents.marked filter s.state.documents).mapError .command,
        s.withState (s.state.asked asked)) :=
  attempt_apply _ _

def onMarked {α : Type} (filter : Json) (next : List (Json × Bool) → StoreAction Collection α) :
    StoreAction Collection α := do
  begin (some filter)
  next (← marked filter)

theorem onMarked_marked {α : Type} {filter : Json} {marks : List (Json × Bool)} (hs : s.state.Ready)
    (hm : Documents.marked filter s.state.documents = .ok marks)
    (next : List (Json × Bool) → StoreAction Collection α) :
    onMarked filter next s = next marks (s.withState (s.state.asked filter)) := by
  have hmarked := marked_asked filter filter s
  rw [hm] at hmarked
  rw [onMarked, Outcome.bind_of_ok (begin_filter hs filter)]
  exact Outcome.bind_of_ok hmarked

theorem onMarked_unmarked {α : Type} {filter : Json} {fault : CommandFault} (hs : s.state.Ready)
    (hm : Documents.marked filter s.state.documents = .error fault)
    (next : List (Json × Bool) → StoreAction Collection α) :
    onMarked filter next s = (.error (.command fault), s.withState (s.state.asked filter)) := by
  have hmarked := marked_asked filter filter s
  rw [hm] at hmarked
  rw [onMarked, Outcome.bind_of_ok (begin_filter hs filter)]
  exact Outcome.bind_of_error hmarked

theorem find_ready (hs : s.state.Ready) (filter : Json) (order : Option Json) :
    find filter order s = ((Documents.query filter order s.state.documents).mapError .command,
      s.withState (s.state.asked filter)) := by
  rw [Documents.query, Documents.select]
  cases hm : Documents.marked filter s.state.documents with
  | error fault => exact onMarked_unmarked hs hm _
  | ok marks =>
    refine (onMarked_marked hs hm _).trans ?_
    cases order with
    | none => rfl
    | some spec => exact attempt_apply _ _

theorem find_map_ready {α : Type} (hs : s.state.Ready) (filter : Json) (view : List Json → α) :
    (do return view (← find filter none) : StoreAction Collection α) s =
      (((Documents.select filter s.state.documents).map view).mapError .command,
        s.withState (s.state.asked filter)) := by
  have hfind := find_ready hs filter none
  rw [Documents.query_none] at hfind
  cases h : Documents.select filter s.state.documents with
  | error fault =>
    rw [h] at hfind
    exact Outcome.bind_of_error hfind
  | ok found =>
    rw [h] at hfind
    exact Outcome.bind_of_ok hfind

theorem findOne_ready (hs : s.state.Ready) (filter : Json) :
    (DocumentStore.findOne filter : StoreAction Collection (Option Json)) s =
      (((Documents.select filter s.state.documents).map List.head?).mapError .command,
        s.withState (s.state.asked filter)) :=
  find_map_ready hs filter List.head?

theorem count_ready (hs : s.state.Ready) (filter : Json) :
    (DocumentStore.count filter : StoreAction Collection Nat) s =
      (((Documents.select filter s.state.documents).map List.length).mapError .command,
        s.withState (s.state.asked filter)) :=
  find_map_ready hs filter List.length

theorem aggregate_ready (hs : s.state.Ready) (stages : List Json) :
    aggregate stages s =
      (Steps.run stages s.state.documents, s.withState (s.state.ran stages)) := by
  have hran : change (ran stages) s = (.ok (), s.withState (s.state.ran stages)) := rfl
  refine (Outcome.bind_of_ok hran).trans ?_
  rw [Outcome.bind_of_ok (begin_none (hs.ran stages))]
  exact Outcome.liftExcept_apply _ _

end Collection
end DocQuery
