import DocQuery.Proofs.Store.Reading
import DocQuery.Regex.Engine

/-!
# What a failed call leaves behind

A call on a collection that fails leaves the documents as they were, with one exception: an update
whose operators fail midway keeps the document changed by the operators before.
-/
namespace DocQuery

namespace Documents

variable {filter : Json} {documents : List Json} {marks : List (Json × Bool)}

theorem changeFirst_eq_iff {old : Json} (h : (chosen marks).head? = some old) (new : Json) :
    changeFirst (fun _ => new) marks = marks.map Prod.fst ↔ new = old := by
  induction marks with
  | nil => cases h
  | cons m marks ih =>
    obtain ⟨d, b⟩ := m
    cases b with
    | true =>
      cases h
      simp [changeFirst]
    | false =>
      have hrest := ih h
      simpa [changeFirst] using hrest

/-- A failed update has changed its document just if the document is an object that some operators
changed before the one that failed. -/
theorem updated_ne_iff {operators : Members} {old new : Json} {fault : CommandFault}
    (h : updated operators old = (new, .error fault)) :
    new ≠ old ↔ ∃ target changed, old = .object target ∧
      applyOperators target operators = (changed, .error fault) ∧ changed ≠ target := by
  cases old with
  | object target =>
    cases hrun : applyOperators target operators with
    | mk changed result =>
      simp only [updated, hrun, Prod.mk.injEq] at h
      obtain ⟨rfl, rfl⟩ := h
      simp [hrun]
  | _ =>
    cases h
    simp

theorem marked_fst [PatternEngine] (h : marked filter documents = .ok marks) :
    marks.map Prod.fst = documents := by
  induction documents generalizing marks with
  | nil =>
    cases h
    rfl
  | cons d documents ih =>
    rw [marked_cons] at h
    cases hd : Eval.satisfies d filter with
    | error fault => simp [hd, bind, Except.bind] at h
    | ok b =>
      cases hr : marked filter documents with
      | error fault => simp [hd, hr, bind, Except.bind] at h
      | ok rest =>
        simp only [hd, hr, bind, Except.bind, pure, Except.pure, Except.ok.injEq] at h
        subst h
        exact congrArg (d :: ·) (ih hr)

end Documents

namespace Collection

variable {α : Type}

def stored (s : Session Collection) : List Json := s.state.documents

abbrev Keeps (action : StoreAction Collection α) : Prop := Outcome.Keeps stored action

abbrev Atomic (action : StoreAction Collection α) : Prop := Outcome.Atomic stored action

abbrev Succeeds (action : StoreAction Collection α) : Prop := Outcome.Succeeds action

theorem keeps_pure (x : α) : Keeps (pure x) := Outcome.keeps_pure _ x

theorem succeeds_pure (x : α) : Succeeds (pure x) := Outcome.succeeds_pure x

theorem succeeds_store (documents : List Json) : Succeeds (store documents) := by
  intro s e h
  cases h

theorem succeeds_append (documents : List Json) :
    Succeeds (append documents : StoreAction Collection Unit) := by
  intro s e h
  cases h

theorem keeps_begin (filter : Option Json) : Keeps (begin filter) := by
  rintro ⟨ids, name, documents, failure, lastFilter, lastPipeline, closed⟩
  cases closed <;> cases filter <;> cases failure <;> rfl

theorem keeps_get : Keeps (get : StoreAction Collection (Session Collection)) := fun _ => rfl

theorem keeps_liftExcept (result : Except StoreFailure α) : Keeps (liftExcept result) :=
  Outcome.keeps_liftExcept _ result

theorem begin_not_ready {s : Session Collection} (hs : ¬ s.state.Ready) (filter : Option Json) :
    ∃ e t, begin filter s = (.error e, t) := by
  obtain ⟨ids, name, documents, failure, lastFilter, lastPipeline, closed⟩ := s
  cases closed with
  | true => exact ⟨_, _, rfl⟩
  | false =>
    cases failure with
    | some e => cases filter <;> exact ⟨_, _, rfl⟩
    | none => exact absurd ⟨rfl, rfl⟩ hs

variable [PatternEngine]

theorem keeps_marked (filter : Json) : Keeps (marked filter) :=
  keeps_get.bind fun _ => keeps_liftExcept _

theorem keeps_find (filter : Json) (order : Option Json) : Keeps (find filter order) := by
  refine (keeps_begin _).bind fun _ => (keeps_marked filter).bind fun m => ?_
  cases order with
  | none => exact keeps_pure _
  | some spec => exact keeps_liftExcept _

theorem keeps_aggregate (stages : List Json) : Keeps (aggregate stages) := by
  have hrecord : Keeps (change (ran stages)) := fun _ => rfl
  exact hrecord.bind fun _ => (keeps_begin none).bind fun _ =>
    keeps_get.bind fun _ => keeps_liftExcept _

theorem atomic_replaceOne (filter replacement : Json) (upsert : Bool) :
    Atomic (replaceOne filter replacement upsert) := by
  refine (keeps_begin _).atomic_bind fun _ => (keeps_marked filter).atomic_bind fun m => ?_
  apply Outcome.Succeeds.atomic
  cases (Documents.chosen m).head? with
  | some old => exact (succeeds_store _).bind fun _ => succeeds_pure _
  | none =>
    cases upsert with
    | false => exact succeeds_pure _
    | true => exact (succeeds_append _).bind fun _ => succeeds_pure _

theorem atomic_delete (many : Bool) (filter : Json) : Atomic (delete many filter) := by
  refine (keeps_begin _).atomic_bind fun _ => (keeps_marked filter).atomic_bind fun m => ?_
  exact ((succeeds_store _).bind fun _ => succeeds_pure _).atomic

theorem keeps_updateOne (filter : Json) {update : Json} (h : update.isObject = false) :
    Keeps (updateOne filter update) := by
  refine (keeps_begin _).bind fun _ => ?_
  cases update with
  | object operators => cases h
  | _ => exact fun _ => rfl

theorem updateOne_unmarked {s : Session Collection} (hs : s.state.Ready) {filter : Json}
    (operators : Members) {fault : CommandFault}
    (hm : Documents.marked filter s.state.documents = .error fault) :
    updateOne filter (.object operators) s =
      (.error (.command fault), s.withState (s.state.asked filter)) :=
  onMarked_unmarked hs hm _

/-- An update writes what its operators make of the first document chosen, and only then reports
how they ended. -/
theorem updateOne_marked {s : Session Collection} (hs : s.state.Ready) {filter : Json}
    (operators : Members) {marks : List (Json × Bool)}
    (hm : Documents.marked filter s.state.documents = .ok marks) :
    updateOne filter (.object operators) s =
      match (Documents.chosen marks).head? with
      | none => (.ok ⟨true, 0, 0, false⟩, s.withState (s.state.asked filter))
      | some old =>
        let (new, result) := Documents.updated operators old
        ((result.mapError .command).map fun _ => ⟨true, 1, changed old new, false⟩,
          s.withState { s.state.asked filter with
            documents := Documents.changeFirst (fun _ => new) marks }) := by
  refine (onMarked_marked hs hm _).trans ?_
  cases (Documents.chosen marks).head? with
  | none => rfl
  | some old =>
    dsimp only
    cases (Documents.updated operators old).2 <;> rfl

end Collection

inductive StoreCall : Type → Type where
  | find (filter : Json) (sort : Option Json) : StoreCall (List Json)
  | findOne (filter : Json) : StoreCall (Option Json)
  | insertOne (document : Json) : StoreCall Bool
  | insertMany (documents : List Json) : StoreCall InsertOutcome
  | replaceOne (filter replacement : Json) (upsert : Bool) : StoreCall WriteOutcome
  | updateOne (filter update : Json) : StoreCall WriteOutcome
  | deleteOne (filter : Json) : StoreCall DeleteOutcome
  | deleteMany (filter : Json) : StoreCall DeleteOutcome
  | count (filter : Json) : StoreCall Nat
  | aggregate (stages : List Json) : StoreCall (List Json)

namespace StoreCall

variable {α : Type}

section

variable [PatternEngine]

def run : StoreCall α → StoreAction Collection α
  | .find filter sort => DocumentStore.find filter sort
  | .findOne filter => DocumentStore.findOne filter
  | .insertOne document => DocumentStore.insertOne document
  | .insertMany documents => DocumentStore.insertMany documents
  | .replaceOne filter replacement upsert => DocumentStore.replaceOne filter replacement upsert
  | .updateOne filter update => DocumentStore.updateOne filter update
  | .deleteOne filter => DocumentStore.deleteOne filter
  | .deleteMany filter => DocumentStore.deleteMany filter
  | .count filter => DocumentStore.count filter
  | .aggregate stages => DocumentStore.aggregate stages

/-- The calls that fail midway: an update of a document whose operators fail, after some that have
changed it. -/
def LeavesPart (c : Collection) : StoreCall α → Prop
  | .updateOne filter (.object operators) =>
    c.Ready ∧ ∃ target others changed fault,
      Documents.select filter c.documents = .ok (.object target :: others) ∧
        Documents.applyOperators target operators = (changed, .error fault) ∧ changed ≠ target
  | _ => False

theorem changes_iff_of_atomic {call : StoreCall α} {s : Session Collection} {e : StoreFailure}
    (hatomic : Collection.Atomic call.run) (hpart : ¬ call.LeavesPart s.state)
    (h : (call.run s).1 = .error e) :
    (call.run s).2.state.documents ≠ s.state.documents ↔ call.LeavesPart s.state :=
  ⟨fun hne => absurd (hatomic s e h) hne, fun hleaves => absurd hleaves hpart⟩

/-- An update that failed on the first document chosen has failed midway just if that document is
another one now. -/
theorem leavesPart_iff {c : Collection} (hc : c.Ready) {filter : Json} {operators : Members}
    {marks : List (Json × Bool)} (hm : Documents.marked filter c.documents = .ok marks)
    {old new : Json} (hold : (Documents.chosen marks).head? = some old) {fault : CommandFault}
    (hnew : Documents.updated operators old = (new, .error fault)) :
    (StoreCall.updateOne filter (.object operators)).LeavesPart c ↔ new ≠ old := by
  obtain ⟨others, hchosen⟩ := List.head?_eq_some_iff.mp hold
  rw [Documents.updated_ne_iff hnew]
  simp only [LeavesPart, Documents.select, hm, Except.map, hchosen, Except.ok.injEq,
    List.cons.injEq]
  constructor
  · rintro ⟨-, target, others', changed, fault', ⟨hobject, -⟩, happly, hne⟩
    rw [hobject, Documents.updated, happly, Prod.mk.injEq, Except.error.injEq] at hnew
    exact ⟨target, changed, hobject, hnew.2 ▸ happly, hne⟩
  · rintro ⟨target, changed, hobject, happly, hne⟩
    exact ⟨hc, target, others, changed, fault, ⟨hobject, rfl⟩, happly, hne⟩

theorem updateOne_changes_iff {s : Session Collection} {filter update : Json} {e : StoreFailure}
    (h : (Collection.updateOne filter update s).1 = .error e) :
    (Collection.updateOne filter update s).2.state.documents ≠ s.state.documents ↔
      (StoreCall.updateOne filter update).LeavesPart s.state := by
  cases update with
  | object operators =>
    by_cases hs : s.state.Ready
    · cases hm : Documents.marked filter s.state.documents with
      | error fault =>
        rw [Collection.updateOne_unmarked hs operators hm]
        simp [LeavesPart, Documents.select, hm, Except.map, Session.withState]
      | ok marks =>
        have hrun := Collection.updateOne_marked hs operators hm
        cases hold : (Documents.chosen marks).head? with
        | none =>
          rw [hold] at hrun
          rw [hrun] at h
          cases h
        | some old =>
          rw [hold] at hrun
          rw [hrun] at h ⊢
          cases hnew : Documents.updated operators old with
          | mk new result =>
            simp only [hnew] at h ⊢
            cases result with
            | ok u => cases h
            | error fault =>
              have hchange := Documents.changeFirst_eq_iff hold new
              rw [Documents.marked_fst hm] at hchange
              exact (not_congr hchange).trans (leavesPart_iff hs hm hold hnew).symm
    · obtain ⟨e', t, hbegin⟩ := Collection.begin_not_ready hs (some filter)
      have hkeeps := Collection.keeps_begin (some filter) s
      rw [hbegin] at hkeeps
      rw [Collection.updateOne, Outcome.bind_of_error hbegin]
      exact ⟨fun hne => absurd hkeeps hne, fun hpart => absurd hpart.1 hs⟩
  | _ =>
    refine ⟨fun hne => absurd ?_ hne, False.elim⟩
    exact Collection.keeps_updateOne filter rfl s

/-- A call that fails has changed the documents just if it is an update that failed midway. -/
theorem failed_changes_iff (call : StoreCall α) {s : Session Collection} {e : StoreFailure}
    (h : (call.run s).1 = .error e) :
    (call.run s).2.state.documents ≠ s.state.documents ↔ call.LeavesPart s.state := by
  cases call with
  | updateOne filter update => exact updateOne_changes_iff h
  | find filter sort =>
    exact changes_iff_of_atomic (Collection.keeps_find filter sort).atomic not_false h
  | findOne filter =>
    have hkeeps := (Collection.keeps_find filter none).bind fun found =>
      Collection.keeps_pure found.head?
    exact changes_iff_of_atomic hkeeps.atomic not_false h
  | count filter =>
    have hkeeps := (Collection.keeps_find filter none).bind fun found =>
      Collection.keeps_pure found.length
    exact changes_iff_of_atomic hkeeps.atomic not_false h
  | aggregate stages =>
    exact changes_iff_of_atomic (Collection.keeps_aggregate stages).atomic not_false h
  | insertOne document =>
    have hinsert := (Collection.succeeds_append [document]).bind fun _ =>
      Collection.succeeds_pure true
    exact changes_iff_of_atomic ((Collection.keeps_begin none).atomic_bind fun _ => hinsert.atomic)
      not_false h
  | insertMany documents =>
    have hinsert := (Collection.succeeds_append documents).bind fun _ =>
      Collection.succeeds_pure (InsertOutcome.mk true documents.length)
    exact changes_iff_of_atomic ((Collection.keeps_begin none).atomic_bind fun _ => hinsert.atomic)
      not_false h
  | replaceOne filter replacement upsert =>
    exact changes_iff_of_atomic (Collection.atomic_replaceOne filter replacement upsert)
      not_false h
  | deleteOne filter =>
    exact changes_iff_of_atomic (Collection.atomic_delete false filter) not_false h
  | deleteMany filter =>
    exact changes_iff_of_atomic (Collection.atomic_delete true filter) not_false h

end

/-- An update that sets a member before it fails on an operator that is not supported. -/
theorem failed_changes_iff_midway :
    let s := Collection.holding [.object [("_id", .int 1), ("n", .int 1)]]
    let call := StoreCall.updateOne (.object [])
      (.object [("$set", .single "n" (.int 2)), ("$inc", .single "n" (.int 1))])
    (call.run s).1 = .error (.command (.unsupportedUpdate "$inc")) ∧
      (call.run s).2.state.documents ≠ s.state.documents := by
  intro s call
  have h : (call.run s).1 = .error (.command (.unsupportedUpdate "$inc")) := rfl
  refine ⟨h, (failed_changes_iff call h).mpr ⟨Collection.ready_holding _, ?_⟩⟩
  refine ⟨_, _, _, _, rfl, rfl, ?_⟩
  intro hsame
  cases hsame

/-- A failed call can change the documents. -/
theorem exists_failed_changes : ¬ ∀ (α : Type) (call : StoreCall α) (s : Session Collection)
    (e : StoreFailure), (call.run s).1 = .error e →
      (call.run s).2.state.documents = s.state.documents := by
  intro h
  have hkept := h _ (.updateOne (.object [])
      (.object [("$set", .single "n" (.int 2)), ("$inc", .single "n" (.int 1))]))
    (Collection.holding [.object [("_id", .int 1), ("n", .int 1)]]) _ rfl
  cases hkept

end StoreCall
end DocQuery
