import DocQuery.Proofs.Members
import DocQuery.Proofs.Store.Atomicity

/-!
# Writing to a collection

Every write looks for the documents of which its filter holds before it does anything else. What it
does then, and what it answers, are functions of the documents that are marked.
-/
namespace DocQuery

namespace Documents

variable {holds : Json → Bool} {documents : List Json}

theorem exists_first {old : Json} (h : (documents.filter holds).head? = some old) :
    holds old = true ∧ ∃ before after, documents = before ++ old :: after ∧
      (∀ d ∈ before, holds d = false) ∧
      ∀ new, changeFirst (fun _ => new) (documents.map fun d => (d, holds d)) =
        before ++ new :: after := by
  rw [List.head?_filter] at h
  obtain ⟨hold, before, after, rfl, hbefore⟩ := List.find?_eq_some_iff_append.mp h
  have hnone : ∀ d ∈ before, holds d = false := fun d hd => by simpa using hbefore d hd
  refine ⟨hold, before, after, rfl, hnone, fun new => ?_⟩
  clear hbefore h
  induction before with
  | nil => simp [changeFirst, hold, Function.comp_def]
  | cons d before ih =>
    obtain ⟨hd, hrest⟩ := List.forall_mem_cons.mp hnone
    rw [List.cons_append, List.map_cons, hd, changeFirst, ih hrest, List.cons_append]

theorem takeId_object {members : Members} {old id : Json} (h : old.get? internalId = some id) :
    takeId (.object members) old = .object (Members.set internalId id members) := by
  simp only [takeId, h]

theorem positions_cons (d : Json) (b : Bool) (marks : List (Json × Bool)) :
    positions ((d, b) :: marks) =
      (if b then [0] else []) ++ (positions marks).map (· + 1) := by
  unfold positions
  rw [List.zipIdx_cons, List.zipIdx_succ]
  cases b <;> simp [List.filter_map, Function.comp_def]

theorem removeAt_behind (d : Json) (places : List Nat) (documents : List Json) :
    removeAt (places.map (· + 1)) (d :: documents) = d :: removeAt places documents := by
  induction places with
  | nil => rfl
  | cons place places ih =>
    simp only [removeAt, List.map_cons, List.foldr_cons] at ih ⊢
    rw [ih, List.eraseIdx_cons_succ]

/-- Removing the positions of the marked documents, the last one first, leaves the others. -/
theorem removeAt_positions (marks : List (Json × Bool)) :
    removeAt (positions marks) (marks.map Prod.fst) =
      (marks.filter fun m => !m.2).map Prod.fst := by
  induction marks with
  | nil => rfl
  | cons m marks ih =>
    obtain ⟨d, b⟩ := m
    rw [positions_cons]
    cases b with
    | false => simp [removeAt_behind, ih]
    | true =>
      have hlast : removeAt (0 :: (positions marks).map (· + 1)) (d :: marks.map Prod.fst) =
          (removeAt ((positions marks).map (· + 1)) (d :: marks.map Prod.fst)).eraseIdx 0 := rfl
      simp [hlast, removeAt_behind, ih]

theorem removeAt_first_position (marks : List (Json × Bool)) :
    removeAt ((positions marks).take 1) (marks.map Prod.fst) =
      (marks.eraseP Prod.snd).map Prod.fst := by
  induction marks with
  | nil => rfl
  | cons m marks ih =>
    obtain ⟨d, b⟩ := m
    rw [positions_cons]
    cases b with
    | false => simp [← List.map_take, removeAt_behind, ih]
    | true => simp [removeAt]

theorem remaining_eq (many : Bool) (marks : List (Json × Bool)) :
    remaining many marks =
      (if many then marks.filter fun m => !m.2 else marks.eraseP Prod.snd).map Prod.fst := by
  cases many with
  | true => exact removeAt_positions marks
  | false => exact removeAt_first_position marks

theorem remaining_of_chosen_nil {marks : List (Json × Bool)} (h : chosen marks = [])
    (many : Bool) : remaining many marks = marks.map Prod.fst := by
  have hnone : ∀ m ∈ marks, m.2 = false := by simpa [chosen] using h
  cases many with
  | true =>
    rw [remaining_eq, if_pos rfl, List.filter_eq_self.mpr fun m hm => by rw [hnone m hm]; rfl]
  | false =>
    rw [remaining_eq, if_neg Bool.false_ne_true,
      List.eraseP_of_forall_not fun m hm => by rw [hnone m hm]; exact Bool.false_ne_true]

theorem exists_holds [PatternEngine] {filter : Json}
    (h : ∀ d ∈ documents, ∃ b, Eval.satisfies d filter = .ok b) :
    ∃ holds : Json → Bool, ∀ d ∈ documents, Eval.satisfies d filter = .ok (holds d) := by
  refine ⟨fun d => (Eval.satisfies d filter).toOption.getD false, fun d hd => ?_⟩
  obtain ⟨b, hb⟩ := h d hd
  simp only [hb]
  rfl

end Documents

namespace Collection

variable {α : Type} {s t : Session Collection} {filter : Json} {marks : List (Json × Bool)}

theorem withObjectId_own {members : Members} {own : Json}
    (h : members.lookup internalId = some own) (s : Session Collection) :
    withObjectId (.object members) s = (.object members, s) := by
  have hcontains := Members.contains_eq_isSome members internalId
  rw [h] at hcontains
  simp [withObjectId, hcontains]
  rfl

theorem withObjectId_lacking {members : Members} (h : members.lookup internalId = none)
    (s : Session Collection) :
    withObjectId (.object members) s =
      (.object (Members.set internalId (s.ids.objectId s.ids.drawn).toWire members),
        s.advance) := by
  have hcontains := Members.contains_eq_isSome members internalId
  rw [h] at hcontains
  simp [withObjectId, hcontains]
  rfl

theorem withObjectId_state (document : Json) (s : Session Collection) :
    (withObjectId document s).2.state = s.state := by
  cases document with
  | object members =>
    cases h : members.lookup internalId with
    | some own => rw [withObjectId_own h]
    | none => rw [withObjectId_lacking h]; rfl
  | _ => rfl

theorem append_singleton (document : Json) (s : Session Collection) :
    (append [document] s).2.state =
      { s.state with documents := s.state.documents ++ [(withObjectId document s).1] } := by
  have hstate : (append [document] s).2.state = { (withObjectId document s).2.state with
      documents := (withObjectId document s).2.state.documents ++ [(withObjectId document s).1] } :=
    rfl
  rw [hstate, withObjectId_state]

theorem ready_of_begin {next : Unit → StoreAction Collection α} {x : α}
    (h : (begin none >>= next) s = (.ok x, t)) : s.state.Ready := by
  refine Classical.byContradiction fun hs => ?_
  obtain ⟨failure, t', hbegin⟩ := begin_not_ready hs none
  cases (Outcome.bind_of_error hbegin).symm.trans h

theorem applyOperators_singleton {target changed : Members} {operator : String} {argument : Json}
    {fault : CommandFault}
    (h : Documents.applyOperators target [(operator, argument)] = (changed, .error fault)) :
    changed = target := by
  cases argument with
  | object fields =>
    by_cases hset : operator = "$set"
    · simp [Documents.applyOperators, hset] at h
    · by_cases hunset : operator = "$unset"
      · simp [Documents.applyOperators, hunset] at h
      · simp only [Documents.applyOperators, hset, hunset, if_false, Prod.mk.injEq] at h
        exact h.1.symm
  | _ =>
    simp only [Documents.applyOperators, Prod.mk.injEq] at h
    exact h.1.symm

variable [PatternEngine]

/-- An action that looks first for the documents of which a filter holds either fails and leaves the
documents as they were, or goes on with the documents marked. -/
theorem onMarked_cases (filter : Json) (next : List (Json × Bool) → StoreAction Collection α)
    (s : Session Collection) :
    (∃ failure t, onMarked filter next s = (.error failure, t) ∧
      t.state.documents = s.state.documents) ∨
    s.state.Ready ∧ ∃ marks, Documents.marked filter s.state.documents = .ok marks ∧
      onMarked filter next s = next marks (s.withState (s.state.asked filter)) := by
  by_cases hs : s.state.Ready
  · cases hm : Documents.marked filter s.state.documents with
    | error fault => exact .inl ⟨_, _, onMarked_unmarked hs hm next, rfl⟩
    | ok marks => exact .inr ⟨hs, marks, rfl, onMarked_marked hs hm next⟩
  · obtain ⟨failure, t, hbegin⟩ := begin_not_ready hs (some filter)
    have hkeeps := keeps_begin (some filter) s
    rw [hbegin] at hkeeps
    exact .inl ⟨failure, t, Outcome.bind_of_error hbegin, hkeeps⟩

theorem replaceOne_marked (hs : s.state.Ready)
    (hm : Documents.marked filter s.state.documents = .ok marks) (replacement : Json)
    (upsert : Bool) :
    replaceOne filter replacement upsert s =
      match (Documents.chosen marks).head? with
      | some old =>
        let new := Documents.takeId replacement old
        (.ok ⟨true, 1, changed old new, false⟩, s.withState { s.state.asked filter with
          documents := Documents.changeFirst (fun _ => new) marks })
      | none =>
        (.ok ⟨true, 0, 0, upsert⟩,
          if upsert then (append [replacement] (s.withState (s.state.asked filter))).2
          else s.withState (s.state.asked filter)) := by
  refine (onMarked_marked hs hm _).trans ?_
  cases (Documents.chosen marks).head? with
  | some old => rfl
  | none => cases upsert <;> rfl

theorem delete_marked (hs : s.state.Ready)
    (hm : Documents.marked filter s.state.documents = .ok marks) (many : Bool) :
    delete many filter s =
      (.ok ⟨true, if many then (Documents.chosen marks).length
          else min 1 (Documents.chosen marks).length⟩,
        s.withState { s.state.asked filter with
          documents := Documents.remaining many marks }) :=
  onMarked_marked hs hm _

theorem insertOne_ready (hs : s.state.Ready) (document : Json) :
    (DocumentStore.insertOne document : StoreAction Collection Bool) s =
      (.ok true, (append [document] s).2) :=
  Outcome.bind_of_ok (begin_none hs)

theorem insertMany_ready (hs : s.state.Ready) (documents : List Json) :
    (DocumentStore.insertMany documents : StoreAction Collection InsertOutcome) s =
      (.ok ⟨true, documents.length⟩, (append documents s).2) :=
  Outcome.bind_of_ok (begin_none hs)

/-- A replacement that was answered was acknowledged, and if it found nothing to replace and
inserted nothing, nothing has changed. -/
theorem replaceOne_answer {replacement : Json} {upsert : Bool} {outcome : WriteOutcome}
    (h : replaceOne filter replacement upsert s = (.ok outcome, t)) :
    outcome.acknowledged = true ∧ (outcome.matched = 0 ∧ outcome.upserted = false →
      t.state.documents = s.state.documents) := by
  rcases onMarked_cases filter _ s with ⟨failure, t', hfail, -⟩ | ⟨hs, marks, hm, -⟩
  · cases hfail.symm.trans h
  · rw [replaceOne_marked hs hm] at h
    cases hold : (Documents.chosen marks).head? with
    | some old =>
      rw [hold] at h
      cases h
      exact ⟨rfl, fun hnone => absurd hnone.1 Nat.one_ne_zero⟩
    | none =>
      rw [hold] at h
      cases h
      refine ⟨rfl, fun hnone => ?_⟩
      have hupsert : upsert = false := hnone.2
      rw [hupsert]
      rfl

theorem updateOne_answer {operators : Members} {outcome : WriteOutcome}
    (h : updateOne filter (.object operators) s = (.ok outcome, t)) (hnone : outcome.matched = 0) :
    t.state.documents = s.state.documents := by
  rcases onMarked_cases filter _ s with ⟨failure, t', hfail, -⟩ | ⟨hs, marks, hm, -⟩
  · cases hfail.symm.trans h
  · rw [updateOne_marked hs operators hm] at h
    cases hold : (Documents.chosen marks).head? with
    | some old =>
      rw [hold] at h
      cases hresult : (Documents.updated operators old).2 with
      | error fault =>
        simp only [hresult] at h
        cases h
      | ok u =>
        simp only [hresult] at h
        cases h
        cases hnone
    | none =>
      rw [hold] at h
      cases h
      rfl

/-- A deletion that was answered has deleted one document at most, unless it was to delete all, and
if it deleted none, nothing has changed. -/
theorem delete_answer {many : Bool} {outcome : DeleteOutcome}
    (h : delete many filter s = (.ok outcome, t)) :
    (many = false → outcome.deleted ≤ 1) ∧
      (outcome.deleted = 0 → t.state.documents = s.state.documents) := by
  rcases onMarked_cases filter _ s with ⟨failure, t', hfail, -⟩ | ⟨hs, marks, hm, -⟩
  · cases hfail.symm.trans h
  · rw [delete_marked hs hm] at h
    cases h
    refine ⟨fun hone => ?_, fun hzero => ?_⟩
    · simp only [hone, Bool.false_eq_true, if_false]
      omega
    · have hnil : Documents.chosen marks = [] := by
        refine List.eq_nil_of_length_eq_zero ?_
        cases many
        · simp only [Bool.false_eq_true, if_false] at hzero
          omega
        · exact hzero
      exact (Documents.remaining_of_chosen_nil hnil many).trans (Documents.marked_fst hm)

theorem insertOne_ok {document : Json} {acknowledged : Bool}
    (h : (DocumentStore.insertOne document : StoreAction Collection Bool) s =
      (.ok acknowledged, t)) : acknowledged = true ∧ t = (append [document] s).2 := by
  rw [insertOne_ready (ready_of_begin h)] at h
  cases h
  exact ⟨rfl, rfl⟩

theorem insertMany_ok {documents : List Json} {outcome : InsertOutcome}
    (h : (DocumentStore.insertMany documents : StoreAction Collection InsertOutcome) s =
      (.ok outcome, t)) :
    outcome.inserted = documents.length ∧ t = (append documents s).2 := by
  rw [insertMany_ready (ready_of_begin h)] at h
  cases h
  exact ⟨rfl, rfl⟩

theorem atomic_insertOne (document : Json) :
    Atomic (DocumentStore.insertOne document : StoreAction Collection Bool) :=
  (keeps_begin none).atomic_bind fun _ =>
    ((succeeds_append [document]).bind fun _ => succeeds_pure true).atomic

theorem atomic_insertMany (documents : List Json) :
    Atomic (DocumentStore.insertMany documents : StoreAction Collection InsertOutcome) :=
  (keeps_begin none).atomic_bind fun _ =>
    ((succeeds_append documents).bind fun _ => succeeds_pure _).atomic

theorem atomic_updateOne_single (filter : Json) (operator : String) (argument : Json) :
    Atomic (updateOne filter (.single operator argument)) := by
  intro s e h
  refine Classical.byContradiction fun hne => ?_
  obtain ⟨-, target, others, changed, fault, -, happly, hchanged⟩ :=
    (StoreCall.updateOne_changes_iff h).mp hne
  exact hchanged (applyOperators_singleton happly)

end Collection
end DocQuery
