import DocQuery.Proofs.Store.Identifiers
import DocQuery.Regex.Engine

/-!
# Deleting documents

What deletions leave behind and what they report, where a filter faults on no stored document. One
document deleted after another until none is left to delete makes the same of a collection as one
deletion of all.
-/
namespace DocQuery

namespace Documents

theorem countP_eraseP (holds : Json → Bool) (documents : List Json) :
    (documents.eraseP holds).countP holds = documents.countP holds - 1 := by
  induction documents with
  | nil => rfl
  | cons d documents ih => cases h : holds d <;> simp [h, ih]

theorem filter_not_eraseP (holds : Json → Bool) (documents : List Json) :
    ((documents.eraseP holds).filter fun d => !holds d) = documents.filter fun d => !holds d := by
  induction documents with
  | nil => rfl
  | cons d documents ih => cases h : holds d <;> simp [h, ih]

theorem countP_add_length_filter_not (holds : Json → Bool) (documents : List Json) :
    documents.countP holds + (documents.filter fun d => !holds d).length = documents.length := by
  rw [← List.countP_eq_length_filter, List.length_eq_countP_add_countP holds]
  simp

/-- Deleting the first document chosen removes it and nothing else. -/
theorem eraseP_cases (holds : Json → Bool) (documents : List Json) :
    (documents.countP holds = 0 ∧ (∀ d ∈ documents, holds d = false) ∧
      documents.eraseP holds = documents) ∨
    0 < documents.countP holds ∧ ∃ before old after, documents = before ++ old :: after ∧
      (∀ d ∈ before, holds d = false) ∧ holds old = true ∧
      documents.eraseP holds = before ++ after := by
  by_cases hsome : ∃ d ∈ documents, holds d = true
  · obtain ⟨d, hd, hold⟩ := hsome
    obtain ⟨old, before, after, hbefore, hfirst, hsplit, herase⟩ := List.exists_of_eraseP hd hold
    refine .inr ⟨List.countP_pos_iff.mpr ⟨d, hd, hold⟩, before, old, after, hsplit, ?_, hfirst,
      herase⟩
    intro d hd
    simpa using hbefore d hd
  · have hnone : ∀ d ∈ documents, holds d = false := by
      intro d hd
      cases h : holds d with
      | false => rfl
      | true => exact absurd ⟨d, hd, h⟩ hsome
    refine .inl ⟨?_, hnone, List.eraseP_of_forall_not fun d hd => ?_⟩
    · simpa using hnone
    · simp [hnone d hd]

theorem exists_marked_error [PatternEngine] {filter d : Json} {documents : List Json}
    {fault : CommandFault} (hd : d ∈ documents) (h : Eval.satisfies d filter = .error fault) :
    ∃ fault, marked filter documents = .error fault := by
  cases hm : marked filter documents with
  | error fault => exact ⟨fault, rfl⟩
  | ok marks =>
    obtain ⟨b, hb⟩ := exists_of_marked hm d hd
    cases h.symm.trans hb

end Documents

namespace Collection

section

variable [PatternEngine]

/-- A collection that is ready, and a filter that faults on none of its documents and chooses those
of which `holds` is true. -/
structure Chooses (filter : Json) (holds : Json → Bool) (s : Session Collection) : Prop where
  ready : s.state.Ready
  decided : ∀ d ∈ s.state.documents, Eval.satisfies d filter = .ok (holds d)

/-- One document is deleted after another: `n` times, and then there is none to delete. -/
inductive DeletesInTurn (filter : Json) : Nat → Session Collection → Session Collection → Prop where
  | done {s t : Session Collection} {outcome : DeleteOutcome}
      (h : (StoreCall.deleteOne filter).run s = (.ok outcome, t)) (hnone : outcome.deleted = 0) :
      DeletesInTurn filter 0 s t
  | next {n : Nat} {s r t : Session Collection} {outcome : DeleteOutcome}
      (h : (StoreCall.deleteOne filter).run s = (.ok outcome, r)) (hsome : outcome.deleted ≠ 0)
      (hrest : DeletesInTurn filter n r t) : DeletesInTurn filter (n + 1) s t

namespace Chooses

variable {filter : Json} {holds : Json → Bool} {s t u : Session Collection} {m n : Nat}

def afterOne (filter : Json) (holds : Json → Bool) (s : Session Collection) : Session Collection :=
  s.withState { s.state.asked filter with documents := s.state.documents.eraseP holds }

theorem deleteOne (h : Chooses filter holds s) :
    (StoreCall.deleteOne filter).run s =
      (.ok ⟨true, min 1 (s.state.documents.countP holds)⟩, afterOne filter holds s) := by
  have hrun := delete_marked h.ready (Documents.marked_eq_map h.decided) false
  rw [Documents.chosen_map, Documents.remaining_one, ← List.countP_eq_length_filter] at hrun
  exact hrun

theorem deleteMany (h : Chooses filter holds s) :
    (StoreCall.deleteMany filter).run s =
      (.ok ⟨true, s.state.documents.countP holds⟩, s.withState { s.state.asked filter with
        documents := s.state.documents.filter fun d => !holds d }) := by
  have hrun := delete_marked h.ready (Documents.marked_eq_map h.decided) true
  rw [Documents.chosen_map, Documents.remaining_many, ← List.countP_eq_length_filter] at hrun
  exact hrun

theorem count (h : Chooses filter holds s) :
    ((StoreCall.count filter).run s).1 = .ok (s.state.documents.countP holds) := by
  have hrun := count_ready h.ready filter
  rw [Documents.select_eq_filter h.decided] at hrun
  rw [StoreCall.run, hrun, List.countP_eq_length_filter]
  rfl

theorem afterOne_chooses (h : Chooses filter holds s) :
    Chooses filter holds (afterOne filter holds s) :=
  ⟨⟨h.ready.isOpen, h.ready.sound⟩, fun d hd => h.decided d (List.mem_of_mem_eraseP hd)⟩

theorem of_deleteOne (h : Chooses filter holds s) {outcome : DeleteOutcome}
    (hrun : (StoreCall.deleteOne filter).run s = (.ok outcome, t)) :
    outcome.deleted = min 1 (s.state.documents.countP holds) ∧ t = afterOne filter holds s := by
  rw [h.deleteOne] at hrun
  obtain ⟨houtcome, rfl⟩ := Prod.mk.inj hrun
  obtain rfl := Except.ok.inj houtcome
  exact ⟨rfl, rfl⟩

theorem of_deletesInTurn (h : Chooses filter holds s) (hrun : DeletesInTurn filter n s t) :
    n = s.state.documents.countP holds ∧
      t.state.documents = s.state.documents.filter fun d => !holds d := by
  -- The induction is on the deletions; what is chosen stays decided after each.
  induction hrun with
  | @done s t outcome hlast hnone =>
    obtain ⟨hdeleted, rfl⟩ := h.of_deleteOne hlast
    rcases Documents.eraseP_cases holds s.state.documents with ⟨hcount, hall, herase⟩ | ⟨hpos, -⟩
    · refine ⟨hcount.symm, herase.trans (List.filter_eq_self.mpr fun d hd => ?_).symm⟩
      simp [hall d hd]
    · omega
  | @next n s r t outcome hfirst hsome hrest ih =>
    obtain ⟨hdeleted, rfl⟩ := h.of_deleteOne hfirst
    obtain ⟨hn, hleft⟩ := ih h.afterOne_chooses
    have hcount := Documents.countP_eraseP holds s.state.documents
    have hfilter := Documents.filter_not_eraseP holds s.state.documents
    simp only [afterOne, Session.withState] at hn hleft
    refine ⟨by omega, hleft.trans hfilter⟩

theorem exists_deletesInTurn (h : Chooses filter holds s) :
    ∃ t, DeletesInTurn filter (s.state.documents.countP holds) s t := by
  generalize hn : s.state.documents.countP holds = n
  induction n generalizing s with
  | zero =>
    refine ⟨afterOne filter holds s, .done h.deleteOne ?_⟩
    simp [hn]
  | succ n ih =>
    have hcount := Documents.countP_eraseP holds s.state.documents
    obtain ⟨t, hrest⟩ := ih h.afterOne_chooses (by simp [afterOne, Session.withState]; omega)
    refine ⟨t, .next h.deleteOne ?_ hrest⟩
    simp [hn]

end Chooses

theorem failsAt_delete {s : Session Collection} (hs : s.state.Ready) {filter d : Json}
    (hd : d ∈ s.state.documents) {fault : CommandFault}
    (h : Eval.satisfies d filter = .error fault) (many : Bool) :
    Outcome.FailsAt (delete many filter) s ∧
      (delete many filter s).2.state.documents = s.state.documents := by
  obtain ⟨fault, hm⟩ := Documents.exists_marked_error hd h
  have hrun : delete many filter s =
      (.error (.command fault), s.withState (s.state.asked filter)) :=
    onMarked_unmarked hs hm _
  rw [Outcome.FailsAt, hrun]
  exact ⟨⟨_, rfl⟩, rfl⟩

/-- On a collection that is ready, with a filter that faults on none of its documents: the deletion
of all leaves those of which the filter does not hold, in their order, and reports how many it
deleted, which is what was counted before. Deleting one removes the first of which the filter holds,
or none if there is none, and as long as it is repeated until none is deleted, it makes of the
collection what the deletion of all makes of it, after as many deletions. Where the filter faults on
a document, both fail and delete nothing. -/
theorem deleted_exactly {s : Session Collection} (hs : s.state.Ready) (filter : Json) :
    (∀ holds : Json → Bool,
      (∀ d ∈ s.state.documents, Eval.satisfies d filter = .ok (holds d)) →
      (∃ n t, (StoreCall.deleteMany filter).run s = (.ok ⟨true, n⟩, t) ∧
        t.state.documents = (s.state.documents.filter fun d => !holds d) ∧
        n + t.state.documents.length = s.state.documents.length ∧
        ((StoreCall.count filter).run s).1 = .ok n ∧
        (∃ u, DeletesInTurn filter n s u) ∧
        ∀ m u, DeletesInTurn filter m s u →
          m = n ∧ u.state.documents = t.state.documents) ∧
      ∃ n t, (StoreCall.deleteOne filter).run s = (.ok ⟨true, n⟩, t) ∧
        (n = 0 ∧ (∀ d ∈ s.state.documents, holds d = false) ∧
            t.state.documents = s.state.documents ∨
          n = 1 ∧ ∃ before old after, s.state.documents = before ++ old :: after ∧
            (∀ d ∈ before, holds d = false) ∧ holds old = true ∧
            t.state.documents = before ++ after)) ∧
    ∀ d ∈ s.state.documents, ∀ fault, Eval.satisfies d filter = .error fault →
      (Outcome.FailsAt (StoreCall.deleteMany filter).run s ∧
        ((StoreCall.deleteMany filter).run s).2.state.documents = s.state.documents) ∧
      Outcome.FailsAt (StoreCall.deleteOne filter).run s ∧
        ((StoreCall.deleteOne filter).run s).2.state.documents = s.state.documents := by
  refine ⟨fun holds hholds => ?_, fun d hd fault h => ?_⟩
  · have hchooses : Chooses filter holds s := ⟨hs, hholds⟩
    refine ⟨⟨_, _, hchooses.deleteMany, rfl, ?_, hchooses.count, hchooses.exists_deletesInTurn, ?_⟩,
      _, _, hchooses.deleteOne, ?_⟩
    · exact Documents.countP_add_length_filter_not holds s.state.documents
    · intro m u hrun
      exact hchooses.of_deletesInTurn hrun
    · rcases Documents.eraseP_cases holds s.state.documents with
        ⟨hcount, hnone, herase⟩ | ⟨hpos, before, old, after, hsplit, hbefore, hold, herase⟩
      · exact .inl ⟨by omega, hnone, herase⟩
      · exact .inr ⟨by omega, before, old, after, hsplit, hbefore, hold, herase⟩
  · exact ⟨failsAt_delete hs hd h true, failsAt_delete hs hd h false⟩

end

/-- The second of four documents matches and the third by an item of a list. Another filter faults
on the second, although it holds of the first. -/
theorem deleted_exactly_listed :
    let s := holding [.object [("_id", .int 1), ("k", .string "a")],
      .object [("_id", .int 2), ("k", .string "b")],
      .object [("_id", .int 3), ("k", .array [.null, .string "b"])], .object [("_id", .int 4)]]
    let filter := Json.single "k" (.single "$eq" (.string "b"))
    let faulty := Json.single "$or" (.array [.single "k" (.string "a"), .single "$bad" .null])
    s.state.Ready ∧
      (∃ t u, (StoreCall.deleteMany filter).run s = (.ok ⟨true, 2⟩, t) ∧
        DeletesInTurn filter 2 s u ∧ u.state.documents = t.state.documents) ∧
      Outcome.FailsAt (StoreCall.deleteOne faulty).run s ∧
        ((StoreCall.deleteOne faulty).run s).2.state.documents = s.state.documents := by
  intro s filter faulty
  let holds : Json → Bool := fun d => Eval.equalsOrContains (d.get? "k") (.string "b")
  have hs : s.state.Ready := ready_holding _
  have hholds : ∀ d ∈ s.state.documents, Eval.satisfies d filter = .ok (holds d) := by
    simp only [s, holding, List.forall_mem_cons]
    exact ⟨rfl, rfl, rfl, rfl, List.forall_mem_nil _⟩
  obtain ⟨⟨n, t, hrun, -, -, hcount, ⟨u, hturn⟩, hsame⟩, -⟩ :=
    (deleted_exactly hs filter).1 holds hholds
  have htwo : ((StoreCall.count filter).run s).1 = .ok 2 := rfl
  obtain rfl : n = 2 := Except.ok.inj (hcount.symm.trans htwo)
  have hsecond : Json.object [("_id", .int 2), ("k", .string "b")] ∈ s.state.documents :=
    List.mem_cons_of_mem _ List.mem_cons_self
  obtain ⟨-, hfails⟩ := (deleted_exactly hs faulty).2 _ hsecond (.unknownTopLevel "$bad") rfl
  exact ⟨hs, ⟨t, u, hrun, hturn, (hsame 2 u hturn).2⟩, hfails⟩

end Collection
end DocQuery
