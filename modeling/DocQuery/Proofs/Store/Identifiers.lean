import DocQuery.Proofs.Store.Writing

/-!
# Identifiers of stored documents

Which identifiers a session draws, and what the writes of a collection do to the identifiers of its
documents: an object without one gets a new one, and a document that is replaced or updated leaves
its own to what takes its place.
-/
namespace DocQuery

namespace Session

variable {σ : Type} {r s t : Session σ}

/-- The identifiers that were drawn between two states of a session. -/
def newIds (s t : Session σ) : List Json :=
  (List.range' s.ids.drawn (t.ids.drawn - s.ids.drawn)).map fun i => (s.ids.objectId i).toWire

/-- A state reached by drawing identifiers. -/
structure Later (s t : Session σ) : Prop where
  source : t.ids.objectId = s.ids.objectId
  drawn : s.ids.drawn ≤ t.ids.drawn

theorem Later.refl (s : Session σ) : Later s s := ⟨rfl, Nat.le_refl _⟩

theorem Later.trans (h : Later r s) (h' : Later s t) : Later r t :=
  ⟨h'.source.trans h.source, Nat.le_trans h.drawn h'.drawn⟩

theorem Later.withState (h : Later s t) (state : σ) : Later s (t.withState state) :=
  ⟨h.source, h.drawn⟩

theorem later_advance (s : Session σ) : Later s s.advance := ⟨rfl, Nat.le_succ _⟩

@[simp]
theorem newIds_self (s : Session σ) : s.newIds s = [] := by
  simp [newIds]

theorem newIds_advance (s : Session σ) :
    s.newIds s.advance = [(s.ids.objectId s.ids.drawn).toWire] := by
  simp [newIds, advance]

theorem newIds_append (h : Later r s) (h' : Later s t) :
    r.newIds t = r.newIds s ++ s.newIds t := by
  have hsplit : t.ids.drawn - r.ids.drawn =
      (s.ids.drawn - r.ids.drawn) + (t.ids.drawn - s.ids.drawn) := by
    have := h.drawn
    have := h'.drawn
    omega
  have hmiddle : r.ids.drawn + (s.ids.drawn - r.ids.drawn) = s.ids.drawn :=
    Nat.add_sub_cancel' h.drawn
  rw [newIds, newIds, newIds, h.source, hsplit, ← List.range'_append_1, List.map_append, hmiddle]

theorem newIds_of_later (h : Later r s) (h' : Later s t) : (s.newIds t).Sublist (r.newIds t) := by
  rw [newIds_append h h']
  exact List.sublist_append_right _ _

end Session

def Document.Lacking (d : Json) : Prop :=
  ∃ members, d = .object members ∧ members.lookup internalId = none

/-- An object, and the same object under an identifier, which comes last. -/
def Document.Placed (d d' : Json) : Prop :=
  ∃ members id, d = .object members ∧ d' = .object (members ++ [(internalId, id)])

namespace Documents

variable {documents : List Json} {holds : Json → Bool} {old new : Json}

def ids (documents : List Json) : List (Option Json) := documents.map (·.get? internalId)

def Identified (documents : List Json) : Prop :=
  ∀ d ∈ documents, ∃ id, d.get? internalId = some id

theorem identified_iff : Identified documents ↔ none ∉ ids documents := by
  simp only [Identified, ids, List.mem_map, not_exists, not_and]
  refine forall₂_congr fun d _ => ?_
  rw [← Option.isSome_iff_exists, ← ne_eq, Option.isSome_iff_ne_none]

theorem ids_append (documents documents' : List Json) :
    ids (documents ++ documents') = ids documents ++ ids documents' :=
  List.map_append

theorem ids_changeFirst (hold : (documents.filter holds).head? = some old)
    (hid : new.get? internalId = old.get? internalId) :
    ids (changeFirst (fun _ => new) (documents.map fun d => (d, holds d))) = ids documents := by
  obtain ⟨-, before, after, hsplit, -, hchange⟩ := exists_first hold
  rw [hchange, hsplit, ids, ids, List.map_append, List.map_append, List.map_cons, List.map_cons,
    hid]

theorem get?_takeId {members : Members} (h : ∃ id, old.get? internalId = some id) :
    (takeId (.object members) old).get? internalId = old.get? internalId := by
  obtain ⟨id, hid⟩ := h
  rw [takeId_object hid, hid]
  exact Members.lookup_set_self internalId id members

theorem get?_updated_set {fields : Json} (h : fields.get? internalId = none) (old : Json) :
    (updated [("$set", fields)] old).1.get? internalId = old.get? internalId := by
  cases old with
  | object target =>
    cases fields with
    | object pairs =>
      have hnot := Members.lookup_eq_none_iff.mp h
      exact Members.lookup_setAll_of_not_mem hnot target
    | _ => rfl
  | _ => rfl

theorem remaining_one (documents : List Json) (holds : Json → Bool) :
    remaining false (documents.map fun d => (d, holds d)) = documents.eraseP holds := by
  rw [remaining_eq, if_neg Bool.false_ne_true, List.eraseP_map, List.map_map]
  exact List.map_id _

theorem remaining_many (documents : List Json) (holds : Json → Bool) :
    remaining true (documents.map fun d => (d, holds d)) =
      documents.filter fun d => !holds d := by
  rw [remaining_eq, if_pos rfl, List.filter_map, List.map_map]
  exact List.map_id _

theorem exists_of_marked [PatternEngine] {filter : Json} {marks : List (Json × Bool)}
    (h : marked filter documents = .ok marks) :
    ∀ d ∈ documents, ∃ b, Eval.satisfies d filter = .ok b := by
  intro d hd
  obtain ⟨m, hm⟩ := Outcome.exists_of_mapM_eq_ok h d hd
  obtain ⟨b, hb, -⟩ := Outcome.exists_of_bind_eq_ok hm
  exact ⟨b, hb⟩

end Documents

namespace Collection
open Documents (ids)

/-- Documents were added at the end, each under an identifier drawn for it. -/
def Adds (n : Nat) (s t : Session Collection) : Prop :=
  ∃ new : List Json, new.Sublist (s.newIds t) ∧ new.length = n ∧
    ids t.state.documents = ids s.state.documents ++ new.map some

theorem Adds.of_later {n : Nat} {r s t : Session Collection} (hlater : Session.Later r s)
    (hlater' : Session.Later s t) (hdocuments : s.state.documents = r.state.documents)
    (h : Adds n s t) : Adds n r t := by
  obtain ⟨new, hnew, hlength, hids⟩ := h
  refine ⟨new, hnew.trans (Session.newIds_of_later hlater hlater'), hlength, ?_⟩
  rw [hids, hdocuments]

theorem mapM_withObjectId {documents : List Json} (h : ∀ d ∈ documents, Document.Lacking d)
    (s : Session Collection) :
    ∃ stored t, (documents.mapM withObjectId : StateM (Session Collection) (List Json)) s =
        (stored, t) ∧
      t.state = s.state ∧ Session.Later s t ∧ ids stored = (s.newIds t).map some ∧
      List.Forall₂ Document.Placed documents stored := by
  induction documents generalizing s with
  | nil => exact ⟨[], s, rfl, rfl, .refl s, by rw [Session.newIds_self]; rfl, .nil⟩
  | cons d documents ih =>
    obtain ⟨hd, hrest⟩ := List.forall_mem_cons.mp h
    obtain ⟨members, rfl, hlookup⟩ := hd
    let id := (s.ids.objectId s.ids.drawn).toWire
    have hid := Members.lookup_set_self internalId id members
    have hplaced : Document.Placed (.object members)
        (.object (Members.set internalId id members)) := by
      refine ⟨members, id, rfl, ?_⟩
      rw [Members.set_of_not_mem (Members.lookup_eq_none_iff.mp hlookup)]
    obtain ⟨stored, t, hruns, hstate, hlater, hids, hall⟩ := ih hrest s.advance
    refine ⟨.object (Members.set internalId id members) :: stored, t, ?_, hstate,
      (Session.later_advance s).trans hlater, ?_, .cons hplaced hall⟩
    · rw [List.mapM_cons]
      change StateT.bind (withObjectId _) _ s = _
      rw [StateT.bind, withObjectId_lacking hlookup]
      change StateT.bind (documents.mapM withObjectId) _ s.advance = _
      rw [StateT.bind, hruns]
      rfl
    · rw [Session.newIds_append (Session.later_advance s) hlater, Session.newIds_advance]
      exact congrArg₂ List.cons hid hids

theorem append_apply {documents stored : List Json} {s t : Session Collection}
    (h : (documents.mapM withObjectId : StateM (Session Collection) (List Json)) s = (stored, t)) :
    (append documents s).2 =
      t.withState { t.state with documents := t.state.documents ++ stored } := by
  change (StateT.bind (documents.mapM withObjectId) _ s).2 = _
  rw [StateT.bind, h]
  rfl

theorem append_lacking {documents : List Json} (h : ∀ d ∈ documents, Document.Lacking d)
    (s : Session Collection) :
    let t := (append documents s).2
    Session.Later s t ∧ Adds documents.length s t := by
  obtain ⟨stored, r, hrun, hstate, hlater, hids, hplaced⟩ := mapM_withObjectId h s
  rw [append_apply hrun]
  refine ⟨hlater.withState _, s.newIds r, .refl _, ?_, ?_⟩
  · have hsame := congrArg List.length hids
    rw [ids, List.length_map, List.length_map] at hsame
    rw [← hsame, hplaced.length_eq]
  · change ids (r.state.documents ++ stored) = _
    rw [Documents.ids_append, hids, hstate]

/-- Objects without identifiers are added under new ones, in their order. -/
theorem append_placed {documents : List Json} (h : ∀ d ∈ documents, Document.Lacking d)
    (s : Session Collection) :
    ∃ stored, List.Forall₂ Document.Placed documents stored ∧ (append documents s).2.state =
      { s.state with documents := s.state.documents ++ stored } := by
  obtain ⟨stored, r, hrun, hstate, -, -, hplaced⟩ := mapM_withObjectId h s
  refine ⟨stored, hplaced, ?_⟩
  rw [append_apply hrun, ← hstate]
  rfl

/-- An object is added under its own identifier, and under a new one if it has none. -/
theorem append_object {members : Members} {r s : Session Collection} (hlater : Session.Later r s)
    (hdocuments : s.state.documents = r.state.documents) :
    let t := (append [.object members] s).2
    match members.lookup internalId with
    | none => Adds 1 r t
    | some own => ids t.state.documents = ids r.state.documents ++ [some own] := by
  intro t
  cases hlookup : members.lookup internalId with
  | none =>
    have hlacking : ∀ d ∈ [Json.object members], Document.Lacking d :=
      List.forall_mem_singleton.mpr ⟨members, rfl, hlookup⟩
    obtain ⟨hlater', hadds⟩ := append_lacking hlacking s
    exact hadds.of_later hlater hlater' hdocuments
  | some own =>
    change ids (append [.object members] s).2.state.documents = _
    rw [append_singleton, withObjectId_own hlookup, Documents.ids_append, hdocuments]
    exact congrArg (ids r.state.documents ++ [·]) hlookup

end Collection
end DocQuery
