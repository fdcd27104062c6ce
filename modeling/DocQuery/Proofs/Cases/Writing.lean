import DocQuery.Cases.Repository
import DocQuery.Proofs.Adapter.Atomicity
import DocQuery.Proofs.Cases.Search
import DocQuery.Proofs.Store.Isolation

/-!
# Recording cases and events

A copy of a case takes the place of the first document that its query selects, under the internal
identifier of that document, and is added at the end if there is none. An event is always added.
-/
namespace DocQuery

/-- A stored document: an object in which no key occurs twice, under an internal identifier. -/
structure Document.Keyed (d : Json) : Prop where
  distinct : ∃ members : Members, d = .object members ∧ members.Distinct
  identified : ∃ id, d.get? internalId = some id

namespace Search
open Native CasesRepository

def isCopyOf (caseId : String) (d : Json) : Bool :=
  equalTo (d.resolve "caseId") (.string caseId) && isCopy d

theorem sound_syncedCopy (caseId : String) : Sound (syncedCopy caseId) := by
  refine sound_conjunction ?_
  simp only [List.forall_mem_cons, List.not_mem_nil, false_imp_iff, implies_true, and_true]
  exact ⟨sound_literal .caseId rfl, sound_literal .documentType rfl⟩

theorem isCopyOf_iff {caseId : String} {d : Json} {type id : String}
    (htype : d.get? "documentType" = some (.string type))
    (hid : d.get? "caseId" = some (.string id)) :
    isCopyOf caseId d = true ↔ id = caseId ∧ type = syncedCaseType := by
  rw [isCopyOf, isCopy, Json.resolve_key (by decide), Json.resolve_key (by decide), htype, hid,
    equalTo_string, equalTo_string, Bool.and_eq_true, beq_iff_eq, beq_iff_eq]

theorem satisfies_syncedCopy [PatternEngine] {caseId : String} {f : Json}
    (hf : filter (syncedCopy caseId) = .ok f) (d : Json) :
    Eval.satisfies d f = .ok (isCopyOf caseId d) := by
  have hcaseId : ((caseField .caseId).equals (text caseId)).holds d =
      .ok (equalTo (d.resolve "caseId") (.string caseId)) :=
    holds_literal d .caseId .equals (.string caseId)
  have htype : ((caseField .documentType).equals (text syncedCaseType)).holds d = .ok (isCopy d) :=
    holds_literal d .documentType .equals (.string syncedCaseType)
  rw [(sound_syncedCopy caseId).satisfies_eq hf]
  exact allHold_append (allHold_singleton hcaseId) (allHold_singleton htype)

end Search

namespace SyncedCase
open Search

variable {c : SyncedCase}

theorem internalId_not_mem_members (c : SyncedCase) :
    internalId ∉ c.members.map Prod.fst :=
  (List.nodup_cons.mp (c.distinct_members .null)).1

theorem distinct_of_perm {members : Members} (h : members.Perm c.members) :
    internalId ∉ members.map Prod.fst ∧ members.Distinct := by
  have hkeys := (h.map Prod.fst).mem_iff (a := internalId)
  refine ⟨fun hmem => c.internalId_not_mem_members (hkeys.mp hmem), ?_⟩
  exact Members.Distinct.perm (List.nodup_cons.mp (c.distinct_members .null)).2 h.symm

theorem writtenAs_set {members : Members} (h : members.Perm c.members) (id : Json) :
    WrittenAs (.object (Members.set internalId id members)) id c := by
  refine ⟨_, rfl, ?_⟩
  rw [Members.set_of_not_mem (distinct_of_perm h).1]
  exact (List.perm_append_singleton _ _).trans (h.cons _)

theorem WrittenAs.keyed {d id : Json} (h : WrittenAs d id c) : Document.Keyed d := by
  refine ⟨?_, id, h.get?_internalId⟩
  obtain ⟨members, hd, hperm⟩ := h
  exact ⟨members, hd, (c.distinct_members id).perm hperm.symm⟩

theorem exists_identified (c : SyncedCase) (s : Session Collection) :
    ∃ members id t,
      Document.identified (Document.encode c) s = (.ok (.object members, id), t) ∧
      t.state = s.state ∧ members.Perm { c with id := some id }.members := by
  have hlookup : c.members.lookup publicId = c.id.map .string := c.lookup_id
  cases hid : c.id with
  | some id =>
    rw [hid] at hlookup
    refine ⟨c.members, id, s, Document.identified_of_text hlookup s, rfl, ?_⟩
    rw [← hid]
  | none =>
    rw [hid] at hlookup
    have hlacking : ∀ id, c.members.lookup publicId ≠ some (.string id) := by
      intro id h
      cases hlookup.symm.trans h
    refine ⟨_, _, _, Document.identified_lacking hlacking s, rfl, ?_⟩
    rw [Members.set_of_not_mem (Members.lookup_eq_none_iff.mp hlookup)]
    refine (List.perm_append_singleton _ _).trans (.of_eq ?_)
    simp [members, hid, optionalMember, publicId, texts, vectorMember]

/-- What storing a copy of a case does to the documents of a collection. -/
inductive Stores (c : SyncedCase) : List Json → List Json → Prop where
  | replaced {before after : List Json} {old new id : Json}
    (hbefore : ∀ d ∈ before, isCopyOf c.caseId d = false) (hold : isCopyOf c.caseId old = true)
    (hid : old.get? internalId = some id) (hnew : WrittenAs new id c) :
    Stores c (before ++ old :: after) (before ++ new :: after)
  | added {documents : List Json} {new id : Json}
    (hnone : ∀ d ∈ documents, isCopyOf c.caseId d = false) (hnew : WrittenAs new id c) :
    Stores c documents (documents ++ [new])

end SyncedCase

namespace CaseEvent

/-- What recording an event does to the documents of a collection. -/
inductive Records (e : CaseEvent) (documents : List Json) : List Json → Prop where
  | added {new : Json} (hnew : Document.Keyed new)
    (hkeys : ∀ key, key ≠ publicId → key ≠ internalId → new.get? key = e.toJson.get? key) :
    Records e documents (documents ++ [new])

theorem exists_members (e : CaseEvent) :
    ∃ members : Members, e.toJson = .object members ∧ members.Distinct := by
  have hnames : [publicId, "documentType", "caseId"].Nodup := by decide
  refine ⟨_, rfl, Members.Distinct.setAll (hnames.sublist ?_) _⟩
  rw [List.map_append]
  exact (SyncedCase.keys_optionalMember publicId e.id).append (.refl _)

end CaseEvent

namespace Adapter
open Collection Search

variable [PatternEngine] (A : Adapter) {s : Session Collection}

/-- On a collection that is ready, the copy of a case is stored. -/
theorem replaceOne_copy (hs : s.state.Ready) (hkeyed : ∀ d ∈ s.state.documents, Document.Keyed d)
    (c : SyncedCase) :
    ∃ id t, A.replaceOne (CasesRepository.syncedCopy c.caseId) c true s = (.ok id, t) ∧
      t.state.Ready ∧
      SyncedCase.Stores { c with id := some id } s.state.documents t.state.documents := by
  obtain ⟨f, hf⟩ := (sound_syncedCopy c.caseId).exists_filter
  obtain ⟨members, id, r, hidentified, hstate, hmembers⟩ := c.exists_identified s
  have hm : Documents.marked f r.state.documents =
      .ok (r.state.documents.map fun d => (d, isCopyOf c.caseId d)) :=
    Documents.marked_eq_map fun d _ => satisfies_syncedCopy hf d
  rw [← hstate] at hs hkeyed ⊢
  have hrun := A.replaceOne_marked hs hf hm hidentified true
  rw [Documents.chosen_map] at hrun
  cases hfirst : (r.state.documents.filter (isCopyOf c.caseId)).head? with
  | some old =>
    rw [hfirst] at hrun
    obtain ⟨hold, before, after, hsplit, hbefore, hchange⟩ := Documents.exists_first hfirst
    obtain ⟨oid, hoid⟩ := (hkeyed old (by rw [hsplit]; simp)).identified
    refine ⟨id, _, hrun, ⟨hs.isOpen, hs.sound⟩, ?_⟩
    change SyncedCase.Stores _ _ (Documents.changeFirst _ _)
    rw [hchange, hsplit, Documents.takeId_object hoid]
    exact .replaced hbefore hold hoid (SyncedCase.writtenAs_set hmembers oid)
  | none =>
    rw [hfirst] at hrun
    have hnone : ∀ d ∈ r.state.documents, isCopyOf c.caseId d = false := by
      simpa using List.head?_eq_none_iff.mp hfirst
    have hlacking := Members.lookup_eq_none_iff.mpr (SyncedCase.distinct_of_perm hmembers).1
    refine ⟨id, _, hrun, ?_, ?_⟩
    · rw [append_singleton]
      exact ⟨hs.isOpen, hs.sound⟩
    · rw [append_singleton, withObjectId_lacking hlacking]
      exact .added hnone (SyncedCase.writtenAs_set hmembers _)

/-- On a collection that is ready an event is added under a public and an internal identifier, both
new; its other members are as they were. -/
theorem insertOne_added (hs : s.state.Ready) (e : CaseEvent) :
    ∃ (id : String) (members : Members) (t : Session Collection), A.insertOne e s = (.ok id, t) ∧
      t.state = { s.state with documents := s.state.documents ++ [.object members] } ∧
      members.Distinct ∧ (∃ own, members.lookup internalId = some own) ∧
      members.lookup publicId = some (.string id) ∧
      ∀ key, key ≠ publicId → key ≠ internalId → members.lookup key = e.toJson.get? key := by
  obtain ⟨base, hbase, hdistinct⟩ := e.exists_members
  let id := s.ids.publicId s.ids.drawn
  let own := (s.advance.ids.objectId s.advance.ids.drawn).toWire
  let bare : Members := Members.swapRemove publicId (Members.swapRemove internalId base)
  let named : Members := Members.set publicId (.string id) bare
  have hinner := hdistinct.swapRemove internalId
  have hnamed : named.Distinct := (hinner.swapRemove publicId).set publicId _
  have hpublic : bare.lookup publicId = none := Members.lookup_swapRemove_self hinner publicId
  have hkept : ∀ key, key ≠ publicId → named.lookup key =
      (Members.swapRemove internalId base).lookup key := fun key hkey =>
    (Members.lookup_set_of_ne hkey _ bare).trans (Members.lookup_swapRemove_of_ne hinner hkey)
  have hinternal : named.lookup internalId = none :=
    (hkept internalId (by decide)).trans (Members.lookup_swapRemove_self hdistinct internalId)
  have hid : Document.identified (Document.bare (Document.encode e)) s =
      (.ok (.object named, id), s.advance) := by
    have hlacking : ∀ own, bare.lookup publicId ≠ some (.string own) := by simp [hpublic]
    change Document.identified (Document.bare e.toJson) s = _
    rw [hbase]
    exact Document.identified_lacking hlacking s
  have hready : s.advance.state.Ready := hs
  have hask := A.ask_of_ok (.object named) (insertOne_ready hready (.object named))
  refine ⟨id, Members.set internalId own named, _,
    (Outcome.bind_of_ok hid).trans (Outcome.bind_of_ok hask), ?_, hnamed.set internalId own,
    ⟨own, Members.lookup_set_self _ _ _⟩, ?_, ?_⟩
  · rw [append_singleton, withObjectId_lacking hinternal]
    rfl
  · rw [Members.lookup_set_of_ne (by decide)]
    exact Members.lookup_set_self _ _ _
  · intro key hkey hkey'
    rw [Members.lookup_set_of_ne hkey', hkept key hkey,
      Members.lookup_swapRemove_of_ne hdistinct hkey', hbase]
    rfl

end Adapter

namespace CasesRepository

open Collection (stored)

variable {α : Type} {R : CasesRepository} {s : Session Services}

def documents (R : CasesRepository) (s : Session Services) : List Json := (R.cases s).documents

def adapter (R : CasesRepository) : Adapter := .ofConfig module R.config

theorem onCases_of_eq (action : Adapter → Action Collection α) {result : Except QueryError α}
    {t : Session Collection} (h : action R.adapter (s.withState (R.cases s)) = (result, t)) :
    ∃ u, R.onCases action s = (result, u) ∧ R.cases u = t.state := by
  have hrun : R.onCases action s =
      ((action R.adapter (s.withState (R.cases s))).1,
        (action R.adapter (s.withState (R.cases s))).2.withState (Services.setClient
          (s.state.client.setCollection R.config.database Search.casesCollection
            (action R.adapter (s.withState (R.cases s))).2.state) s.state)) := rfl
  rw [h] at hrun
  exact ⟨_, hrun, Client.collection_setCollection _ _ _ _⟩

theorem keeps_onCases {action : Adapter → Action Collection α}
    (h : Outcome.Keeps stored (action R.adapter)) :
    Outcome.Keeps R.documents (R.onCases action) := by
  intro s
  obtain ⟨u, hrun, hcases⟩ := onCases_of_eq (s := s) action rfl
  rw [hrun, documents, hcases]
  exact h _

theorem atomic_onCases {action : Adapter → Action Collection α}
    (h : Outcome.Atomic stored (action R.adapter)) :
    Outcome.Atomic R.documents (R.onCases action) := by
  intro s err herr
  obtain ⟨u, hrun, hcases⟩ := onCases_of_eq (s := s) action rfl
  rw [hrun] at herr ⊢
  rw [documents, hcases]
  exact h _ err herr

theorem ready_of_onCases {action : Adapter → Action Collection α} {x : α} {t : Session Services}
    (h : ∀ r : Session Collection, ¬ r.state.Ready → Outcome.FailsAt (action R.adapter) r)
    (hrun : R.onCases action s = (.ok x, t)) : (R.cases s).Ready := by
  refine Classical.byContradiction fun hs => ?_
  obtain ⟨err, herr⟩ := h (s.withState (R.cases s)) hs
  have hfst := R.onCases_fst action s
  rw [hrun] at hfst
  cases hfst.trans herr

variable [PatternEngine]

theorem atomic_syncCase (c : SyncedCase) : Outcome.Atomic R.documents (R.syncCase c) :=
  atomic_onCases (R.adapter.atomic_replaceOne _ c true)

theorem ready_of_syncCase {c : SyncedCase} {id : String} {t : Session Services}
    (h : R.syncCase c s = (.ok id, t)) : (R.cases s).Ready :=
  ready_of_onCases (fun _ hr => R.adapter.replaceOne_not_ready hr _ c true) h

theorem syncCase_ready (hs : (R.cases s).Ready) (hkeyed : ∀ d ∈ R.documents s, Document.Keyed d)
    (c : SyncedCase) :
    ∃ id t, R.syncCase c s = (.ok id, t) ∧ (R.cases t).Ready ∧
      SyncedCase.Stores { c with id := some id } (R.documents s) (R.documents t) := by
  obtain ⟨id, r, hreplace, hready, hstores⟩ :=
    R.adapter.replaceOne_copy (s := s.withState (R.cases s)) hs hkeyed c
  obtain ⟨t, hrun, hcases⟩ :=
    onCases_of_eq (fun A => A.replaceOne (syncedCopy c.caseId) c true) hreplace
  refine ⟨id, t, hrun, ?_, ?_⟩
  · rwa [hcases]
  · rwa [documents, documents, hcases]

/-- An event that was recorded is the last of the documents, under a new identifier. -/
theorem createEvent_ok {kind : EventKind} {e e' : CaseEvent} {t : Session Services}
    (h : R.createEvent kind e s = (.ok e', t)) :
    kind.includes e.documentType = true ∧ (R.cases s).Ready ∧ (R.cases t).Ready ∧
      ∃ (id : String) (members : Members), e' = { e with id := some id } ∧
        R.documents t = R.documents s ++ [.object members] ∧ members.Distinct ∧
        (∃ own, members.lookup internalId = some own) ∧
        members.lookup publicId = some (.string id) ∧
        ∀ key, key ≠ publicId → key ≠ internalId → members.lookup key = e.toJson.get? key := by
  cases hkind : kind.includes e.documentType with
  | false =>
    rw [createEvent, hkind] at h
    cases h
  | true =>
    rw [createEvent, hkind, if_pos rfl] at h
    obtain ⟨id, u, hrun, hpure⟩ := Outcome.exists_of_bind_ok h
    cases hpure
    have hs := ready_of_onCases (fun _ hr => R.adapter.insertOne_not_ready hr e) hrun
    obtain ⟨id', members, r, hinsert, hstate, hmembers⟩ :=
      R.adapter.insertOne_added (s := s.withState (R.cases s)) hs e
    obtain ⟨u', hrun', hcases⟩ := onCases_of_eq (fun A => A.insertOne e) hinsert
    cases hrun.symm.trans hrun'
    rw [hstate] at hcases
    refine ⟨rfl, hs, ?_, id, members, rfl, ?_, hmembers⟩
    · rw [hcases]
      exact ⟨hs.isOpen, hs.sound⟩
    · rw [documents, hcases]
      rfl

theorem atomic_createEvent (kind : EventKind) (e : CaseEvent) :
    Outcome.Atomic R.documents (R.createEvent kind e) := by
  have hinsert : Outcome.Atomic R.documents (R.onCases fun A => A.insertOne e) :=
    atomic_onCases (R.adapter.atomic_insertOne e)
  rw [createEvent]
  split
  · exact hinsert.bind fun _ _ _ _ => .inr (Outcome.succeeds_pure _)
  · exact (Outcome.keeps_throw _ _).atomic

theorem createEvent_cases (kind : EventKind) (e : CaseEvent) (s : Session Services) :
    R.documents (R.createEvent kind e s).2 = R.documents s ∨
      kind.includes e.documentType = true ∧
        e.Records (R.documents s) (R.documents (R.createEvent kind e s).2) := by
  cases hrun : R.createEvent kind e s with
  | mk result t =>
    cases result with
    | error err =>
      have hkept := atomic_createEvent (R := R) kind e s err (congrArg Prod.fst hrun)
      rw [hrun] at hkept
      exact .inl hkept
    | ok e' =>
      obtain ⟨hkind, -, -, id, members, -, hdocuments, hdistinct, hown, -, hkeys⟩ :=
        createEvent_ok hrun
      refine .inr ⟨hkind, ?_⟩
      rw [hdocuments]
      exact .added ⟨⟨members, rfl, hdistinct⟩, hown⟩ hkeys

end CasesRepository
end DocQuery
