import DocQuery.Proofs.Adapter.Agreement
import DocQuery.Proofs.Adapter.Identity
import DocQuery.Proofs.Path
import DocQuery.Regex.Engine

/-!
# Reading inserted items back

Items are inserted without the identifiers that they bring, under new ones. Where nothing stored
bears one of the new identifiers, each of them leads back to its item, whatever else the items and
the stored documents are.
-/
namespace DocQuery

def Members.anonymous (members : Members) : Members :=
  members.filter fun m => m.1 != internalId && m.1 != publicId

def Expr.byId (id : String) : Expr :=
  .condition ⟨.equals, ⟨publicId, none⟩, .literal (.string id)⟩

def Session.publicIds {σ : Type} (s : Session σ) (n : Nat) : List String :=
  (List.range' s.ids.drawn n).map s.ids.publicId

theorem Session.publicIds_succ {σ : Type} (s : Session σ) (n : Nat) :
    s.publicIds (n + 1) = s.ids.publicId s.ids.drawn :: s.advance.publicIds n := by
  rw [publicIds, List.range'_succ]
  rfl

namespace Members

variable {item : Members}

theorem lookup_anonymous (item : Members) (key : String) :
    item.anonymous.lookup key =
      if key != internalId && key != publicId then item.lookup key else none :=
  lookup_filter (fun key => key != internalId && key != publicId) item key

theorem bare_perm (h : item.Distinct) :
    (swapRemove publicId (swapRemove internalId item)).Perm item.anonymous := by
  have hfirst := h.swapRemove internalId
  refine perm_of_lookup_eq (hfirst.swapRemove publicId) (h.filter _) fun key => ?_
  rw [lookup_anonymous]
  by_cases hpublic : key = publicId
  · rw [hpublic, lookup_swapRemove_self hfirst]
    rfl
  · rw [lookup_swapRemove_of_ne hfirst hpublic]
    by_cases hinternal : key = internalId
    · rw [hinternal, lookup_swapRemove_self h]
      rfl
    · rw [lookup_swapRemove_of_ne h hinternal, bne_iff_ne.mpr hpublic, bne_iff_ne.mpr hinternal]
      rfl

theorem internalId_not_mem (item : Members) (id : Json) :
    internalId ∉ ((publicId, id) :: item.anonymous).map Prod.fst := by
  have hne : (internalId == publicId) = false := by decide
  rw [← lookup_eq_none_iff, List.lookup_cons, hne, lookup_anonymous]
  rfl

theorem Distinct.identified (h : item.Distinct) (oid id : Json) :
    Distinct ((internalId, oid) :: (publicId, id) :: item.anonymous) := by
  have hpublic : publicId ∉ item.anonymous.map Prod.fst := by
    rw [← lookup_eq_none_iff, lookup_anonymous]
    rfl
  exact List.nodup_cons.mpr
    ⟨internalId_not_mem item id, List.nodup_cons.mpr ⟨hpublic, h.filter _⟩⟩

end Members

namespace Document

variable {σ : Type} {id : String} {item : Members} {d d' : Json}

/-- Whether a search for an identifier finds a document: its own is that text, or a list with it. -/
def bears (id : String) (d : Json) : Bool := equalTo (d.get? publicId) (.string id)

/-- An item under an identifier, as callers see it. -/
def Named (id : String) (item : Members) (d : Json) : Prop :=
  ∃ members, d = .object members ∧ members.Perm ((publicId, .string id) :: item.anonymous)

/-- An item under an identifier, as it is stored. -/
def Stored (id : String) (item : Members) (d : Json) : Prop :=
  ∃ members oid, d = .object members ∧
    members.Perm ((internalId, oid) :: (publicId, .string id) :: item.anonymous)

theorem identified_bare (h : item.Distinct) (s : Session σ) :
    ∃ d, identified (bare (.object item)) s = (.ok (d, s.ids.publicId s.ids.drawn), s.advance) ∧
      Named (s.ids.publicId s.ids.drawn) item d := by
  have hlookup := Members.lookup_swapRemove_self (h.swapRemove internalId) publicId
  have hnone : ∀ id, (Members.swapRemove publicId (Members.swapRemove internalId item)).lookup
      publicId ≠ some (.string id) := by
    intro id hid
    cases hlookup.symm.trans hid
  refine ⟨_, identified_lacking hnone s, _, rfl, ?_⟩
  rw [Members.set_of_not_mem (Members.lookup_eq_none_iff.mp hlookup)]
  exact (List.perm_append_singleton _ _).trans ((Members.bare_perm h).cons _)

theorem mapM_identified_bare {items : List Members} (h : ∀ item ∈ items, item.Distinct)
    (s : Session σ) :
    ∃ prepared t, (items.map Json.object).mapM (fun item => identified (bare item)) s =
        (.ok prepared, t) ∧
      t.state = s.state ∧ prepared.map Prod.snd = s.publicIds items.length ∧
      List.Forall₂ (fun p d => Named p.1 p.2 d) ((s.publicIds items.length).zip items)
        (prepared.map Prod.fst) := by
  induction items generalizing s with
  | nil => exact ⟨[], s, rfl, rfl, rfl, .nil⟩
  | cons item items ih =>
    obtain ⟨hitem, hrest⟩ := List.forall_mem_cons.mp h
    obtain ⟨d, hfirst, hnamed⟩ := identified_bare hitem s
    obtain ⟨prepared, t, hothers, hstate, hids, hall⟩ := ih hrest s.advance
    refine ⟨(d, s.ids.publicId s.ids.drawn) :: prepared, t, ?_, hstate, ?_, ?_⟩
    · rw [List.map_cons, List.mapM_cons, Outcome.bind_of_ok hfirst, Outcome.bind_of_ok hothers]
      rfl
    · rw [List.length_cons, Session.publicIds_succ, List.map_cons, hids]
    · rw [List.length_cons, Session.publicIds_succ]
      exact .cons hnamed hall

theorem Named.lacking (h : Named id item d) : Lacking d := by
  obtain ⟨members, rfl, hperm⟩ := h
  refine ⟨members, rfl, Members.lookup_eq_none_iff.mpr ?_⟩
  rw [(hperm.map Prod.fst).mem_iff]
  exact Members.internalId_not_mem item (.string id)

theorem Named.stored (h : Named id item d) (hplaced : Placed d d') : Stored id item d' := by
  obtain ⟨members, rfl, hperm⟩ := h
  obtain ⟨_, oid, ⟨⟩, rfl⟩ := hplaced
  exact ⟨_, oid, rfl, (List.perm_append_singleton _ _).trans (hperm.cons _)⟩

theorem stored_of_placed {pairs : List (String × Members)} {documents added : List Json}
    (hnamed : List.Forall₂ (fun p d => Named p.1 p.2 d) pairs documents)
    (hplaced : List.Forall₂ Placed documents added) :
    List.Forall₂ (fun p d => Stored p.1 p.2 d) pairs added := by
  induction hnamed generalizing added with
  | nil =>
    cases hplaced
    exact .nil
  | cons hd _ ih =>
    cases hplaced with
    | cons hfirst hrest => exact .cons (hd.stored hfirst) (ih hrest)

theorem Stored.named (hitem : item.Distinct) (h : Stored id item d) :
    Named id item (without internalId d) := by
  obtain ⟨members, oid, rfl, hperm⟩ := h
  exact ⟨_, rfl, Members.swapRemove_perm (hitem.identified oid (.string id)) hperm⟩

theorem Stored.bears_iff (hitem : item.Distinct) (h : Stored id item d) {id' : String} :
    bears id' d = true ↔ id = id' := by
  obtain ⟨members, oid, rfl, hperm⟩ := h
  have hdistinct := hitem.identified oid (.string id)
  have hid : members.lookup publicId = some (.string id) := by
    rw [← Members.lookup_perm hdistinct hperm.symm, Members.lookup_eq_some_iff hdistinct]
    exact List.mem_cons_of_mem _ List.mem_cons_self
  rw [bears, Json.get?, hid, equalTo_string, beq_iff_eq]

/-- Of items stored under distinct identifiers, the first that bears one of them is its own. -/
theorem exists_find? {pairs : List (String × Members)} {added : List Json}
    (hstored : List.Forall₂ (fun p d => Stored p.1 p.2 d) pairs added)
    (hnodup : (pairs.map Prod.fst).Nodup) (hdistinct : ∀ p ∈ pairs, p.2.Distinct) :
    ∀ p ∈ pairs, ∃ d, added.find? (bears p.1) = some d ∧ Stored p.1 p.2 d := by
  induction hstored with
  | nil => exact List.forall_mem_nil _
  | @cons q d pairs added hd _ ih =>
    obtain ⟨hq, hrest⟩ := List.forall_mem_cons.mp hdistinct
    obtain ⟨hnew, hothers⟩ := List.nodup_cons.mp hnodup
    refine List.forall_mem_cons.mpr ⟨⟨d, ?_, hd⟩, fun p hp => ?_⟩
    · exact List.find?_cons_of_pos ((hd.bears_iff hq).mpr rfl)
    · have hne : ¬ bears p.1 d = true := by
        rw [hd.bears_iff hq]
        exact fun heq => hnew (List.mem_map.mpr ⟨p, hp, heq.symm⟩)
      rw [List.find?_cons_of_neg hne]
      exact ih hothers hrest p hp

theorem satisfies_byId [PatternEngine] {f : Json} (hf : Native.filter (.byId id) = .ok f)
    (d : Json) : Eval.satisfies d f = .ok (bears id d) := by
  cases hf
  have hname : Native.startsWithDollar publicId = false := rfl
  refine (satisfies_comparison d hname .equals (.string id)).trans ?_
  rw [Eval.compares, equalsOrContains_eq_equalTo, Json.resolve_key (by decide)]
  rfl

end Document

namespace Adapter
open Document

variable {α : Type} [Document α] (A : Adapter) {s t : Session Collection}

section

variable [PatternEngine]

theorem insertOne_prepared (ht : t.state.Ready) {item : α} {document : Json} {id : String}
    (h : identified (bare (encode item)) s = (.ok (document, id), t)) :
    A.insertOne item s = (.ok id, (Collection.append [document] t).2) :=
  (Outcome.bind_of_ok h).trans
    (Outcome.bind_of_ok (A.ask_of_ok document (Collection.insertOne_ready ht document)))

theorem insertMany_prepared (ht : t.state.Ready) {items : List α}
    {prepared : List (Json × String)}
    (h : (items.mapM fun item => identified (bare (encode item))) s = (.ok prepared, t)) :
    A.insertMany items s =
      (.ok (prepared.map Prod.snd), (Collection.append (prepared.map Prod.fst) t).2) := by
  have hask := A.ask_of_ok (.strings (prepared.map Prod.snd))
    (Collection.insertMany_ready ht (prepared.map Prod.fst))
  refine (Outcome.bind_of_ok h).trans ((Outcome.bind_of_ok hask).trans ?_)
  rw [List.length_map, List.length_map, if_pos rfl]
  rfl

theorem insertMany_singleton (hs : s.state.Ready) (item : α) :
    A.insertMany [item] s = ((A.insertOne item s).1.map ([·]), (A.insertOne item s).2) := by
  cases hid : identified (bare (encode item)) s with
  | mk result t =>
    cases result with
    | error e =>
      have hone : A.insertOne item s = (.error e, t) := Outcome.bind_of_error hid
      have hprepare : ([item].mapM fun item => identified (bare (encode item))) s =
          (.error e, t) := by
        rw [List.mapM_cons]
        exact Outcome.bind_of_error hid
      rw [hone]
      exact Outcome.bind_of_error hprepare
    | ok p =>
      obtain ⟨document, id⟩ := p
      have ht : t.state.Ready := state_of_identified hid ▸ hs
      have hprepare : ([item].mapM fun item => identified (bare (encode item))) s =
          (.ok [(document, id)], t) := by
        rw [List.mapM_cons]
        exact Outcome.bind_of_ok hid
      rw [A.insertOne_prepared ht hid, A.insertMany_prepared ht hprepare]
      rfl

theorem insertMany_not_object {items : List α} {item : α} (hitem : item ∈ items)
    (h : (encode item).isObject = false) (s : Session Collection) :
    Outcome.FailsAt (A.insertMany items) s ∧ (A.insertMany items s).2.state = s.state := by
  obtain ⟨e, he⟩ := failsAt_prepare hitem h s
  have hstate := keeps_prepare items s
  cases hrun : (items.mapM fun item => identified (bare (encode item))) s with
  | mk result t =>
    rw [hrun] at he hstate
    cases he
    have hfail : A.insertMany items s = (.error e, t) := Outcome.bind_of_error hrun
    rw [Outcome.FailsAt, hfail]
    exact ⟨⟨e, rfl⟩, hstate⟩

/-- Objects are added in their order, each under the identifier returned for it. -/
theorem insertMany_objects (hs : s.state.Ready) {items : List Members}
    (hitems : ∀ item ∈ items, item.Distinct) :
    ∃ added t, A.insertMany (items.map Json.object) s = (.ok (s.publicIds items.length), t) ∧
      t.state = { s.state with documents := s.state.documents ++ added } ∧
      List.Forall₂ (fun p d => Stored p.1 p.2 d) ((s.publicIds items.length).zip items) added := by
  obtain ⟨prepared, r, hprepared, hstate, hids, hnamed⟩ := mapM_identified_bare hitems s
  have hlacking : ∀ d ∈ prepared.map Prod.fst, Lacking d :=
    ((List.forall₂_and_left _ _).mp (hnamed.flip.imp fun d p h => ⟨Named.lacking h, h⟩)).1
  obtain ⟨added, hplaced, happend⟩ := Collection.append_placed hlacking r
  have hr : r.state.Ready := hstate ▸ hs
  rw [← hids] at hnamed ⊢
  refine ⟨added, _, A.insertMany_prepared hr hprepared, ?_, stored_of_placed hnamed hplaced⟩
  rw [happend, hstate]

theorem findOne_byId (hs : s.state.Ready) (id : String) :
    (A.findOne (.byId id) s).1 =
      (A.readFirst (s.state.documents.find? (bears id)) : Except QueryError Json) := by
  have hf : ∃ f, Native.filter (.byId id) = .ok f := ⟨_, rfl⟩
  obtain ⟨f, hf⟩ := hf
  have hselect : Documents.select f s.state.documents = .ok (s.state.documents.filter (bears id)) :=
    Documents.select_eq_filter fun d _ => satisfies_byId hf d
  rw [A.findOne_ready hs hf, hselect, ← List.head?_filter]
  rfl

/-- On a collection that is ready, objects that are inserted get as many distinct identifiers, are
stored after everything else and in their order, and each is found by its identifier, provided that
the identifiers drawn are distinct and that nothing stored bears one of them. The insertion of one
item, of any kind, is that of a list with it, and nothing is inserted from a list in which some item
is no object. -/
theorem findOne_insertMany (hs : s.state.Ready) :
    (∀ items : List Members, (∀ item ∈ items, item.Distinct) →
      (s.publicIds items.length).Nodup →
      (∀ id ∈ s.publicIds items.length, ∀ d ∈ s.state.documents, bears id d = false) →
      ∃ ids added t, A.insertMany (items.map Json.object) s = (.ok ids, t) ∧
        ids.length = items.length ∧ ids.Nodup ∧
        t.state.documents = s.state.documents ++ added ∧
        List.Forall₂ (fun p d => Stored p.1 p.2 d) (ids.zip items) added ∧
        ∀ p ∈ ids.zip items, ∃ d, (A.findOne (.byId p.1) t).1 = .ok d ∧ Named p.1 p.2 d) ∧
    (∀ item : Json, A.insertMany [item] s =
      ((A.insertOne item s).1.map ([·]), (A.insertOne item s).2)) ∧
    ∀ items : List Json, (∃ item ∈ items, item.isObject = false) →
      Outcome.FailsAt (A.insertMany items) s ∧ (A.insertMany items s).2.state = s.state := by
  refine ⟨fun items hitems hnodup hfresh => ?_, A.insertMany_singleton hs,
    fun items ⟨item, hitem, h⟩ => A.insertMany_not_object hitem h s⟩
  obtain ⟨added, t, hrun, hstate, hstored⟩ := A.insertMany_objects hs hitems
  have hlength : (s.publicIds items.length).length = items.length := by
    rw [Session.publicIds, List.length_map, List.length_range']
  have ht : t.state.Ready := hstate ▸ ⟨hs.isOpen, hs.sound⟩
  refine ⟨_, added, t, hrun, hlength, hnodup, congrArg Collection.documents hstate, hstored,
    fun p hp => ?_⟩
  have hkeys : (((s.publicIds items.length).zip items).map Prod.fst).Nodup := by
    rwa [List.map_fst_zip (Nat.le_of_eq hlength)]
  have hpairs : ∀ p ∈ (s.publicIds items.length).zip items, p.2.Distinct :=
    fun p hp => hitems p.2 (List.of_mem_zip hp).2
  obtain ⟨d, hfind, hd⟩ := exists_find? hstored hkeys hpairs p hp
  have hnone : s.state.documents.find? (bears p.1) = none := by
    rw [List.find?_eq_none]
    exact fun d hd => Bool.eq_false_iff.mp (hfresh p.1 (List.of_mem_zip hp).1 d hd)
  refine ⟨without internalId d, ?_, hd.named (hpairs p hp)⟩
  rw [A.findOne_byId ht, hstate, List.find?_append, hnone, Option.none_or, hfind]
  rfl

end

/-- Two equal items that bring the identifiers of a document stored before them. -/
theorem findOne_insertMany_twins :
    let s := Collection.holding [.object [("_id", .int 1), ("id", .array [.string "own"])]]
    let item : Members := [("id", .string "own"), ("n", .int 2), ("_id", .int 1)]
    let A := Adapter.plain "NOTES"
    s.state.Ready ∧ ∃ ids added t,
      A.insertMany [Json.object item, Json.object item] s = (.ok ids, t) ∧ ids.Nodup ∧
        t.state.documents = s.state.documents ++ added ∧
        ∀ p ∈ ids.zip [item, item], ∃ d, (A.findOne (.byId p.1) t).1 = .ok d ∧ Named p.1 p.2 d := by
  intro s item A
  have hs : s.state.Ready := Collection.ready_holding _
  have hitem : item.Distinct := by
    change ["id", "n", "_id"].Nodup
    decide
  have hitems : ∀ i ∈ [item, item], i.Distinct := by simp [hitem]
  have hnodup : (s.publicIds 2).Nodup := by decide
  have hfresh : ∀ id ∈ s.publicIds 2, ∀ d ∈ s.state.documents, bears id d = false := by decide
  obtain ⟨ids, added, t, hrun, -, hids, hdocuments, -, hfound⟩ :=
    (findOne_insertMany A hs).1 [item, item] hitems hnodup hfresh
  exact ⟨hs, ids, added, t, hrun, hids, hdocuments, hfound⟩

end Adapter
end DocQuery
