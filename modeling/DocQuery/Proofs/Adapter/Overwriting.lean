import DocQuery.Proofs.Adapter.Identity
import DocQuery.Regex.Engine

/-!
# Overwriting documents

What a replacement and an update make of the first document of which their query holds, key by key,
and what they do where there is none. Every other document stays as it is and where it is.
-/
namespace DocQuery
open Function (update)

/-- An object in which no key occurs twice, with the given value under each key. -/
def Json.ObjectOf (value : String → Option Json) (d : Json) : Prop :=
  ∃ members, d = .object members ∧ Members.Distinct members ∧
    ∀ key, members.lookup key = value key

section

variable {value : String → Option Json} {d old : Json} {item members : Members}

theorem Members.Distinct.objectOf (h : members.Distinct) :
    (Json.object members).ObjectOf (members.lookup ·) :=
  ⟨members, rfl, h, fun _ => rfl⟩

theorem Json.ObjectOf.set (h : (Json.object members).ObjectOf value) (key : String) (v : Json) :
    (Json.object (members.set key v)).ObjectOf (update value key (some v)) := by
  obtain ⟨_, ⟨⟩, hdistinct, hvalue⟩ := h
  refine ⟨_, rfl, hdistinct.set key v, fun k => ?_⟩
  by_cases hk : k = key
  · rw [hk, Members.lookup_set_self, Function.update_self]
  · rw [Members.lookup_set_of_ne hk, Function.update_of_ne hk, hvalue]

/-- The identifier under which an item is stored: its own if that is a text, otherwise the next. -/
def Document.givenId {σ : Type} (item : Members) (s : Session σ) : String :=
  match item.lookup publicId with
  | some (.string id) => id
  | _ => s.ids.publicId s.ids.drawn

theorem Document.identified_item {σ : Type} (h : item.Distinct) (s : Session σ) :
    ∃ d t, identified (.object item) s = (.ok (d, givenId item s), t) ∧ t.state = s.state ∧
      d.ObjectOf (update (item.lookup ·) publicId (some (.string (givenId item s)))) := by
  by_cases hid : ∃ id, item.lookup publicId = some (.string id)
  · obtain ⟨id, hid⟩ := hid
    have hgiven : givenId item s = id := by
      simp only [givenId, hid]
    have hsame : update (item.lookup ·) publicId (some (.string id)) = (item.lookup ·) := by
      rw [← hid]
      exact Function.update_eq_self publicId _
    rw [hgiven, hsame]
    exact ⟨_, s, identified_of_text hid s, rfl, h.objectOf⟩
  · have hnone := not_exists.mp hid
    have hgiven : givenId item s = s.ids.publicId s.ids.drawn := by
      unfold givenId
      split
      · next id hown => exact absurd hown (hnone id)
      · rfl
    rw [hgiven]
    exact ⟨_, s.advance, identified_lacking hnone s, rfl, h.objectOf.set publicId _⟩

theorem Documents.objectOf_takeId (h : d.ObjectOf value)
    (hold : ∃ id, old.get? internalId = some id) :
    (takeId d old).ObjectOf (update value internalId (old.get? internalId)) := by
  obtain ⟨id, hid⟩ := hold
  have hobject := h
  obtain ⟨members, rfl, -⟩ := hobject
  rw [takeId_object hid, hid]
  exact h.set internalId id

theorem Collection.objectOf_withObjectId (h : d.ObjectOf value) (s : Session Collection) :
    ∃ oid : ObjectId, (withObjectId d s).1.ObjectOf
      (update value internalId (some ((value internalId).getD oid.toWire))) := by
  have hobject := h
  obtain ⟨members, rfl, -, hvalue⟩ := hobject
  refine ⟨s.ids.objectId s.ids.drawn, ?_⟩
  cases hown : members.lookup internalId with
  | some own =>
    have hsame : update value internalId (some own) = value := by
      rw [← hown, hvalue]
      exact Function.update_eq_self internalId value
    rw [withObjectId_own hown, ← hvalue, hown, Option.getD_some, hsame]
    exact h
  | none =>
    rw [withObjectId_lacking hown, ← hvalue, hown, Option.getD_none]
    exact h.set internalId _

theorem Documents.objectOf_updated {target patch : Members} (htarget : target.Distinct)
    (hpatch : patch.Distinct) :
    ∃ new, updated [("$set", Document.without internalId (.object patch))] (.object target) =
        (new, .ok ()) ∧
      new.ObjectOf (update (fun key => (patch.lookup key).or (target.lookup key)) internalId
        (target.lookup internalId)) := by
  have hset := hpatch.swapRemove internalId
  refine ⟨.object (target.setAll (patch.swapRemove internalId)), rfl, _, rfl, htarget.setAll _, ?_⟩
  intro key
  rw [Members.lookup_setAll, ← Members.lookup_perm hset (List.reverse_perm _).symm]
  by_cases hkey : key = internalId
  · rw [hkey, Members.lookup_swapRemove_self hpatch, Function.update_self, Option.none_or]
  · rw [Members.lookup_swapRemove_of_ne hpatch hkey, Function.update_of_ne hkey]

end

namespace Adapter
open Document (givenId)

section

variable [PatternEngine]

/-- A replacement and an update of the first document of which a query holds: that document becomes
another one, and nothing else changes. -/
structure Overwrites (A : Adapter) (query : Expr) (item patch : Members) (s : Session Collection)
    (before : List Json) (old : Json) (after : List Json) : Prop where
  /-- The new document is the item, under its identifier and the old internal one. -/
  replaced : ∀ upsert, ∃ new t,
    A.replaceOne query (Json.object item) upsert s = (.ok (givenId item s), t) ∧
      t.state.documents = before ++ new :: after ∧
      new.ObjectOf (update (update (item.lookup ·) publicId (some (.string (givenId item s))))
        internalId (old.get? internalId))
  /-- The new document has the entries of the patch but its identifier, and else those of the old
  one. -/
  updated : ∃ new t,
    A.updateOne query (.object patch) s = (.ok (if new == old then 0 else 1), t) ∧
      t.state.documents = before ++ new :: after ∧
      new.ObjectOf (update (fun key => (patch.lookup key).or (old.get? key)) internalId
        (old.get? internalId))

/-- A replacement and an update where a query holds of no document. -/
structure Misses (A : Adapter) (query : Expr) (item patch : Members) (s : Session Collection) :
    Prop where
  /-- The item is added with an internal identifier, its own if it has one. -/
  inserted : ∃ (oid : ObjectId) (new : Json) (t : Session Collection),
    A.replaceOne query (Json.object item) true s = (.ok (givenId item s), t) ∧
      t.state.documents = s.state.documents ++ [new] ∧
      new.ObjectOf (update (update (item.lookup ·) publicId (some (.string (givenId item s))))
        internalId (some ((item.lookup internalId).getD oid.toWire)))
  notReplaced : ∃ t,
    A.replaceOne query (Json.object item) false s = (.error (.notFound A.module .noMatch), t) ∧
      t.state.documents = s.state.documents
  notUpdated : ∃ t,
    A.updateOne query (.object patch) s = (.error (.notFound A.module .noMatch), t) ∧
      t.state.documents = s.state.documents

/-- A replacement and an update that the store refuses. -/
structure Refuses (A : Adapter) (query : Expr) (item patch : Members) (s : Session Collection) :
    Prop where
  notReplaced : ∀ upsert, ∃ filter failure t,
    A.replaceOne query (Json.object item) upsert s = (.error (.store A.module filter failure), t) ∧
      t.state.documents = s.state.documents
  notUpdated : ∃ filter failure t,
    A.updateOne query (.object patch) s = (.error (.store A.module filter failure), t) ∧
      t.state.documents = s.state.documents

section

variable {A : Adapter} {query : Expr} {f : Json} {s : Session Collection} {item patch : Members}
  {holds : Json → Bool}

theorem overwrites (hs : s.state.Ready) (hf : Native.filter query = .ok f)
    (hm : Documents.marked f s.state.documents =
      .ok (s.state.documents.map fun d => (d, holds d)))
    (hitem : item.Distinct) (hpatch : patch.Distinct) {before after : List Json} {old : Json}
    (hold : (s.state.documents.filter holds).head? = some old)
    (hid : ∃ id, old.get? internalId = some id) (hproper : Document.Proper old)
    (hchange : ∀ new, Documents.changeFirst (fun _ => new)
      (s.state.documents.map fun d => (d, holds d)) = before ++ new :: after) :
    A.Overwrites query item patch s before old after := by
  constructor
  · intro upsert
    obtain ⟨d, r, hrun, hstate, hd⟩ := Document.identified_item hitem s
    rw [← hstate] at hs hm
    change Document.identified (Document.encode (Json.object item)) s = _ at hrun
    have hreplace := A.replaceOne_marked hs hf hm hrun upsert
    rw [hstate, Documents.chosen_map, hold] at hreplace
    exact ⟨_, _, hreplace, hchange _, Documents.objectOf_takeId hd hid⟩
  · obtain ⟨id, hid⟩ := hid
    cases old with
    | object target =>
      obtain ⟨new, hnew, hobject⟩ := Documents.objectOf_updated hproper hpatch
      have hupdate := A.updateOne_marked hs hf hm (.object patch)
      simp only [Documents.chosen_map, hold, hnew] at hupdate
      exact ⟨new, _, hupdate, hchange new, hobject⟩
    | _ => cases hid

theorem misses (hs : s.state.Ready) (hf : Native.filter query = .ok f)
    (hm : Documents.marked f s.state.documents =
      .ok (s.state.documents.map fun d => (d, holds d)))
    (hitem : item.Distinct) (hnone : (s.state.documents.filter holds).head? = none) :
    A.Misses query item patch s := by
  obtain ⟨d, r, hrun, hstate, hd⟩ := Document.identified_item hitem s
  have hsr := hs
  have hmr := hm
  rw [← hstate] at hsr hmr
  change Document.identified (Document.encode (Json.object item)) s = _ at hrun
  have hreplace := A.replaceOne_marked hsr hf hmr hrun
  have hupdate := A.updateOne_marked hs hf hm (.object patch)
  simp only [hstate, Documents.chosen_map, hnone] at hreplace hupdate
  constructor
  · obtain ⟨oid, hobject⟩ := Collection.objectOf_withObjectId hd (r.withState (s.state.asked f))
    have hadded := congrArg Collection.documents
      (Collection.append_singleton d (r.withState (s.state.asked f)))
    rw [Function.update_of_ne (by decide)] at hobject
    exact ⟨oid, _, _, hreplace true, hadded, hobject⟩
  · exact ⟨_, hreplace false, rfl⟩
  · exact ⟨_, hupdate, rfl⟩

theorem refuses (hs : ¬ s.state.Ready) (hf : Native.filter query = .ok f) (hitem : item.Distinct) :
    A.Refuses query item patch s := by
  constructor
  · intro upsert
    obtain ⟨d, r, hrun, hstate, -⟩ := Document.identified_item hitem s
    obtain ⟨failure, t, hkept, hask⟩ := A.ask_refused f (hstate ▸ hs) (some f)
    refine ⟨f, failure, t, ?_, hkept.trans (congrArg Collection.documents hstate)⟩
    rw [replaceOne, hf]
    exact (Outcome.bind_of_ok hrun).trans (Outcome.bind_of_error (hask _))
  · obtain ⟨failure, t, hkept, hask⟩ := A.ask_refused f hs (some f)
    refine ⟨f, failure, t, ?_, hkept⟩
    rw [updateOne, hf]
    change (A.ask f _ >>= _) s = _
    exact Outcome.bind_of_error (hask _)

end

/-- On a collection of objects with internal identifiers, and by a query whose filter faults on none
of them: where some document matches, a replacement and an update overwrite the first that does, and
where none does, a replacement is inserted if that is asked for, and else nothing was found. This is
so if the collection is open and no failure was injected; otherwise the store refuses both, and they
change nothing. -/
theorem overwritten_exactly (A : Adapter) {query : Expr} {f : Json}
    (hf : Native.filter query = .ok f) {s : Session Collection}
    (hidentified : Documents.Identified s.state.documents)
    (hproper : ∀ d ∈ s.state.documents, Document.Proper d)
    (hdecided : ∀ d ∈ s.state.documents, ∃ b, Eval.satisfies d f = .ok b)
    {item patch : Members} (hitem : item.Distinct) (hpatch : patch.Distinct) :
    (s.state.Ready →
      ((∃ d ∈ s.state.documents, Eval.satisfies d f = .ok true) →
        ∃ before old after, s.state.documents = before ++ old :: after ∧
          (∀ d ∈ before, Eval.satisfies d f = .ok false) ∧ Eval.satisfies old f = .ok true ∧
          A.Overwrites query item patch s before old after) ∧
      ((∀ d ∈ s.state.documents, Eval.satisfies d f = .ok false) →
        A.Misses query item patch s)) ∧
    (¬ s.state.Ready → A.Refuses query item patch s) := by
  refine ⟨fun hs => ?_, fun hs => refuses hs hf hitem⟩
  obtain ⟨holds, hholds⟩ := Documents.exists_holds hdecided
  have hm := Documents.marked_eq_map hholds
  constructor
  · rintro ⟨d, hd, hmatch⟩
    cases hold : (s.state.documents.filter holds).head? with
    | none =>
      rw [List.head?_eq_none_iff, List.filter_eq_nil_iff] at hold
      exact absurd (Except.ok.inj ((hholds d hd).symm.trans hmatch)) (hold d hd)
    | some old =>
      obtain ⟨hfirst, before, after, hsplit, hbefore, hchange⟩ := Documents.exists_first hold
      have hmem : old ∈ s.state.documents := by simp [hsplit]
      refine ⟨before, old, after, hsplit, fun d hd => ?_, ?_, overwrites hs hf hm hitem hpatch hold
        (hidentified old hmem) (hproper old hmem) hchange⟩
      · rw [hholds d (by simp [hsplit, hd]), hbefore d hd]
      · rw [hholds old hmem, hfirst]
  · intro hnone
    refine misses hs hf hm hitem ?_
    rw [List.head?_eq_none_iff, List.filter_eq_nil_iff]
    intro d hd hmatch
    have hfalse := Except.ok.inj ((hholds d hd).symm.trans (hnone d hd))
    exact Bool.false_ne_true (hfalse.symm.trans hmatch)

end

/-- The second and the third of three documents match; the item has an identifier that is no text,
and the item and the patch bring internal identifiers. Another query holds of no document, and the
same collection refuses both calls once it is closed. -/
theorem overwritten_exactly_second :
    let documents : List Json := [.object [("_id", .int 1), ("k", .string "a")],
      .object [("k", .string "b"), ("_id", .int 2)], .object [("_id", .int 3), ("k", .string "b")]]
    let query (k : String) : Expr := .condition ⟨.equals, ⟨"k", none⟩, .literal (.string k)⟩
    let item : Members := [("id", .int 5), ("_id", .int 9), ("k", .string "c")]
    let patch : Members := [("k", .string "b"), ("_id", .int 9), ("n", .null)]
    let s := Collection.holding documents
    let closed := s.withState { s.state with closed := true }
    let A := Adapter.plain "NOTES"
    (∃ before old after, documents = before ++ old :: after ∧
      A.Overwrites (query "b") item patch s before old after) ∧
      A.Misses (query "z") item patch s ∧ A.Refuses (query "b") item patch closed := by
  intro documents query item patch s closed A
  let filter (k : String) : Json := .single "k" (.single "$eq" (.string k))
  have hf : ∀ k, Native.filter (query k) = .ok (filter k) := fun _ => rfl
  have hidentified : Documents.Identified documents := by
    simp only [documents, Documents.Identified, List.forall_mem_cons]
    exact ⟨⟨_, rfl⟩, ⟨_, rfl⟩, ⟨_, rfl⟩, List.forall_mem_nil _⟩
  have hproper : ∀ d ∈ documents, Document.Proper d := by
    simp only [documents, List.forall_mem_cons, Document.Proper]
    exact ⟨by decide, by decide, by decide, List.forall_mem_nil _⟩
  have hb : ∀ d ∈ documents, ∃ b, Eval.satisfies d (filter "b") = .ok b := by
    simp only [documents, List.forall_mem_cons]
    exact ⟨⟨_, rfl⟩, ⟨_, rfl⟩, ⟨_, rfl⟩, List.forall_mem_nil _⟩
  have hz : ∀ d ∈ documents, Eval.satisfies d (filter "z") = .ok false := by
    simp only [documents, List.forall_mem_cons]
    exact ⟨rfl, rfl, rfl, List.forall_mem_nil _⟩
  have hitem : item.Distinct := by decide
  have hpatch : patch.Distinct := by decide
  have hs : s.state.Ready := Collection.ready_holding _
  have hclosed : ¬ closed.state.Ready := by
    intro h
    cases h.isOpen
  have hmatch : ∃ d ∈ documents, Eval.satisfies d (filter "b") = .ok true :=
    ⟨_, List.mem_cons_of_mem _ List.mem_cons_self, rfl⟩
  obtain ⟨before, old, after, hsplit, -, -, hoverwrites⟩ :=
    ((A.overwritten_exactly (hf "b") hidentified hproper hb hitem hpatch).1 hs).1 hmatch
  exact ⟨⟨before, old, after, hsplit, hoverwrites⟩,
    ((A.overwritten_exactly (hf "z") hidentified hproper (fun d hd => ⟨_, hz d hd⟩) hitem
      hpatch).1 hs).2 hz,
    (A.overwritten_exactly (hf "b") hidentified hproper hb hitem hpatch).2 hclosed⟩

/-- A collection that is closed overwrites nothing, although a document matches. -/
theorem exists_not_overwrites :
    ¬ ∀ (A : Adapter) (query : Expr) (f : Json) (s : Session Collection) (item patch : Members),
      Native.filter query = .ok f → Documents.Identified s.state.documents →
      (∀ d ∈ s.state.documents, Document.Proper d) →
      (∀ d ∈ s.state.documents, ∃ b, Eval.satisfies d f = .ok b) →
      item.Distinct → patch.Distinct →
      (∃ d ∈ s.state.documents, Eval.satisfies d f = .ok true) →
      ∃ before old after, s.state.documents = before ++ old :: after ∧
        (∀ d ∈ before, Eval.satisfies d f = .ok false) ∧ Eval.satisfies old f = .ok true ∧
        A.Overwrites query item patch s before old after := by
  intro hall
  let d : Json := .object [("_id", .int 1), ("k", .string "a")]
  let query : Expr := .condition ⟨.equals, ⟨"k", none⟩, .literal (.string "a")⟩
  let filter : Json := .single "k" (.single "$eq" (.string "a"))
  let item : Members := [("id", .string "x"), ("k", .string "b")]
  let s : Session Collection := Collection.holding [d]
  let closed := s.withState { s.state with closed := true }
  have hdistinct : Members.Distinct [("_id", .int 1), ("k", .string "a")] := by decide
  have hitem : item.Distinct := by decide
  have hmatch : Eval.satisfies d filter = .ok true := rfl
  obtain ⟨before, old, after, -, -, -, hoverwrites⟩ :=
    hall (Adapter.plain "NOTES") query filter closed item [("k", .string "b")] rfl
      (List.forall_mem_singleton.mpr ⟨_, rfl⟩) (List.forall_mem_singleton.mpr hdistinct)
      (List.forall_mem_singleton.mpr ⟨_, hmatch⟩) hitem (List.nodup_singleton "k")
      ⟨d, List.mem_singleton_self d, hmatch⟩
  obtain ⟨new, t, hrun, -⟩ := hoverwrites.replaced false
  have hrefused : ((Adapter.plain "NOTES").replaceOne query (Json.object item) false closed).1 =
      .error (.store "NOTES" filter .closed) := rfl
  cases hrefused.symm.trans (congrArg Prod.fst hrun)

end Adapter
end DocQuery
