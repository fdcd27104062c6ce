import DocQuery.Proofs.Adapter.Identity
import DocQuery.Regex.Engine

/-!
# No two documents under one identifier

An identifier that was drawn is told from every other if it is new, since documents that equal one
are one. The items that are inserted lose their own identifiers, with one exception: a replacement
that finds nothing to replace inserts its item under the identifier that the item brings along.
-/
namespace DocQuery

theorem ObjectId.eq_toWire_of_same {v : Json} {id : ObjectId} (h : v.same id.toWire = true) :
    v = id.toWire := by
  cases v with
  | object members =>
    simp only [toWire, Json.single, Json.same, Bool.and_eq_true, beq_iff_eq] at h ⊢
    obtain ⟨hlength, hmembers⟩ := h
    obtain ⟨⟨key, w⟩, rfl⟩ := List.length_eq_one_iff.mp hlength
    by_cases hkey : key = wireKey
    · subst hkey
      cases w with
      | string text => simpa [Json.sameMembers, Json.same] using hmembers
      | _ => simp [Json.sameMembers, Json.same] at hmembers
    · have hbeq : (key == wireKey) = false := beq_eq_false_iff_ne.mpr hkey
      simp [Json.sameMembers, List.lookup_cons, hbeq] at hmembers
  | _ => simp [toWire, Json.single, Json.same] at h

namespace Session

variable {σ : Type} {s t : Session σ}

theorem eq_of_mem_newIds {id : Json} (h : id ∈ s.newIds t) {other : Option Json}
    (hsame : (other == some id) = true) : other = some id := by
  obtain ⟨i, -, rfl⟩ := List.mem_map.mp h
  cases other with
  | none => cases hsame
  | some v => exact congrArg some (ObjectId.eq_toWire_of_same hsame)

end Session

namespace Documents

/-- No two documents have one identifier. -/
def IdsDiffer (documents : List Json) : Prop :=
  (ids documents).Pairwise fun a b => (a == b) = false

theorem IdsDiffer.sublist {documents documents' : List Json} (h : IdsDiffer documents)
    (hsub : (ids documents').Sublist (ids documents)) : IdsDiffer documents' :=
  List.Pairwise.sublist hsub h

theorem idsDiffer_own_iff {documents documents' : List Json} {own : Json} (h : IdsDiffer documents)
    (hids : ids documents' = ids documents ++ [some own]) :
    IdsDiffer documents' ↔ ∀ id ∈ ids documents, (id == some own) = false := by
  rw [IdsDiffer, hids, List.pairwise_append]
  refine ⟨fun hall id hid => hall.2.2 id hid _ (List.mem_singleton_self _), fun hown => ?_⟩
  exact ⟨h, List.pairwise_singleton _ _, fun id hid other hother => by
    rw [List.mem_singleton.mp hother]
    exact hown id hid⟩

end Documents

namespace Collection
open Documents (ids IdsDiffer)

variable {s t : Session Collection}

/-- The identifiers drawn between two states differ, and no document had one of them before. -/
structure Fresh (s t : Session Collection) : Prop where
  nodup : (s.newIds t).Nodup
  unused : ∀ id ∈ s.newIds t, some id ∉ ids s.state.documents

theorem Fresh.of_digits (digits : Json → Option String)
    (hnodup : ((s.newIds t).map digits).Nodup)
    (hunused : ∀ id ∈ s.newIds t, digits id ∉ (ids s.state.documents).map (·.bind digits)) :
    Fresh s t where
  nodup := hnodup.of_map digits
  unused id hid hmem := hunused id hid (List.mem_map.mpr ⟨some id, hmem, rfl⟩)

theorem Adds.idsDiffer {n : Nat} (h : Adds n s t) (hfresh : Fresh s t)
    (hs : IdsDiffer s.state.documents) : IdsDiffer t.state.documents := by
  obtain ⟨new, hnew, -, hids⟩ := h
  have hdrawn : ∀ id ∈ new, id ∈ s.newIds t := fun id hid => hnew.mem hid
  rw [IdsDiffer, hids]
  refine List.pairwise_append.mpr ⟨hs, List.pairwise_map.mpr ?_, fun old hold some' hsome => ?_⟩
  · refine (hfresh.nodup.sublist hnew).imp_of_mem fun {a b} _ hb hne => ?_
    refine Bool.eq_false_iff.mpr fun hsame => hne ?_
    exact Option.some.inj (Session.eq_of_mem_newIds (hdrawn b hb) hsame)
  · obtain ⟨id, hid, rfl⟩ := List.mem_map.mp hsome
    refine Bool.eq_false_iff.mpr fun hsame => hfresh.unused id (hdrawn id hid) ?_
    rwa [← Session.eq_of_mem_newIds (hdrawn id hid) hsame]

end Collection

namespace Request
open Documents (ids IdsDiffer Identified)
open Collection (Fresh)

variable {α : Type} [Document α] {s : Session Collection}

section

variable [PatternEngine]

def suppliedId (r : Request α) (s : Session Collection) : Option Json :=
  r.call.suppliedId s (r.result s)

/-- A request leaves no two documents under one identifier just if none was under the identifier
that an inserted item brought along. -/
theorem Effect.idsDiffer_iff {r : Request α} (h : r.Effect s) (hfresh : Fresh s (r.after s))
    (hs : IdsDiffer s.state.documents) :
    IdsDiffer (r.after s).state.documents ↔ ∀ own, r.suppliedId s = some own →
      ∀ id ∈ ids s.state.documents, (id == some own) = false := by
  have hcases := AdapterCall.Effect.cases h
  change (∃ own, r.suppliedId s = some own ∧ _) ∨ r.suppliedId s = none ∧ _ at hcases
  rcases hcases with ⟨own, hown, hids⟩ | ⟨hnone, heffect⟩
  · rw [Documents.idsDiffer_own_iff hs hids, hown]
    simp
  · refine iff_of_true ?_ (fun own hown => by cases hnone.symm.trans hown)
    rcases heffect with hsub | ⟨n, hadds⟩
    · exact hs.sublist hsub
    · exact hadds.idsDiffer hfresh hs

theorem Effect.mem_ids {r : Request α} (h : r.Effect s) {id : Option Json}
    (hid : id ∈ ids (r.after s).state.documents) :
    id ∈ ids s.state.documents ∨ id ∈ (s.newIds (r.after s)).map some ∨
      ∃ own, r.suppliedId s = some own ∧ id = some own := by
  rcases AdapterCall.Effect.cases h with ⟨own, hown, hids⟩ | ⟨-, hsub | ⟨n, new, hnew, -, hids⟩⟩
  · rw [hids, List.mem_append, List.mem_singleton] at hid
    exact hid.imp_right fun heq => .inr ⟨own, hown, heq⟩
  · exact .inl (hsub.mem hid)
  · rw [hids, List.mem_append] at hid
    exact hid.imp_right fun hmem => .inl ((hnew.map some).mem hmem)

theorem idsDiffer_after_iff {requests : List (Request α)}
    (hproper : ∀ r ∈ requests, r.call.Proper) (hidentified : Identified s.state.documents)
    (hs : IdsDiffer s.state.documents)
    (hfresh : ∀ step ∈ steps requests s, Fresh step.1 (step.2.after step.1)) :
    (∀ step ∈ steps requests s, IdsDiffer (step.2.after step.1).state.documents) ↔
      ∀ step ∈ steps requests s, ∀ own, step.2.suppliedId step.1 = some own →
        ∀ id ∈ ids step.1.state.documents, (id == some own) = false := by
  induction requests generalizing s with
  | nil => exact iff_of_true (List.forall_mem_nil _) (List.forall_mem_nil _)
  | cons r rest ih =>
    obtain ⟨hfirst, hrest⟩ := List.forall_mem_cons.mp hproper
    obtain ⟨hnew, hnews⟩ := List.forall_mem_cons.mp hfresh
    obtain ⟨heffect, hkept⟩ := effect_and_identified hfirst hidentified
    rw [steps, List.forall_mem_cons, List.forall_mem_cons, ← heffect.idsDiffer_iff hnew hs]
    -- Once two documents share an identifier both sides fail, whatever the rest of the run does.
    exact and_congr_right fun hdiffer => ih hrest hkept hdiffer hnews

/-- When the identifiers drawn are new, no two documents come under one identifier during a run just
if no replacement inserts an item under an identifier of its own that a document has. The documents
that a request adds come under identifiers drawn for them, but for such an item. -/
theorem idsDiffer_steps_iff {requests : List (Request α)} (hproper : ∀ r ∈ requests, r.call.Proper)
    (hidentified : Identified s.state.documents) (hs : IdsDiffer s.state.documents)
    (hfresh : ∀ step ∈ steps requests s, Fresh step.1 (step.2.after step.1)) :
    ((∀ step ∈ steps requests s, IdsDiffer (step.2.after step.1).state.documents) ↔
      ∀ step ∈ steps requests s, ∀ own, step.2.suppliedId step.1 = some own →
        ∀ id ∈ ids step.1.state.documents, (id == some own) = false) ∧
    ∀ step ∈ steps requests s, ∀ id ∈ ids (step.2.after step.1).state.documents,
      id ∈ ids step.1.state.documents ∨
        id ∈ (step.1.newIds (step.2.after step.1)).map some ∨
        ∃ own, step.2.suppliedId step.1 = some own ∧ id = some own := by
  refine ⟨idsDiffer_after_iff hproper hidentified hs hfresh, fun step hstep id hid => ?_⟩
  obtain ⟨hcall, hbefore⟩ := identified_steps hproper hidentified step hstep
  exact (effect_and_identified hcall hbefore).1.mem_ids hid

end

/-- Items with one identifier of their own, inserted and then replacing one of them, and one that a
replacement inserts under the identifier that it brings along. -/
theorem idsDiffer_steps_iff_brought :
    let query (n : Int) : Expr := .condition ⟨.equals, ⟨"n", none⟩, .literal (.int n)⟩
    let item (id n : Int) : Json := .object [("_id", .int id), ("n", .int n)]
    let A := Adapter.plain "NOTES"
    let requests : List (Request Json) :=
      [⟨A, .insertMany [item 5 1, item 5 2]⟩, ⟨A, .replaceOne (query 1) (item 5 3) true⟩,
        ⟨A, .replaceOne (query 4) (item 5 4) true⟩]
    let s := Collection.holding [item 1 0]
    ((∀ r ∈ requests, r.call.Proper) ∧ Identified s.state.documents ∧
        IdsDiffer s.state.documents ∧
        ∀ step ∈ steps requests s, Fresh step.1 (step.2.after step.1)) ∧
      (∀ step ∈ steps requests s, IdsDiffer (step.2.after step.1).state.documents) ∧
      (ids (requests.foldl (fun s r => r.after s) s).state.documents ==
        [some (.int 1), some (ObjectId.ofNat 2).toWire, some (ObjectId.ofNat 3).toWire,
          some (.int 5)]) = true := by
  intro query item A requests s
  have hitem : ∀ id n, Document.Proper (item id n) := by
    intro id n
    change List.Nodup ["_id", "n"]
    decide
  have hproper : ∀ r ∈ requests, r.call.Proper := by
    simp only [requests, List.forall_mem_cons, List.not_mem_nil, false_imp_iff, implies_true,
      and_true]
    refine ⟨fun item hitem' => ?_, trivial, trivial⟩
    rcases List.mem_pair.mp hitem' with rfl | rfl <;> exact hitem 5 _
  have hidentified : Identified s.state.documents :=
    List.forall_mem_singleton.mpr ⟨.int 1, rfl⟩
  have hs : IdsDiffer s.state.documents := List.pairwise_singleton _ _
  have hfresh : ∀ step ∈ steps requests s, Fresh step.1 (step.2.after step.1) := by
    let digits (id : Json) : Option String := (id.get? ObjectId.wireKey).bind Json.asString?
    simp only [requests, steps, List.forall_mem_cons, List.not_mem_nil, false_imp_iff, implies_true,
      and_true]
    refine ⟨.of_digits digits ?_ ?_, .of_digits digits ?_ ?_, .of_digits digits ?_ ?_⟩ <;>
      decide +kernel
  have hunused : ∀ step ∈ steps requests s, (step.2.suppliedId step.1).all (fun own =>
      (ids step.1.state.documents).all fun id => !(id == some own)) = true :=
    List.all_eq_true.mp (by decide +kernel)
  refine ⟨⟨hproper, hidentified, hs, hfresh⟩, ?_, by decide +kernel⟩
  refine (idsDiffer_steps_iff hproper hidentified hs hfresh).1.mpr fun step hstep own hown => ?_
  have hall := hunused step hstep
  rw [hown] at hall
  simpa using hall

/-- Two documents can come under one identifier, which both of them brought along. -/
theorem exists_ids_agree :
    ¬ ∀ (requests : List (Request Json)) (s : Session Collection),
      (∀ r ∈ requests, r.call.Proper) → Identified s.state.documents →
      IdsDiffer s.state.documents →
      (∀ step ∈ steps requests s, Fresh step.1 (step.2.after step.1)) →
      ∀ step ∈ steps requests s, IdsDiffer (step.2.after step.1).state.documents ∧
        ∀ id ∈ ids (step.2.after step.1).state.documents,
          id ∈ ids step.1.state.documents ∨
            id ∈ (step.1.newIds (step.2.after step.1)).map some := by
  intro h
  let query (id : String) : Expr := .condition ⟨.equals, ⟨"caseId", none⟩, .literal (.string id)⟩
  let item (id : String) : Json := .object [("_id", .int 7), ("caseId", .string id)]
  let A := Adapter.plain "CASES"
  let requests : List (Request Json) :=
    [⟨A, .replaceOne (query "c-1") (item "c-1") true⟩,
      ⟨A, .replaceOne (query "c-2") (item "c-2") true⟩]
  let s := Collection.holding []
  have hproper : ∀ r ∈ requests, r.call.Proper := by
    simp only [requests, List.forall_mem_cons, List.not_mem_nil, false_imp_iff, implies_true,
      and_true]
    exact ⟨trivial, trivial⟩
  have hfresh : ∀ step ∈ steps requests s, Fresh step.1 (step.2.after step.1) := by
    let digits (id : Json) : Option String := (id.get? ObjectId.wireKey).bind Json.asString?
    simp only [requests, steps, List.forall_mem_cons, List.not_mem_nil, false_imp_iff, implies_true,
      and_true]
    refine ⟨.of_digits digits ?_ ?_, .of_digits digits ?_ ?_⟩ <;> decide +kernel
  have hsteps := h requests s hproper (List.forall_mem_nil _) .nil hfresh
  have hdiffer := (hsteps _ (List.mem_cons_of_mem _ List.mem_cons_self)).1
  revert hdiffer
  rw [IdsDiffer]
  decide +kernel

end Request
end DocQuery
