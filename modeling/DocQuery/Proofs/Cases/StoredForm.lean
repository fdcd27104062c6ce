import DocQuery.Cases.Model
import DocQuery.Proofs.Decode
import DocQuery.Proofs.Members
import DocQuery.Proofs.Path

/-!
# Cases as they are stored

A stored case has the members of the case and the internal identifier, in any order. Its fields can
be looked up, and the case is read back.
-/
namespace DocQuery

namespace SyncedCase

def memberNames : List String :=
  ["id", "documentType", "caseId", "caseNumber", "caseTitle", "chapter", "courtDivisionCode",
    "dateFiled", "closedDate", "reopenedDate", "keywordsVector"]

theorem mem_optionalMember {key : String} {part : Option String} {m : String × Json} :
    m ∈ optionalMember key part ↔ ∃ s, part = some s ∧ m = (key, .string s) := by
  cases part with
  | none => simp [optionalMember]
  | some s => simp [optionalMember]

theorem keys_optionalMember (key : String) (part : Option String) :
    ((optionalMember key part).map Prod.fst).Sublist [key] := by
  cases part with
  | none => exact List.nil_sublist _
  | some s => exact .refl _

theorem keys_members (c : SyncedCase) : (c.members.map Prod.fst).Sublist memberNames := by
  have hvector : (c.vectorMember.map Prod.fst).Sublist ["keywordsVector"] := by
    unfold vectorMember
    cases c.keywordsVector with
    | none => exact List.nil_sublist _
    | some vector => exact .refl _
  simp only [members, List.map_append]
  exact ((((keys_optionalMember "id" c.id).append (.refl _)).append
    (keys_optionalMember "closedDate" c.closedDate)).append
    (keys_optionalMember "reopenedDate" c.reopenedDate)).append hvector

theorem distinct_members (c : SyncedCase) (id : Json) :
    Members.Distinct ((internalId, id) :: c.members) := by
  have hnames : (internalId :: memberNames).Nodup := by decide
  exact hnames.sublist (c.keys_members.cons_cons internalId)

def Finite (c : SyncedCase) : Prop :=
  ∀ vector, c.keywordsVector = some vector → ∀ x ∈ vector, x.isFinite = true

/-- A document that is a stored form of a case: it has the members of the case and the internal
identifier, in any order. -/
structure StoredAs (d : Json) (c : SyncedCase) : Prop where
  members : ∃ (members : Members) (id : Json),
    d = .object members ∧ members.Perm ((internalId, id) :: c.members)
  finite : c.Finite

/-- A document that has the members of a case and one internal identifier, in any order. -/
def WrittenAs (d id : Json) (c : SyncedCase) : Prop :=
  ∃ members : Members, d = .object members ∧ members.Perm ((internalId, id) :: c.members)

theorem WrittenAs.stored {d id : Json} {c : SyncedCase} (h : WrittenAs d id c)
    (hfinite : c.Finite) : StoredAs d c := by
  obtain ⟨members, hd, hperm⟩ := h
  exact ⟨⟨members, id, hd, hperm⟩, hfinite⟩

theorem StoredAs.written {d : Json} {c : SyncedCase} (h : StoredAs d c) :
    ∃ id, WrittenAs d id c := by
  obtain ⟨members, id, hd, hperm⟩ := h.members
  exact ⟨id, members, hd, hperm⟩

variable {d : Json} {c : SyncedCase}

theorem mem_members {key : String} {value : Json} :
    (key, value) ∈ c.members ↔
      (key, value) ∈ optionalMember "id" c.id ∨ (key, value) ∈ c.texts ∨
      (key, value) ∈ optionalMember "closedDate" c.closedDate ∨
      (key, value) ∈ optionalMember "reopenedDate" c.reopenedDate ∨
      key = "keywordsVector" ∧
        ∃ vector, c.keywordsVector = some vector ∧ value = Component.vectorToJson vector := by
  simp only [members, vectorMember, List.mem_append, or_assoc]
  cases c.keywordsVector <;> simp

theorem mem_of_mem_texts {m : String × Json} (h : m ∈ c.texts) : m ∈ c.members :=
  mem_members.mpr (.inr (.inl h))

theorem lookup_members {key : String} {value : Json} (h : (key, value) ∈ c.members) :
    c.members.lookup key = some value :=
  (Members.lookup_eq_some_iff (List.nodup_cons.mp (c.distinct_members .null)).2).mpr h

theorem WrittenAs.get? {id : Json} (h : WrittenAs d id c) {key : String} (hkey : key ≠ internalId) :
    d.get? key = c.members.lookup key := by
  obtain ⟨ms, rfl, hperm⟩ := h
  have hdistinct := (c.distinct_members id).perm hperm.symm
  have hbeq : (key == internalId) = false := beq_eq_false_iff_ne.mpr hkey
  rw [Json.get?, Members.lookup_perm hdistinct hperm key, List.lookup_cons, hbeq]

theorem WrittenAs.get?_documentType {id : Json} (h : WrittenAs d id c) :
    d.get? "documentType" = some (.string c.documentType) :=
  (h.get? (by decide)).trans (lookup_members (mem_of_mem_texts (by simp [texts])))

theorem WrittenAs.get?_caseId {id : Json} (h : WrittenAs d id c) :
    d.get? "caseId" = some (.string c.caseId) :=
  (h.get? (by decide)).trans (lookup_members (mem_of_mem_texts (by simp [texts])))

theorem WrittenAs.get?_internalId {id : Json} (h : WrittenAs d id c) :
    d.get? internalId = some id := by
  obtain ⟨ms, rfl, hperm⟩ := h
  have hdistinct := (c.distinct_members id).perm hperm.symm
  rw [Json.get?, Members.lookup_perm hdistinct hperm internalId, List.lookup_cons_self]

theorem lookup_part {α : Type} {key : String} {part : Option α} {write : α → Json}
    (h : ∀ value, (key, value) ∈ c.members ↔ ∃ x, part = some x ∧ value = write x) :
    c.members.lookup key = part.map write := by
  cases part with
  | none =>
    refine Members.lookup_eq_none_iff.mpr fun hkey => ?_
    obtain ⟨m, hm, rfl⟩ := List.mem_map.mp hkey
    obtain ⟨x, hx, -⟩ := (h m.2).mp hm
    cases hx
  | some x => exact lookup_members ((h (write x)).mpr ⟨x, rfl, rfl⟩)

theorem lookup_id (c : SyncedCase) : c.members.lookup "id" = c.id.map .string :=
  lookup_part fun value => by simp [mem_members, mem_optionalMember, texts]

theorem lookup_closedDate (c : SyncedCase) :
    c.members.lookup "closedDate" = c.closedDate.map .string :=
  lookup_part fun value => by simp [mem_members, mem_optionalMember, texts]

theorem lookup_reopenedDate (c : SyncedCase) :
    c.members.lookup "reopenedDate" = c.reopenedDate.map .string :=
  lookup_part fun value => by simp [mem_members, mem_optionalMember, texts]

theorem lookup_keywordsVector (c : SyncedCase) :
    c.members.lookup "keywordsVector" = c.keywordsVector.map Component.vectorToJson :=
  lookup_part fun value => by simp [mem_members, mem_optionalMember, texts]

theorem ofRecord_members {r : Record} (hfinite : c.Finite)
    (h : ∀ key, r.members.lookup key = c.members.lookup key) : ofRecord r = .ok c := by
  have htext : ∀ key s, (key, Json.string s) ∈ c.texts →
      r.required key Decode.string = .ok s := fun key s hm =>
    Record.required_eq_ok ((h key).trans (lookup_members (mem_of_mem_texts hm))) rfl
  have hdefault : ∀ key s fallback, (key, Json.string s) ∈ c.texts →
      r.withDefault key fallback Decode.string = .ok s := fun key s fallback hm =>
    Record.withDefault_eq_ok ((h key).trans (lookup_members (mem_of_mem_texts hm))) rfl
  have hoptional : ∀ key part, c.members.lookup key = part.map Json.string →
      r.optional key Decode.string = .ok part := fun key part hkey =>
    Record.optional_eq_ok ((h key).trans hkey) (fun _ _ => by simp) fun _ _ => rfl
  have hvector : r.optional "keywordsVector" vector = .ok c.keywordsVector := by
    refine Record.optional_eq_ok ((h _).trans c.lookup_keywordsVector) ?_ ?_
    · intro v hv
      simp [Component.vectorToJson]
    · intro v hv
      exact list_component_vectorToJson (hfinite v hv)
  simp only [ofRecord, text, hvector, hoptional _ _ c.lookup_id,
    hoptional _ _ c.lookup_closedDate, hoptional _ _ c.lookup_reopenedDate,
    hdefault "documentType" c.documentType _ (by simp [texts]),
    hdefault "caseTitle" c.caseTitle _ (by simp [texts]),
    htext "caseId" c.caseId (by simp [texts]),
    htext "caseNumber" c.caseNumber (by simp [texts]),
    htext "chapter" c.chapter (by simp [texts]),
    htext "courtDivisionCode" c.courtDivisionCode (by simp [texts]),
    htext "dateFiled" c.dateFiled (by simp [texts])]
  rfl

/-- The members of a case in any order are read back. -/
theorem decode_perm {ms : Members} (hfinite : c.Finite) (hperm : ms.Perm c.members) :
    decode (.object ms) = .ok c := by
  have hdistinct := (List.nodup_cons.mp (c.distinct_members .null)).2
  refine Record.decode_object ?_ ?_ ?_
  · intro m hm
    have hname := (hperm.map Prod.fst).subset (List.mem_map_of_mem hm)
    exact c.keys_members.subset hname
  · rintro ⟨key, value⟩ hm check hcheck
    rcases mem_members.mp (hperm.subset hm) with h | h | h | h | ⟨rfl, vector, hvector, rfl⟩
    · obtain ⟨s, -, ⟨⟩⟩ := mem_optionalMember.mp h
      cases hcheck
      rfl
    · simp only [texts, List.mem_cons, List.not_mem_nil, or_false] at h
      rcases h with h | h | h | h | h | h | h <;> (cases h; cases hcheck; rfl)
    · obtain ⟨s, -, ⟨⟩⟩ := mem_optionalMember.mp h
      cases hcheck
      rfl
    · obtain ⟨s, -, ⟨⟩⟩ := mem_optionalMember.mp h
      cases hcheck
      rfl
    · have hread := list_component_vectorToJson (hfinite vector hvector)
      cases hcheck
      have hoptional : Decode.optional SyncedCase.vector (Component.vectorToJson vector) =
          .ok (some vector) := congrArg (Except.map some) hread
      rw [Record.check, hoptional]
      rfl
  · exact ofRecord_members hfinite fun key => (Members.lookup_perm hdistinct hperm.symm key).symm

/-- The type of a case that was decoded is that of its document, if that has one. -/
theorem lookup_documentType_of_decode {ms : Members} (h : decode (.object ms) = .ok c) {v : Json}
    (hv : ms.lookup "documentType" = some v) : v = .string c.documentType := by
  have hbuild := Record.build_of_decode h
  obtain ⟨_, -, hbuild⟩ := Outcome.exists_of_bind_eq_ok hbuild
  obtain ⟨type, htype, hbuild⟩ := Outcome.exists_of_bind_eq_ok hbuild
  have hc : c.documentType = type := by
    repeat obtain ⟨_, -, hbuild⟩ := Outcome.exists_of_bind_eq_ok hbuild
    cases hbuild
    rfl
  rw [Record.withDefault, Members.lookup_filter_keys (by decide), hv] at htype
  rw [hc]
  exact Decode.eq_string_of_ok htype

theorem StoredAs.read (h : StoredAs d c) : Document.read d = .ok c := by
  obtain ⟨⟨ms, id, rfl, hperm⟩, hfinite⟩ := h
  have hrest := Members.swapRemove_perm (c.distinct_members id) hperm
  have hdecode := decode_perm hfinite hrest
  exact congrArg (Except.mapError QueryError.undecodable) hdecode

/-- What stands at a path of one key in a stored case. -/
theorem StoredAs.resolve (h : StoredAs d c) {key : String} (hkeys : Path.keys key = [key])
    (hkey : key ≠ internalId) : d.resolve key = c.members.lookup key := by
  obtain ⟨id, hwritten⟩ := h.written
  rw [Json.resolve_key hkeys, hwritten.get? hkey]

end SyncedCase
end DocQuery
