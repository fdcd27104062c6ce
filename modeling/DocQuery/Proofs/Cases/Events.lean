import DocQuery.Proofs.Cases.Runs
import DocQuery.Proofs.Regex.Literal

/-!
# Reading events back

Recording an event adds it to the events of its kind and case and to no others. It is read back as
it was recorded, apart from details that name an identifier, which are not stored.
-/
namespace DocQuery

namespace EventKind

theorem head?_of_includes {kind : EventKind} {type : String} (h : kind.includes type = true) :
    type.toList.head? = kind.typeStart.toList.head? := by
  obtain ⟨rest, hrest⟩ := List.isPrefixOf_iff_prefix.mp h
  rw [← hrest]
  cases kind <;> rfl

theorem eq_of_includes {kind other : EventKind} {type : String} (h : kind.includes type = true)
    (h' : other.includes type = true) : other = kind := by
  have hhead := (head?_of_includes h').symm.trans (head?_of_includes h)
  cases kind <;> cases other <;> first | rfl | exact absurd hhead (by decide)

theorem matchesPattern_pattern [PatternEngine] [LawfulPatternEngine] (kind : EventKind)
    (type : String) : Eval.matchesPattern kind.pattern type = .ok (kind.includes type) := by
  have hplain : PatternEngine.Plain kind.typeStart.toList := by cases kind <;> decide
  have hlength : kind.typeStart.length ≤ 1024 := by cases kind <;> decide
  exact Eval.matchesPattern_start hplain (LawfulPatternEngine.accepts_start hplain hlength) type

end EventKind

namespace Documents

variable {filter d : Json} {documents : List Json} {b : Bool}

theorem select_append [PatternEngine] (h : Eval.satisfies d filter = .ok b) :
    select filter (documents ++ [d]) =
      (select filter documents).map (· ++ if b then [d] else []) := by
  have happend : marked filter (documents ++ [d]) =
      (marked filter documents).map (· ++ [(d, b)]) := by
    rw [marked, Outcome.mapM_concat, h]
    rfl
  rw [select, select, happend]
  cases marked filter documents with
  | error fault => rfl
  | ok marks =>
    refine congrArg Except.ok ?_
    cases b <;> simp [chosen]

end Documents

namespace CasesRepository
open Search

theorem sound_eventsOf (kind : EventKind) (caseId : String) : Sound (eventsOf kind caseId) := by
  refine sound_conjunction ?_
  simp only [List.forall_mem_cons, List.not_mem_nil, false_imp_iff, implies_true, and_true]
  exact ⟨sound_literal .documentType rfl, sound_literal .caseId rfl⟩

theorem satisfies_eventsOf [PatternEngine] [LawfulPatternEngine] {kind : EventKind}
    {caseId : String} {f : Json} (hf : Native.filter (eventsOf kind caseId) = .ok f)
    {d : Json} {type id : String}
    (htype : d.get? "documentType" = some (.string type))
    (hid : d.get? "caseId" = some (.string id)) :
    Eval.satisfies d f = .ok (kind.includes type && id == caseId) := by
  have hkind : ((caseField .documentType).regex (text kind.pattern)).holds d =
      .ok (kind.includes type) :=
    (holds_member .documentType htype .regex _).trans (kind.matchesPattern_pattern type)
  have hcase : ((caseField .caseId).equals (text caseId)).holds d = .ok (id == caseId) := by
    rw [← equalTo_string]
    exact holds_member .caseId hid .equals _
  rw [(sound_eventsOf kind caseId).satisfies_eq hf]
  exact allHold_append (allHold_singleton hkind) (allHold_singleton hcase)

end CasesRepository

namespace CaseEvent

/-- The details have no entry with the name of the type or of the case. -/
def Apart (e : CaseEvent) : Prop := ∀ key ∈ ["documentType", "caseId"], e.details.lookup key = none

def identifiers : List String := [publicId, internalId]

/-- An event as it is read back: its details are those of the other, in some order, without the ones
that name an identifier. -/
structure ReadAs (e last : CaseEvent) : Prop where
  id : last.id = e.id
  documentType : last.documentType = e.documentType
  caseId : last.caseId = e.caseId
  details : last.details.Perm (e.details.filter fun m => !identifiers.contains m.1)

def names : List String := [publicId, "documentType", "caseId"]

structure HeldBy (e : CaseEvent) (id : String) (members : Members) : Prop where
  distinct : members.Distinct
  id : members.lookup publicId = some (.string id)
  documentType : members.lookup "documentType" = some (.string e.documentType)
  caseId : members.lookup "caseId" = some (.string e.caseId)
  details : ∀ key ∉ internalId :: names, members.lookup key = e.details.lookup key

variable {e : CaseEvent} {id : String} {members : Members}

theorem get?_toJson_detail (h : e.details.Distinct) {key : String} (hkey : key ∉ names) :
    e.toJson.get? key = e.details.lookup key := by
  have hnone : (optionalMember "id" e.id ++ [("documentType", Json.string e.documentType),
      ("caseId", .string e.caseId)]).lookup key = none := by
    refine Members.lookup_eq_none_iff.mpr fun hmem => hkey ?_
    cases hevent : e.id <;> simp_all [optionalMember, names, publicId]
  refine (Members.lookup_setAll e.details _ key).trans ?_
  rw [hnone, Option.or_none, ← Members.lookup_perm h (List.reverse_perm e.details).symm key]

theorem heldBy_of_get? (hdetails : e.details.Distinct) (hapart : e.Apart)
    (hmembers : members.Distinct) (hid : members.lookup publicId = some (.string id))
    (hkeys : ∀ key, key ≠ publicId → key ≠ internalId →
      members.lookup key = e.toJson.get? key) : e.HeldBy id members := by
  obtain ⟨htype, hcase⟩ :=
    get?_toJson fun key hkey => Members.lookup_eq_none_iff.mp (hapart key hkey)
  refine ⟨hmembers, hid, (hkeys _ (by decide) (by decide)).trans htype,
    (hkeys _ (by decide) (by decide)).trans hcase, fun key hkey => ?_⟩
  have hinternal : key ≠ internalId := List.ne_of_not_mem_cons hkey
  have hname : key ∉ names := List.not_mem_of_not_mem_cons hkey
  have hpublic : key ≠ publicId := List.ne_of_not_mem_cons hname
  exact (hkeys key hpublic hinternal).trans (get?_toJson_detail hdetails hname)

theorem decode_of_lookup {rest : Members} {type case : String} (hrest : rest.Distinct)
    (hid : rest.lookup publicId = some (.string id))
    (htype : rest.lookup "documentType" = some (.string type))
    (hcase : rest.lookup "caseId" = some (.string case)) :
    decode (.object rest) =
      .ok ⟨some id, type, case, rest.filter fun m => !names.contains m.1⟩ := by
  refine Record.decode_known (fun m hm check hcheck => ?_) ?_
  · obtain ⟨key, value⟩ := m
    have hlookup := (Members.lookup_eq_some_iff hrest).mpr hm
    have hmem : (key, check) ∈ [(publicId, Record.check (Decode.optional Decode.string)),
        ("documentType", Record.check Decode.string), ("caseId", Record.check Decode.string)] :=
      Members.mem_of_lookup hcheck
    simp only [List.mem_cons, List.not_mem_nil, or_false, Prod.mk.injEq] at hmem
    rcases hmem with ⟨rfl, rfl⟩ | ⟨rfl, rfl⟩ | ⟨rfl, rfl⟩
    · cases hlookup.symm.trans hid
      rfl
    · cases hlookup.symm.trans htype
      rfl
    · cases hlookup.symm.trans hcase
      rfl
  · let r : Record := ⟨"struct CaseEvent", names, rest.filter fun m => names.contains m.1, false, 0⟩
    have hknown : ∀ key, names.contains key = true → r.members.lookup key = rest.lookup key :=
      fun key hkey => Members.lookup_filter_keys hkey rest
    have hid' : r.optional publicId Decode.string = .ok (some id) :=
      Record.optional_eq_ok ((hknown _ (by decide)).trans hid) (fun _ _ => by simp) fun _ _ => rfl
    have htype' : r.required "documentType" Decode.string = .ok type :=
      Record.required_eq_ok ((hknown _ (by decide)).trans htype) rfl
    have hcase' : r.required "caseId" Decode.string = .ok case :=
      Record.required_eq_ok ((hknown _ (by decide)).trans hcase) rfl
    change (do
      return ⟨← r.optional publicId Decode.string, ← r.required "documentType" Decode.string,
        ← r.required "caseId" Decode.string, _⟩ : Decoded CaseEvent) = _
    rw [hid', htype', hcase']
    rfl

theorem HeldBy.details_perm (h : e.HeldBy id members) (hdetails : e.details.Distinct)
    (hapart : e.Apart) :
    ((Members.swapRemove internalId members).filter fun m => !names.contains m.1).Perm
      (e.details.filter fun m => !identifiers.contains m.1) := by
  have hrest := h.distinct.swapRemove internalId
  refine Members.perm_of_lookup_eq (hrest.filter _) (hdetails.filter _) fun key => ?_
  rw [Members.lookup_filter (fun key => !names.contains key),
    Members.lookup_filter (fun key => !identifiers.contains key)]
  by_cases hinternal : key = internalId
  · subst hinternal
    rw [Members.lookup_swapRemove_self h.distinct]
    rfl
  · rw [Members.lookup_swapRemove_of_ne h.distinct hinternal]
    by_cases hname : key ∈ names
    · rw [List.contains_iff_mem.mpr hname]
      rcases List.mem_cons.mp hname with rfl | hrest
      · rfl
      · rw [hapart key hrest, ite_self]
        rfl
    · have hpublic : key ≠ publicId := List.ne_of_not_mem_cons hname
      have hkey : key ∉ internalId :: names := List.not_mem_cons_of_ne_of_not_mem hinternal hname
      have hnames : names.contains key = false := by simpa using hname
      have hidentifiers : identifiers.contains key = false := by
        simp [identifiers, hpublic, hinternal]
      rw [h.details key hkey, hnames, hidentifiers]

/-- What holds an event is read back as the event. -/
theorem HeldBy.read (h : e.HeldBy id members) (hdetails : e.details.Distinct) (hapart : e.Apart) :
    ∃ last, Document.read (.object members) = .ok last ∧ ReadAs { e with id := some id } last := by
  have hkept : ∀ key, key ≠ internalId →
      (Members.swapRemove internalId members).lookup key = members.lookup key := fun key hkey =>
    Members.lookup_swapRemove_of_ne h.distinct hkey
  have hdecode := decode_of_lookup (h.distinct.swapRemove internalId)
    ((hkept _ (by decide)).trans h.id) ((hkept _ (by decide)).trans h.documentType)
    ((hkept _ (by decide)).trans h.caseId)
  exact ⟨_, congrArg (Except.mapError QueryError.undecodable) hdecode, rfl, rfl, rfl,
    h.details_perm hdetails hapart⟩

end CaseEvent

namespace CasesRepository

variable {R : CasesRepository} {s t : Session Services} {kind : EventKind} {e e' : CaseEvent}

section

variable [PatternEngine]

theorem find_fst {α : Type} [Document α] (hs : (R.cases s).Ready) {e : Expr} {f : Json}
    (hf : Native.filter e = .ok f) :
    (R.onCases (fun A => A.find e none) s : Except QueryError (List α) × _).1 =
      ((Documents.select f (R.documents s)).mapError (R.adapter.rejected f)).bind
        (·.mapM Document.read) := by
  have hfind := R.adapter.find_unsorted (α := α) (s := s.withState (R.cases s)) hs hf
  exact (R.onCases_fst (fun A => A.find e none) s).trans (congrArg Prod.fst hfind)

theorem getEvents_fst (hs : (R.cases s).Ready) {caseId : String} {f : Json}
    (hf : Native.filter (eventsOf kind caseId) = .ok f) :
    (R.getEvents kind caseId s).1 =
      ((Documents.select f (R.documents s)).mapError (R.adapter.rejected f)).bind
        (·.mapM Document.read) :=
  find_fst hs hf

variable [LawfulPatternEngine]

/-- After an event was added, a query reads what it read before and the event, if it asks for it. -/
theorem getEvents_added {id : String} {members : Members} (hs : (R.cases s).Ready)
    (ht : (R.cases t).Ready) (hdocuments : R.documents t = R.documents s ++ [.object members])
    (hheld : e.HeldBy id members) (other : EventKind) (caseId : String) :
    (R.getEvents other caseId t).1 = (R.getEvents other caseId s).1.bind fun before =>
      if other.includes e.documentType && e.caseId == caseId then
        (Document.read (.object members)).map (before ++ [·])
      else .ok before := by
  obtain ⟨f, hf⟩ := (sound_eventsOf other caseId).exists_filter
  have hasked := satisfies_eventsOf hf (d := .object members) hheld.documentType hheld.caseId
  rw [getEvents_fst ht hf, getEvents_fst hs hf, hdocuments, Documents.select_append hasked]
  cases Documents.select f (R.documents s) with
  | error fault => rfl
  | ok chosen =>
    cases other.includes e.documentType && e.caseId == caseId with
    | false =>
      change (chosen ++ []).mapM Document.read = (chosen.mapM Document.read).bind Except.ok
      rw [List.append_nil]
      exact (bind_pure _).symm
    | true => exact Outcome.mapM_concat Document.read chosen (.object members)

/-- An event that was recorded is read after the events of its kind and case that were read before,
and other events are read as before. -/
theorem createEvent_reads (hdetails : e.details.Distinct) (hapart : e.Apart)
    (h : R.createEvent kind e s = (.ok e', t)) :
    (∀ before, (R.getEvents kind e.caseId s).1 = .ok before →
      ∃ last, (R.getEvents kind e.caseId t).1 = .ok (before ++ [last]) ∧ e'.ReadAs last) ∧
    ∀ other caseId, other ≠ kind ∨ caseId ≠ e.caseId →
      (R.getEvents other caseId t).1 = (R.getEvents other caseId s).1 := by
  obtain ⟨hkind, hs, ht, id, members, rfl, hdocuments, hmembers, -, hid, hkeys⟩ :=
    createEvent_ok h
  have hheld := CaseEvent.heldBy_of_get? hdetails hapart hmembers hid hkeys
  have hadded := getEvents_added hs ht hdocuments hheld
  refine ⟨fun before hbefore => ?_, fun other caseId hother => ?_⟩
  · obtain ⟨last, hread, hlast⟩ := hheld.read hdetails hapart
    refine ⟨last, ?_, hlast⟩
    rw [hadded kind e.caseId, hbefore, hkind, beq_self_eq_true]
    change (Document.read _).map _ = _
    rw [hread]
    rfl
  · have hasked : (other.includes e.documentType && e.caseId == caseId) = false := by
      refine Bool.eq_false_iff.mpr fun hasked => ?_
      obtain ⟨hincludes, hcase⟩ := Bool.and_eq_true_iff.mp hasked
      exact hother.elim (· (EventKind.eq_of_includes hkind hincludes))
        (· (beq_iff_eq.mp hcase).symm)
    rw [hadded other caseId, hasked]
    cases (R.getEvents other caseId s).1 <;> rfl

/-- What was recorded is what is read, and an event that was refused leaves no trace. -/
theorem getEvents_createEvent (R : CasesRepository) (kind : EventKind) (e : CaseEvent)
    (s : Session Services) :
    (e.details.Distinct → e.Apart → ∀ e' t, R.createEvent kind e s = (.ok e', t) →
      (∀ before, (R.getEvents kind e.caseId s).1 = .ok before →
        ∃ last, (R.getEvents kind e.caseId t).1 = .ok (before ++ [last]) ∧ e'.ReadAs last) ∧
      ∀ other caseId, other ≠ kind ∨ caseId ≠ e.caseId →
        (R.getEvents other caseId t).1 = (R.getEvents other caseId s).1) ∧
    ∀ err t, R.createEvent kind e s = (.error err, t) → R.documents t = R.documents s := by
  refine ⟨fun hdetails hapart e' t h => createEvent_reads hdetails hapart h, fun err t h => ?_⟩
  have hkept := atomic_createEvent (R := R) kind e s err (congrArg Prod.fst h)
  rwa [h] at hkept

end

theorem getEvents_createEvent_closed :
    let R : CasesRepository := ⟨.ofDatabase "cams", none⟩
    let s : Session Services := ⟨⟨ObjectId.ofNat, Nat.repr, 7⟩, .empty⟩
    let e : CaseEvent := ⟨none, "AUDIT_NOTE", "081-24-00001", [("note", .string "called")]⟩
    let e' : CaseEvent := { e with id := some "7" }
    let t := (R.createEvent .audit e s).2
    (e.details.Distinct ∧ e.Apart ∧ R.createEvent .audit e s = (.ok e', t) ∧
      (R.getEvents .audit e.caseId s).1 = .ok []) ∧
    (∃ last, (R.getEvents .audit e.caseId t).1 = .ok [last] ∧ e'.ReadAs last) ∧
    (R.getEvents .transfer e.caseId t).1 = (R.getEvents .transfer e.caseId s).1 := by
  intro R s e e' t
  have hdetails : e.details.Distinct := List.nodup_singleton _
  have hapart : e.Apart := by
    unfold CaseEvent.Apart e
    decide
  have hcreate : R.createEvent .audit e s = (.ok e', t) := by
    unfold t e' e s R
    rfl
  have hbefore : (R.getEvents .audit e.caseId s).1 = .ok [] := by
    unfold e s R
    rfl
  obtain ⟨hread, hothers⟩ := (getEvents_createEvent R .audit e s).1 hdetails hapart e' t hcreate
  exact ⟨⟨hdetails, hapart, hcreate, hbefore⟩, hread [] hbefore,
    hothers .transfer e.caseId (.inl (by decide))⟩

/-- Not every event is read back with all of its details: an internal identifier among them is not
stored. -/
theorem exists_detail_not_read :
    ¬ ∀ (R : CasesRepository) (s t : Session Services) (kind : EventKind) (e e' : CaseEvent)
      (before : List CaseEvent), e.details.Distinct → R.createEvent kind e s = (.ok e', t) →
      (R.getEvents kind e.caseId s).1 = .ok before →
      ∃ last, (R.getEvents kind e.caseId t).1 = .ok (before ++ [last]) ∧
        last.details.Perm e'.details := by
  intro h
  let R : CasesRepository := ⟨.ofDatabase "cams", none⟩
  let s : Session Services := ⟨⟨ObjectId.ofNat, Nat.repr, 7⟩, .empty⟩
  let e : CaseEvent := ⟨none, "AUDIT_X", "c-1", [(internalId, .string "x")]⟩
  have hdetails : e.details.Distinct := List.nodup_singleton _
  have hapart : e.Apart := by
    unfold CaseEvent.Apart e
    decide
  have hbefore : (R.getEvents .audit e.caseId s).1 = .ok [] := by
    unfold e s R
    rfl
  have hcreate : R.createEvent .audit e s =
      (.ok { e with id := some "7" }, (R.createEvent .audit e s).2) := by
    unfold e s R
    rfl
  obtain ⟨last, hread, hperm⟩ := h R s _ .audit e _ [] hdetails hcreate hbefore
  obtain ⟨last', hread', hlast⟩ := (createEvent_reads hdetails hapart hcreate).1 [] hbefore
  cases hread.symm.trans hread'
  exact absurd (hperm.symm.trans hlast.details).length_eq (by decide)

end CasesRepository
end DocQuery
