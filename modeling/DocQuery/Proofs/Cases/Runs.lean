import DocQuery.Proofs.Cases.Writing
import DocQuery.Regex.Engine

/-!
# Runs of a repository

What a call of the repository of cases does to the documents of its collection, and what holds of
the documents after any number of calls. Searches leave them as they are; a call that records
something stores the copy of one case or adds one event.
-/
namespace DocQuery

inductive CasesCall where
  | searchCases (p : CasesSearchPredicate)
  | searchUnassignedCases (p : CasesSearchPredicate)
  | getSyncedCase (caseId : String)
  | getEvents (kind : EventKind) (caseId : String)
  | getConsolidationMemberCaseIds (p : CasesSearchPredicate)
  | syncCase (c : SyncedCase)
  | createEvent (kind : EventKind) (e : CaseEvent)

namespace CasesCall

def after [PatternEngine] (R : CasesRepository) (call : CasesCall) (s : Session Services) :
    Session Services :=
  match call with
  | .searchCases p => (R.searchCases p s).2
  | .searchUnassignedCases p => (R.searchUnassignedCases p s).2
  | .getSyncedCase caseId => (R.getSyncedCase caseId s).2
  | .getEvents kind caseId => (R.getEvents kind caseId s).2
  | .getConsolidationMemberCaseIds p => (R.getConsolidationMemberCaseIds p s).2
  | .syncCase c => (R.syncCase c s).2
  | .createEvent kind e => (R.createEvent kind e s).2

inductive Step (documents : List Json) : CasesCall → List Json → Prop where
  | unchanged (call : CasesCall) : Step documents call documents
  | stored {c : SyncedCase} {id : String} {documents' : List Json}
    (h : SyncedCase.Stores { c with id := some id } documents documents') :
    Step documents (.syncCase c) documents'
  | recorded {kind : EventKind} {e : CaseEvent} {documents' : List Json}
    (hkind : kind.includes e.documentType = true) (h : e.Records documents documents') :
    Step documents (.createEvent kind e) documents'

end CasesCall

namespace CasesRepository
open Outcome

variable {R : CasesRepository} {s : Session Services}

theorem keeps_queryVector (R : CasesRepository) (name : String) :
    Keeps R.documents (R.queryVector name) := by
  intro s
  rw [queryVector]
  split
  · rfl
  · cases R.embedder <;> rfl

theorem keyed_step {call : CasesCall} {documents documents' : List Json}
    (hkeyed : ∀ d ∈ documents, Document.Keyed d) (hstep : call.Step documents documents') :
    ∀ d ∈ documents', Document.Keyed d := by
  cases hstep with
  | unchanged => exact hkeyed
  | stored hstores =>
    cases hstores with
    | replaced hbefore hold hid hnew =>
      simp only [List.forall_mem_append, List.forall_mem_cons] at hkeyed ⊢
      exact ⟨hkeyed.1, hnew.keyed, hkeyed.2.2⟩
    | added hnone hnew =>
      exact List.forall_mem_append.mpr ⟨hkeyed, List.forall_mem_singleton.mpr hnew.keyed⟩
  | recorded hkind hrecords =>
    obtain ⟨hnew, -⟩ := hrecords
    exact List.forall_mem_append.mpr ⟨hkeyed, List.forall_mem_singleton.mpr hnew⟩

variable [PatternEngine]

def run (R : CasesRepository) (calls : List CasesCall) (s : Session Services) : Session Services :=
  calls.foldl (fun s call => call.after R s) s

theorem keeps_searchUnassignedCases (R : CasesRepository) (p : CasesSearchPredicate) :
    Keeps R.documents (R.searchUnassignedCases p) :=
  (keeps_liftExcept _ _).bind fun spec => keeps_onCases (R.adapter.keeps_paginate spec)

theorem keeps_searchCases (R : CasesRepository) (p : CasesSearchPredicate) :
    Keeps R.documents (R.searchCases p) := by
  have hsearch : ∀ vector, Keeps R.documents (do
      let spec ← liftExcept (Search.pipeline p vector R.config)
      R.onCases fun A => A.paginate spec : Action Services (Page SyncedCase)) := fun vector =>
    (keeps_liftExcept _ _).bind fun spec => keeps_onCases (R.adapter.keeps_paginate spec)
  rw [searchCases]
  split
  · exact R.keeps_searchUnassignedCases p
  · refine Keeps.bind ?_ fun _ => ?_
    · intro s
      cases Search.requirePage p <;> rfl
    · cases p.searchName? with
      | none => exact (keeps_pure _ _).bind hsearch
      | some name => exact (R.keeps_queryVector name).bind hsearch

theorem step_after (call : CasesCall) (hkeyed : ∀ d ∈ R.documents s, Document.Keyed d) :
    call.Step (R.documents s) (R.documents (call.after R s)) := by
  have hkeeps : ∀ {α : Type} {action : Action Services α}, Keeps R.documents action →
      CasesCall.Step (R.documents s) call (R.documents (action s).2) := by
    intro α action h
    rw [h s]
    exact .unchanged call
  cases call with
  | searchCases p => exact hkeeps (R.keeps_searchCases p)
  | searchUnassignedCases p => exact hkeeps (R.keeps_searchUnassignedCases p)
  | getSyncedCase caseId => exact hkeeps (keeps_onCases (R.adapter.keeps_findOne _))
  | getEvents kind caseId => exact hkeeps (keeps_onCases (R.adapter.keeps_find _ none))
  | getConsolidationMemberCaseIds p =>
    exact hkeeps ((keeps_onCases (R.adapter.keeps_find _ none)).bind fun members =>
      keeps_pure _ (members.map CaseEvent.caseId))
  | syncCase c =>
    cases hrun : R.syncCase c s with
    | mk result t =>
      rw [CasesCall.after, hrun]
      cases result with
      | error err =>
        have hkept := atomic_syncCase (R := R) c s err (congrArg Prod.fst hrun)
        rw [hrun] at hkept
        rw [hkept]
        exact .unchanged _
      | ok id =>
        obtain ⟨id', t', hrun', -, hstores⟩ := syncCase_ready (ready_of_syncCase hrun) hkeyed c
        cases hrun.symm.trans hrun'
        exact .stored hstores
  | createEvent kind e =>
    rcases R.createEvent_cases kind e s with hkept | ⟨hkind, hrecords⟩
    · rw [CasesCall.after, hkept]
      exact .unchanged _
    · exact .recorded hkind hrecords

/-- What holds of the documents at first and is preserved by each call holds after a run. -/
theorem documents_run {P : List Json → Prop} {calls : List CasesCall}
    (hstep : ∀ call ∈ calls, ∀ documents documents', P documents →
      call.Step documents documents' → P documents')
    (hkeyed : ∀ d ∈ R.documents s, Document.Keyed d) (h : P (R.documents s)) :
    P (R.documents (R.run calls s)) := by
  -- `Keyed` goes along with `P`: what a call does is known of keyed documents only.
  induction calls generalizing s with
  | nil => exact h
  | cons call calls ih =>
    obtain ⟨hcall, hcalls⟩ := List.forall_mem_cons.mp hstep
    have hafter := step_after call hkeyed
    exact ih hcalls (keyed_step hkeyed hafter) (hcall _ _ h hafter)

theorem keyed_run (hempty : R.documents s = []) (calls : List CasesCall) :
    ∀ d ∈ R.documents (R.run calls s), Document.Keyed d := by
  have hkeyed : ∀ d ∈ R.documents s, Document.Keyed d := by
    rw [hempty]
    exact List.forall_mem_nil _
  exact documents_run (P := fun documents => ∀ d ∈ documents, Document.Keyed d)
    (fun _ _ _ _ h hstep => keyed_step h hstep) hkeyed hkeyed

end CasesRepository

/-- A copy of a case, by its type and the identifier of the case. -/
def Json.IsCopyOf (caseId : String) (d : Json) : Prop :=
  d.get? "documentType" = some (.string syncedCaseType) ∧
    d.get? "caseId" = some (.string caseId)

/-- Copies have the type of copies, and the details of an event leave its named members alone. -/
def CasesCall.Regular : CasesCall → Prop
  | .syncCase c => c.documentType = syncedCaseType
  | .createEvent _ e => ∀ key ∈ ["id", "documentType", "caseId"], key ∉ e.details.map Prod.fst
  | _ => True

theorem SyncedCase.WrittenAs.isCopyOf {c : SyncedCase} {d id : Json} (h : c.WrittenAs d id)
    (hcopy : c.documentType = syncedCaseType) : d.IsCopyOf c.caseId :=
  ⟨hcopy ▸ h.get?_documentType, h.get?_caseId⟩

theorem CaseEvent.get?_toJson {e : CaseEvent}
    (hdetails : ∀ key ∈ ["documentType", "caseId"], key ∉ e.details.map Prod.fst) :
    e.toJson.get? "documentType" = some (.string e.documentType) ∧
      e.toJson.get? "caseId" = some (.string e.caseId) := by
  constructor
  · refine (Members.lookup_setAll_of_not_mem (hdetails _ (by simp)) _).trans ?_
    cases e.id <;> rfl
  · refine (Members.lookup_setAll_of_not_mem (hdetails _ (by simp)) _).trans ?_
    cases e.id <;> rfl

theorem EventKind.ne_of_includes {kind : EventKind} {type : String}
    (h : kind.includes type = true) : type ≠ syncedCaseType := by
  rintro rfl
  cases kind <;> exact absurd h (by decide)

namespace Documents

/-- No two copies are of one case. -/
def CopiesDiffer (documents : List Json) : Prop :=
  documents.Pairwise fun d e => d.get? "documentType" = some (.string syncedCaseType) →
    e.get? "documentType" = some (.string syncedCaseType) → d.get? "caseId" ≠ e.get? "caseId"

/-- Documents as regular calls leave them: each has a type and names a case, and no two copies are
of one case. -/
structure Regular (documents : List Json) : Prop where
  named : ∀ d ∈ documents, ∃ type caseId, d.get? "documentType" = some (.string type) ∧
    d.get? "caseId" = some (.string caseId)
  differ : CopiesDiffer documents

variable {documents documents' before after : List Json} {old new : Json}

theorem CopiesDiffer.replace (h : CopiesDiffer (before ++ old :: after))
    (htype : new.get? "documentType" = old.get? "documentType")
    (hcaseId : new.get? "caseId" = old.get? "caseId") :
    CopiesDiffer (before ++ new :: after) := by
  simp only [CopiesDiffer, List.pairwise_append, List.pairwise_cons, List.forall_mem_cons, htype,
    hcaseId] at h ⊢
  exact h

theorem CopiesDiffer.append (h : CopiesDiffer documents)
    (hnew : new.get? "documentType" = some (.string syncedCaseType) → ∀ d ∈ documents,
      d.get? "documentType" = some (.string syncedCaseType) → d.get? "caseId" ≠ new.get? "caseId") :
    CopiesDiffer (documents ++ [new]) := by
  refine List.pairwise_append.mpr ⟨h, List.pairwise_singleton _ _, ?_⟩
  intro d hd e he hdtype hetype
  rw [List.mem_singleton.mp he] at hetype ⊢
  exact hnew hetype d hd hdtype

theorem Regular.isCopyOf_iff (h : Regular documents) {d : Json} (hd : d ∈ documents)
    (caseId : String) : Search.isCopyOf caseId d = true ↔ d.IsCopyOf caseId := by
  obtain ⟨type, id, htype, hid⟩ := h.named d hd
  rw [Search.isCopyOf_iff htype hid, Json.IsCopyOf, htype, hid]
  simp [and_comm]

theorem Regular.append (h : Regular documents) {type caseId : String}
    (htype : new.get? "documentType" = some (.string type))
    (hcaseId : new.get? "caseId" = some (.string caseId))
    (hnew : type = syncedCaseType → ∀ d ∈ documents, ¬ d.IsCopyOf caseId) :
    Regular (documents ++ [new]) where
  named := List.forall_mem_append.mpr
    ⟨h.named, List.forall_mem_singleton.mpr ⟨type, caseId, htype, hcaseId⟩⟩
  differ := by
    refine h.differ.append fun hcopy d hd hdtype hdcaseId => ?_
    have heq : type = syncedCaseType := by simpa using htype.symm.trans hcopy
    exact hnew heq d hd ⟨hdtype, hdcaseId.trans hcaseId⟩

theorem Regular.replace (h : Regular (before ++ old :: after)) {caseId : String}
    (hold : old.IsCopyOf caseId) (hnew : new.IsCopyOf caseId) :
    Regular (before ++ new :: after) where
  named := by
    have hall := h.named
    simp only [List.forall_mem_append, List.forall_mem_cons] at hall ⊢
    exact ⟨hall.1, ⟨_, _, hnew⟩, hall.2.2⟩
  differ := h.differ.replace (hnew.1.trans hold.1.symm) (hnew.2.trans hold.2.symm)

/-- A regular call preserves what holds of the documents that regular calls leave. -/
theorem Regular.step (h : Regular documents) {call : CasesCall} (hcall : call.Regular)
    (hstep : call.Step documents documents') : Regular documents' := by
  cases hstep with
  | unchanged => exact h
  | stored hstores =>
    cases hstores with
    | replaced hbefore hold hid hnew =>
      have hcopy := (h.isCopyOf_iff (by simp) _).mp hold
      exact h.replace hcopy (hnew.isCopyOf hcall)
    | added hnone hnew =>
      obtain ⟨htype, hcaseId⟩ := hnew.isCopyOf hcall
      refine h.append htype hcaseId fun _ d hd hcopy => ?_
      have hd' := (h.isCopyOf_iff hd _).mpr hcopy
      cases (hnone d hd).symm.trans hd'
  | recorded hkind hrecords =>
    obtain ⟨-, hkeys⟩ := hrecords
    obtain ⟨htype, hcaseId⟩ :=
      CaseEvent.get?_toJson fun key hkey => hcall key (List.mem_cons_of_mem _ hkey)
    refine h.append ((hkeys _ (by decide) (by decide)).trans htype)
      ((hkeys _ (by decide) (by decide)).trans hcaseId) fun hcopy => ?_
    exact absurd hcopy (EventKind.ne_of_includes hkind)

/-- Where there is a copy of the case, the new one takes its place and its internal identifier, and
where there is none it comes last. -/
theorem Regular.stores (h : Regular documents) {c : SyncedCase}
    (htype : c.documentType = syncedCaseType) (hstores : c.Stores documents documents') :
    ((∃ d ∈ documents, d.IsCopyOf c.caseId) →
      ∃ before old new after, documents = before ++ old :: after ∧
        documents' = before ++ new :: after ∧
        old.IsCopyOf c.caseId ∧ new.IsCopyOf c.caseId ∧
        ∃ oid, old.get? internalId = some oid ∧ new.get? internalId = some oid) ∧
    ((∀ d ∈ documents, ¬ d.IsCopyOf c.caseId) →
      ∃ new, documents' = documents ++ [new] ∧ new.IsCopyOf c.caseId) := by
  cases hstores with
  | @replaced before after old new oid hbefore hold hid hnew =>
    have hmem : old ∈ before ++ old :: after := by simp
    have hcopy := (h.isCopyOf_iff hmem _).mp hold
    refine ⟨fun _ => ?_, fun hnone => absurd hcopy (hnone old hmem)⟩
    exact ⟨before, old, new, after, rfl, rfl, hcopy, hnew.isCopyOf htype, oid, hid,
      hnew.get?_internalId⟩
  | @added documents new oid hnone hnew =>
    refine ⟨fun ⟨d, hd, hcopy⟩ => ?_, fun _ => ⟨new, rfl, hnew.isCopyOf htype⟩⟩
    have hd' := (h.isCopyOf_iff hd _).mpr hcopy
    cases (hnone d hd).symm.trans hd'

end Documents

namespace CasesRepository

variable {R : CasesRepository} {s₀ : Session Services} {calls : List CasesCall}

section

variable [PatternEngine]

theorem regular_run (hempty : R.documents s₀ = []) (hcalls : ∀ call ∈ calls, call.Regular) :
    Documents.Regular (R.documents (R.run calls s₀)) := by
  refine documents_run
    (fun call hcall documents documents' h hstep => h.step (hcalls call hcall) hstep) ?_ ?_
  · rw [hempty]
    exact List.forall_mem_nil _
  · rw [hempty]
    exact ⟨List.forall_mem_nil _, .nil⟩

/-- After a run of regular calls on an empty collection no two copies are of one case. Storing the
copy of a case then leaves the documents as they are when it fails, and it does not fail when the
collection is ready. Otherwise it puts the copy in the place and under the internal identifier of
the copy that was there, or adds it at the end where none was; nothing else changes. -/
theorem syncCase_run (hempty : R.documents s₀ = []) (hcalls : ∀ call ∈ calls, call.Regular) :
    let s := R.run calls s₀
    Documents.CopiesDiffer (R.documents s) ∧
    ∀ c : SyncedCase, c.documentType = syncedCaseType →
      let t := (R.syncCase c s).2
      ((R.cases s).Ready → ∃ id, (R.syncCase c s).1 = .ok id) ∧
      (∀ err, (R.syncCase c s).1 = .error err → R.documents t = R.documents s) ∧
      ∀ id, (R.syncCase c s).1 = .ok id →
        ((∃ d ∈ R.documents s, d.IsCopyOf c.caseId) →
          ∃ before old new after, R.documents s = before ++ old :: after ∧
            R.documents t = before ++ new :: after ∧
            old.IsCopyOf c.caseId ∧ new.IsCopyOf c.caseId ∧
            ∃ oid, old.get? internalId = some oid ∧ new.get? internalId = some oid) ∧
        ((∀ d ∈ R.documents s, ¬ d.IsCopyOf c.caseId) →
          ∃ new, R.documents t = R.documents s ++ [new] ∧ new.IsCopyOf c.caseId) := by
  intro s
  have hkeyed := keyed_run hempty calls
  have hregular := regular_run hempty hcalls
  refine ⟨hregular.differ, fun c htype => ?_⟩
  intro t
  refine ⟨fun hs => ?_, fun err herr => ?_, fun id hid => ?_⟩
  · obtain ⟨id, t, hrun, -⟩ := syncCase_ready hs hkeyed c
    exact ⟨id, congrArg Prod.fst hrun⟩
  · exact atomic_syncCase c s err herr
  · have hrun : R.syncCase c s = (.ok id, t) := Prod.ext hid rfl
    obtain ⟨id', t', hrun', -, hstores⟩ :=
      syncCase_ready (ready_of_syncCase hrun) hkeyed c
    rw [(Prod.mk.inj (hrun'.symm.trans hrun)).2] at hstores
    exact hregular.stores (c := { c with id := some id' }) htype hstores

end

/-- A case, a transfer of it and a search for no page, and then a second copy of the case. -/
theorem syncCase_run_again :
    let calls : List CasesCall :=
      [.syncCase
        { id := some "1", caseId := "081-24-00001", caseNumber := "24-00001", chapter := "15",
          courtDivisionCode := "081", dateFiled := "2024-01-02" },
        .createEvent .transfer
          ⟨none, "TRANSFER_TO", "081-24-00001", [("otherCase", .string "091-24-00002")]⟩,
        .searchUnassignedCases {}]
    let again : SyncedCase :=
      { caseId := "081-24-00001", caseNumber := "24-00001", chapter := "7",
        courtDivisionCode := "081", dateFiled := "2024-01-02", closedDate := some "2024-03-01" }
    let s₀ : Session Services := ⟨⟨ObjectId.ofNat, Nat.repr, 7⟩, .empty⟩
    let R : CasesRepository := ⟨.ofDatabase "cams", none⟩
    let s := R.run calls s₀
    (R.documents s₀ = [] ∧ ∀ call ∈ calls, call.Regular) ∧
      Documents.CopiesDiffer (R.documents s) ∧ (R.documents s).length = 2 ∧
      (∃ id, (R.syncCase again s).1 = .ok id) ∧
      (R.documents (R.syncCase again s).2).length = 2 := by
  intro calls again s₀ R s
  have hempty : R.documents s₀ = [] := rfl
  have hcalls : ∀ call ∈ calls, call.Regular := by
    simp only [calls, List.forall_mem_cons, List.not_mem_nil, false_imp_iff, implies_true, and_true]
    refine ⟨rfl, ?_, trivial⟩
    change ∀ key ∈ ["id", "documentType", "caseId"], key ∉ ["otherCase"]
    decide
  have hready : (R.cases s).Ready := ⟨rfl, rfl⟩
  have hlength : (R.documents s).length = 2 := rfl
  have hcopy : ∃ d ∈ R.documents s, d.IsCopyOf again.caseId := ⟨_, List.mem_cons_self, rfl, rfl⟩
  obtain ⟨hdiffer, hsync⟩ := syncCase_run (R := R) hempty hcalls
  obtain ⟨hsucceeds, -, hstored⟩ := hsync again rfl
  obtain ⟨id, hid⟩ := hsucceeds hready
  obtain ⟨before, old, new, after, hbefore, hafter, -⟩ := (hstored id hid).1 hcopy
  refine ⟨⟨hempty, hcalls⟩, hdiffer, hlength, ⟨id, hid⟩, ?_⟩
  rw [hafter, ← hlength, hbefore, List.length_append, List.length_append]
  rfl

end CasesRepository
end DocQuery
