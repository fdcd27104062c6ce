import DocQuery.Proofs.Cases.Runs
import DocQuery.Regex.Engine

/-!
# Reading a stored case back

The copy of a case is looked for by its type as well as by the identifier of the case, but it is
stored under whatever type it carries. So it is read back just if that is the type of copies.
-/
namespace DocQuery

namespace SyncedCase
open Search

variable {c : SyncedCase} {documents documents' : List Json}

theorem WrittenAs.isCopyOf_iff {d id : Json} (h : c.WrittenAs d id) :
    Search.isCopyOf c.caseId d = true ↔ c.documentType = syncedCaseType := by
  rw [Search.isCopyOf_iff h.get?_documentType h.get?_caseId]
  exact and_iff_right rfl

/-- A stored case that has the type of copies is the first document selected for its case. -/
theorem Stores.head?_filter (h : c.Stores documents documents')
    (htype : c.documentType = syncedCaseType) :
    ∃ new id, (documents'.filter (isCopyOf c.caseId)).head? = some new ∧ c.WrittenAs new id := by
  have hfirst : ∀ {before after : List Json} {new id : Json}, c.WrittenAs new id →
      (∀ d ∈ before, isCopyOf c.caseId d = false) →
      ((before ++ new :: after).filter (isCopyOf c.caseId)).head? = some new := by
    intro before after new id hnew hbefore
    have hskip : before.filter (isCopyOf c.caseId) = [] := by simpa using hbefore
    rw [List.filter_append, hskip, List.nil_append,
      List.filter_cons_of_pos (hnew.isCopyOf_iff.mpr htype), List.head?_cons]
  cases h with
  | @replaced before after old new id hbefore hold hid hnew =>
    exact ⟨new, id, hfirst hnew hbefore, hnew⟩
  | @added documents new id hnone hnew => exact ⟨new, id, hfirst hnew hnone, hnew⟩

theorem Stores.none_selected (h : c.Stores documents documents')
    (htype : c.documentType ≠ syncedCaseType)
    (hnone : ∀ d ∈ documents, isCopyOf c.caseId d = false) :
    ∀ d ∈ documents', isCopyOf c.caseId d = false := by
  cases h with
  | @replaced before after old new id hbefore hold hid hnew =>
    cases (hnone old (by simp)).symm.trans hold
  | @added documents new id _ hnew =>
    refine List.forall_mem_append.mpr ⟨hnone, List.forall_mem_singleton.mpr ?_⟩
    exact Bool.eq_false_iff.mpr (mt hnew.isCopyOf_iff.mp htype)

/-- Storing a case adds a document just if none was selected for the case before. -/
theorem Stores.length_eq (h : c.Stores documents documents') :
    documents'.length =
      documents.length + if documents.any (isCopyOf c.caseId) then 0 else 1 := by
  cases h with
  | @replaced before after old new id hbefore hold hid hnew =>
    simp [hold]
  | @added documents new id hnone hnew =>
    have hany : documents.any (isCopyOf c.caseId) = false := by simpa using hnone
    simp [hany]

theorem documentType_of_read {d : Json} (hkeyed : Document.Keyed d) (hcopy : isCopy d = true)
    (hread : Document.read d = .ok c) : c.documentType = syncedCaseType := by
  obtain ⟨⟨ms, rfl, hdistinct⟩, -⟩ := hkeyed
  have hdecode : decode (.object (Members.swapRemove internalId ms)) = .ok c :=
    Outcome.eq_ok_of_mapError hread
  rw [isCopy, Json.resolve_key (by decide), Json.get?] at hcopy
  cases hlookup : ms.lookup "documentType" with
  | none =>
    rw [hlookup] at hcopy
    cases hcopy
  | some v =>
    have hv := lookup_documentType_of_decode hdecode
      ((Members.lookup_swapRemove_of_ne hdistinct (by decide)).trans hlookup)
    rw [hlookup, hv, equalTo_string] at hcopy
    exact beq_iff_eq.mp hcopy

end SyncedCase

namespace CasesRepository
open Search

variable {R : CasesRepository} {s s₀ t : Session Services} {calls : List CasesCall}
  {c : SyncedCase} {id : String}

section

variable [PatternEngine]

theorem getSyncedCase_ready (hs : (R.cases s).Ready) (caseId : String) :
    (R.getSyncedCase caseId s).1 =
      R.adapter.readFirst ((R.documents s).filter (isCopyOf caseId)).head? := by
  obtain ⟨f, hf⟩ := (sound_syncedCopy caseId).exists_filter
  have hselect : Documents.select f (R.documents s) =
      .ok ((R.documents s).filter (isCopyOf caseId)) :=
    Documents.select_eq_filter fun d _ => satisfies_syncedCopy hf d
  have hrun := R.adapter.findOne_ready (α := SyncedCase) (s := s.withState (R.cases s)) hs hf
  refine (R.onCases_fst _ s).trans ((congrArg Prod.fst hrun).trans ?_)
  change (((Documents.select f (R.documents s)).map List.head?).mapError _).bind _ = _
  rw [hselect]
  rfl

theorem stores_of_syncCase (hempty : R.documents s₀ = [])
    (hsync : R.syncCase c (R.run calls s₀) = (.ok id, t)) :
    (R.cases t).Ready ∧ (∀ d ∈ R.documents t, Document.Keyed d) ∧
      SyncedCase.Stores { c with id := some id } (R.documents (R.run calls s₀))
        (R.documents t) := by
  have hkeyed := keyed_run hempty calls
  obtain ⟨id', t', hrun, hready, hstores⟩ := syncCase_ready (ready_of_syncCase hsync) hkeyed c
  cases hsync.symm.trans hrun
  exact ⟨hready, keyed_step hkeyed (.stored hstores), hstores⟩

/-- After a run on an empty collection, a finite case that was stored is read back just if it
carries the type of copies. Storing it a second time then adds no document; if it carries another
type and its case had no copy, each time adds one more. -/
theorem getSyncedCase_syncCase_iff (hempty : R.documents s₀ = []) (calls : List CasesCall)
    (hfinite : c.Finite) (hsync : R.syncCase c (R.run calls s₀) = (.ok id, t)) :
    ((R.getSyncedCase c.caseId t).1 = .ok { c with id := some id } ↔
      c.documentType = syncedCaseType) ∧
    (c.documentType = syncedCaseType →
      (R.documents (R.syncCase c t).2).length = (R.documents t).length) ∧
    (c.documentType ≠ syncedCaseType →
      (∀ d ∈ R.documents (R.run calls s₀), isCopyOf c.caseId d = false) →
      (R.documents (R.syncCase c t).2).length = (R.documents t).length + 1) := by
  obtain ⟨hready, hkeyed, hstores⟩ := stores_of_syncCase hempty hsync
  obtain ⟨id', t', hagain, -, hstores'⟩ := syncCase_ready hready hkeyed c
  have hlength := hstores'.length_eq
  rw [hagain]
  refine ⟨⟨fun hget => ?_, fun htype => ?_⟩, fun htype => ?_, fun htype hnone => ?_⟩
  · rw [getSyncedCase_ready hready] at hget
    cases hfirst : ((R.documents t).filter (isCopyOf c.caseId)).head? with
    | none =>
      rw [hfirst] at hget
      cases hget
    | some d =>
      rw [hfirst] at hget
      obtain ⟨hd, hcopy⟩ := List.mem_filter.mp (List.mem_of_head? hfirst)
      exact SyncedCase.documentType_of_read (c := { c with id := some id }) (hkeyed d hd)
        (Bool.and_eq_true_iff.mp hcopy).2 hget
  · obtain ⟨new, oid, hfirst, hnew⟩ := hstores.head?_filter htype
    rw [getSyncedCase_ready hready, hfirst]
    exact (hnew.stored hfinite).read
  · obtain ⟨new, oid, hfirst, -⟩ := hstores.head?_filter htype
    have hany : (R.documents t).any (isCopyOf c.caseId) = true := by
      obtain ⟨hd, hcopy⟩ := List.mem_filter.mp (List.mem_of_head? hfirst)
      exact List.any_eq_true.mpr ⟨new, hd, hcopy⟩
    rw [hlength, if_pos hany]
    rfl
  · have hnot := hstores.none_selected htype hnone
    rw [hlength, if_neg (by simpa using hnot)]

end

/-- A case stored over an earlier copy of it is read back. -/
theorem getSyncedCase_syncCase_iff_closed :
    let R : CasesRepository := ⟨.ofDatabase "cams", none⟩
    let s₀ : Session Services := ⟨⟨ObjectId.ofNat, Nat.repr, 7⟩, .empty⟩
    let calls : List CasesCall := [.syncCase
      { caseId := "081-24-00001", caseNumber := "24-00001", chapter := "15",
        courtDivisionCode := "081", dateFiled := "2024-01-02" }]
    let c : SyncedCase :=
      { id := some "1", caseId := "081-24-00001", caseNumber := "24-00001", chapter := "7",
        courtDivisionCode := "081", dateFiled := "2024-01-02", closedDate := some "2024-03-01" }
    let t := (R.syncCase c (R.run calls s₀)).2
    (R.documents s₀ = [] ∧ c.Finite ∧ R.syncCase c (R.run calls s₀) = (.ok "1", t)) ∧
      (R.getSyncedCase c.caseId t).1 = .ok c ∧
      (R.documents (R.syncCase c t).2).length = (R.documents t).length := by
  intro R s₀ calls c t
  have hempty : R.documents s₀ = [] := rfl
  have hfinite : c.Finite := by
    rintro vector ⟨⟩
  have hsync : R.syncCase c (R.run calls s₀) = (.ok "1", t) := by
    unfold t c calls s₀ R
    rfl
  obtain ⟨hread, hagain, -⟩ := getSyncedCase_syncCase_iff hempty calls hfinite hsync
  exact ⟨⟨hempty, hfinite, hsync⟩, hread.mpr rfl, hagain rfl⟩

/-- Not every case that was stored is read back: one that carries another type than that of copies
is not found. -/
theorem exists_syncCase_not_read :
    ¬ ∀ (R : CasesRepository) (s₀ t : Session Services) (calls : List CasesCall) (c : SyncedCase)
      (id : String), R.documents s₀ = [] → c.Finite →
      R.syncCase c (R.run calls s₀) = (.ok id, t) →
      (R.getSyncedCase c.caseId t).1 = .ok { c with id := some id } ∧
        (R.documents (R.syncCase c t).2).length ≤ (R.documents t).length := by
  intro h
  let R : CasesRepository := ⟨.ofDatabase "cams", none⟩
  let s₀ : Session Services := ⟨⟨ObjectId.ofNat, Nat.repr, 7⟩, .empty⟩
  let c : SyncedCase :=
    { id := some "1", documentType := "OTHER", caseId := "081-24-00001", caseNumber := "24-00001",
      chapter := "15", courtDivisionCode := "081", dateFiled := "2024-01-02" }
  have hfinite : c.Finite := by
    rintro vector ⟨⟩
  obtain ⟨hread, -⟩ := h R s₀ (R.syncCase c s₀).2 [] c "1" rfl hfinite rfl
  have hmissing : (R.getSyncedCase c.caseId (R.syncCase c s₀).2).1 =
      .error (.notFound module .noMatch) := by
    unfold c s₀ R
    rfl
  cases hmissing.symm.trans hread

end CasesRepository
end DocQuery
