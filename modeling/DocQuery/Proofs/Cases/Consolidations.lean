import DocQuery.Proofs.Adapter.Identity
import DocQuery.Proofs.Cases.Events
import DocQuery.Proofs.Regex.Literal

/-!
# Members of consolidations

The members that a predicate names are looked for by patterns, each of which is a division code
behind the sign for the text start. The codes are not quoted: what is found are the cases that begin
with a code just as far as the codes, read as patterns, say the same as their texts.
-/
namespace DocQuery
open Search
open PatternEngine (Plain Accepts)

namespace CasesSearchPredicate

/-- Whether a predicate asks for a case by its identifier, and by the division code that this begins
with. An empty list asks for nothing in particular. -/
def names (p : CasesSearchPredicate) (caseId : String) : Bool :=
  (p.caseIds.all fun ids => ids.isEmpty || ids.contains caseId) &&
  p.divisionCodes.all fun codes =>
    codes.isEmpty || codes.any fun code => code.toList.isPrefixOf caseId.toList

variable [PatternEngine]

/-- What comes of trying division codes as patterns on the identifier of a case, one after the other
until one matches. -/
def tryCodes (caseId : String) : List String → Except CommandFault Bool
  | [] => .ok false
  | code :: codes => do
    if ← Eval.matchesPattern ("^" ++ code) caseId then return true else tryCodes caseId codes

/-- What comes of trying a predicate on the identifier of a case. Its codes are tried only if its
identifiers do not rule the case out. -/
def tries (p : CasesSearchPredicate) (caseId : String) : Except CommandFault Bool :=
  if p.caseIds.all fun ids => ids.isEmpty || ids.contains caseId then
    ((nonEmpty? p.divisionCodes).map (tryCodes caseId)).getD (.ok true)
  else .ok false

/-- A predicate whose division codes have only characters that stand for themselves, and are
patterns, as they are unless they are too large. -/
def Literal (p : CasesSearchPredicate) : Prop :=
  ∀ codes, p.divisionCodes = some codes → ∀ code ∈ codes, Plain code.toList ∧ Accepts ("^" ++ code)

variable {p : CasesSearchPredicate} {caseId : String}

theorem tryCodes_literal [LawfulPatternEngine] {codes : List String}
    (h : ∀ code ∈ codes, Plain code.toList ∧ Accepts ("^" ++ code)) :
    tryCodes caseId codes = .ok (codes.any fun code => code.toList.isPrefixOf caseId.toList) := by
  induction codes with
  | nil => rfl
  | cons code codes ih =>
    obtain ⟨⟨hplain, haccepts⟩, hrest⟩ := List.forall_mem_cons.mp h
    rw [tryCodes, Eval.matchesPattern_start hplain haccepts, ih hrest, List.any_cons]
    cases code.toList.isPrefixOf caseId.toList <;> rfl

theorem Literal.tries_eq [LawfulPatternEngine] (h : p.Literal) (caseId : String) :
    p.tries caseId = .ok (p.names caseId) := by
  have hcodes : ((nonEmpty? p.divisionCodes).map (tryCodes caseId)).getD (.ok true) =
      .ok (p.divisionCodes.all fun codes =>
        codes.isEmpty || codes.any fun code => code.toList.isPrefixOf caseId.toList) := by
    rw [← all_nonEmpty]
    cases hnonEmpty : nonEmpty? p.divisionCodes with
    | none => rfl
    | some codes => exact tryCodes_literal (h codes (Option.eq_some_of_filter_eq_some hnonEmpty))
  rw [tries, names, hcodes]
  cases p.caseIds.all fun ids => ids.isEmpty || ids.contains caseId <;> rfl

end CasesSearchPredicate

namespace CaseEvent

/-- The members of consolidations that events tell of, event by event. -/
def consolidated (events : List CaseEvent) : List String :=
  (events.filter fun e => e.documentType == consolidationToType).map caseId

/-- An event has the type and the case of the document that it was read from. -/
theorem get?_of_read {d : Json} {e : CaseEvent} (hproper : Document.Proper d)
    (h : Document.read d = .ok e) :
    d.get? "documentType" = some (.string e.documentType) ∧
      d.get? "caseId" = some (.string e.caseId) := by
  have hdecode : decode (Document.without internalId d) = .ok e := Outcome.eq_ok_of_mapError h
  cases d with
  | object members =>
    have hbuild := Record.build_of_decode hdecode
    obtain ⟨_, -, hbuild⟩ := Outcome.exists_of_bind_eq_ok hbuild
    obtain ⟨type, htype, hbuild⟩ := Outcome.exists_of_bind_eq_ok hbuild
    obtain ⟨case, hcase, hbuild⟩ := Outcome.exists_of_bind_eq_ok hbuild
    cases hbuild
    have hkept : ∀ {key value}, key ∈ names → key ≠ internalId →
        (((Members.swapRemove internalId members).filter fun m => names.contains m.1).lookup key =
          some value) → members.lookup key = some value := by
      intro key value hname hkey hlookup
      rw [← Members.lookup_swapRemove_of_ne hproper hkey, ← hlookup]
      exact (Members.lookup_filter_keys (List.contains_iff_mem.mpr hname) _).symm
    exact ⟨hkept (by decide) (by decide) (Record.lookup_of_required htype),
      hkept (by decide) (by decide) (Record.lookup_of_required hcase)⟩
  | _ => cases hdecode

end CaseEvent

namespace CasesRepository

variable {R : CasesRepository} {p : CasesSearchPredicate} {s : Session Services} {d : Json}

theorem sound_consolidationMembers (p : CasesSearchPredicate) : Sound (consolidationMembers p) := by
  have hcodes : ∀ codes : List String,
      Sound (.or (codes.map fun code => (caseField .caseId).regex (text ("^" ++ code)))) := by
    refine fun codes => sound_conjunction fun e he => ?_
    obtain ⟨code, -, rfl⟩ := List.mem_map.mp he
    exact sound_literal .caseId rfl
  refine sound_conjunction (List.forall_mem_append.mpr ⟨List.forall_mem_append.mpr ⟨?_, ?_⟩, ?_⟩)
  · exact List.forall_mem_singleton.mpr (sound_literal .documentType rfl)
  · exact forall_whenSome fun ids => sound_literal .caseId rfl
  · exact forall_whenSome hcodes

section

variable [PatternEngine]

theorem anyHolds_codes {id : String} (hid : d.get? "caseId" = some (.string id))
    (codes : List String) :
    Expr.anyHolds d (codes.map fun code => (caseField .caseId).regex (text ("^" ++ code))) =
      CasesSearchPredicate.tryCodes id codes := by
  induction codes with
  | nil => rfl
  | cons code codes ih =>
    have hcode : ((caseField .caseId).regex (text ("^" ++ code))).holds d =
        Eval.matchesPattern ("^" ++ code) id := holds_member .caseId hid .regex _
    rw [List.map_cons, Expr.anyHolds, hcode, ih]
    rfl

theorem satisfies_consolidationMembers {f : Json}
    (hf : Native.filter (consolidationMembers p) = .ok f) {type id : String}
    (htype : d.get? "documentType" = some (.string type))
    (hid : d.get? "caseId" = some (.string id)) :
    Eval.satisfies d f = if type == consolidationToType then p.tries id else .ok false := by
  have htypes : ((caseField .documentType).equals (text consolidationToType)).holds d =
      .ok (type == consolidationToType) := by
    rw [← equalTo_string]
    exact holds_member .documentType htype .equals _
  have hids : Expr.allHold d (whenSome (nonEmpty? p.caseIds) fun ids =>
      (caseField .caseId).contains (texts ids)) =
      .ok ((nonEmpty? p.caseIds).all fun ids => ids.contains id) :=
    allHold_whenSome _ fun ids => (holds_member .caseId hid .contains _).trans
      (congrArg Except.ok (items_any_equalTo id ids))
  have hcodes : Expr.allHold d (whenSome (nonEmpty? p.divisionCodes) fun codes =>
      .or (codes.map fun code => (caseField .caseId).regex (text ("^" ++ code)))) =
      ((nonEmpty? p.divisionCodes).map (CasesSearchPredicate.tryCodes id)).getD (.ok true) := by
    cases nonEmpty? p.divisionCodes with
    | none => rfl
    | some codes => exact (allHold_single d _).trans (anyHolds_codes hid codes)
  rw [all_nonEmpty] at hids
  rw [(sound_consolidationMembers p).satisfies_eq hf]
  refine (allHold_append_of (allHold_append (allHold_singleton htypes) hids) _).trans ?_
  rw [CasesSearchPredicate.tries, ← hcodes]
  cases type == consolidationToType <;> rfl

theorem getConsolidationMemberCaseIds_fst (hs : (R.cases s).Ready) {f : Json}
    (hf : Native.filter (consolidationMembers p) = .ok f) :
    (R.getConsolidationMemberCaseIds p s).1 =
      (((Documents.select f (R.documents s)).mapError (R.adapter.rejected f)).bind
        (·.mapM Document.read)).map (·.map CaseEvent.caseId) := by
  rw [← find_fst hs hf]
  refine Outcome.bind_elim (P := fun run : Except QueryError (List String) × _ =>
    run.1 = Except.map _ (R.onCases (fun A => A.find (consolidationMembers p) none) s :
      Except QueryError (List CaseEvent) × _).1) (fun e t hrun => ?_) fun found t hrun => ?_
  all_goals
    rw [hrun]
    rfl

section Found

variable {events : List CaseEvent} (hs : (R.cases s).Ready)
  (hproper : ∀ d ∈ R.documents s, Document.Proper d)
  (hread : (R.documents s).mapM Document.read = .ok events)
include hs hproper hread

/-- If the predicate can be tried on every member, those are found of which it holds. -/
theorem getConsolidationMemberCaseIds_of_tries {holds : String → Bool}
    (h : ∀ id ∈ CaseEvent.consolidated events, p.tries id = .ok (holds id)) :
    (R.getConsolidationMemberCaseIds p s).1 =
      .ok ((CaseEvent.consolidated events).filter holds) := by
  obtain ⟨f, hf⟩ := (sound_consolidationMembers p).exists_filter
  obtain ⟨value, hvalue, rfl⟩ := Outcome.exists_map_of_mapM_eq_ok ⟨⟨none, "", "", []⟩⟩ hread
  have hselect : Documents.select f (R.documents s) = .ok ((R.documents s).filter fun d =>
      (value d).documentType == consolidationToType && holds (value d).caseId) := by
    refine Documents.select_eq_filter fun d hd => ?_
    obtain ⟨htype, hid⟩ := CaseEvent.get?_of_read (hproper d hd) (hvalue d hd)
    rw [satisfies_consolidationMembers hf htype hid]
    cases hmember : (value d).documentType == consolidationToType with
    | false => rfl
    | true =>
      have hevent : value d ∈ ((R.documents s).map value).filter fun e =>
          e.documentType == consolidationToType :=
        List.mem_filter.mpr ⟨List.mem_map_of_mem hd, hmember⟩
      exact h _ (List.mem_map_of_mem hevent)
  rw [getConsolidationMemberCaseIds_fst hs hf, hselect]
  change Except.map _ (List.mapM _ _) = _
  rw [Outcome.mapM_eq_ok_map fun d hd => hvalue d (List.mem_filter.mp hd).1,
    CaseEvent.consolidated]
  refine congrArg Except.ok ?_
  simp only [List.filter_map, List.filter_filter, List.map_map, Function.comp_def, Bool.and_comm]

theorem exists_tries_of_ok {found : List String}
    (h : (R.getConsolidationMemberCaseIds p s).1 = .ok found) :
    ∀ id ∈ CaseEvent.consolidated events, ∃ b, p.tries id = .ok b := by
  obtain ⟨f, hf⟩ := (sound_consolidationMembers p).exists_filter
  rw [getConsolidationMemberCaseIds_fst hs hf] at h
  obtain ⟨_, hfound, -⟩ := Outcome.exists_of_map_eq_ok h
  obtain ⟨selected, hselect, -⟩ := Outcome.exists_of_bind_eq_ok hfound
  obtain ⟨marks, hmarks, -⟩ := Outcome.exists_of_map_eq_ok (Outcome.eq_ok_of_mapError hselect)
  intro id hid
  obtain ⟨e, he, rfl⟩ := List.mem_map.mp hid
  obtain ⟨he, hmember⟩ := List.mem_filter.mp he
  obtain ⟨d, hd, hd'⟩ := Outcome.exists_of_mem_mapM hread e he
  obtain ⟨mark, hmark⟩ := Outcome.exists_of_mapM_eq_ok hmarks d hd
  obtain ⟨htype, hcase⟩ := CaseEvent.get?_of_read (hproper d hd) hd'
  rw [satisfies_consolidationMembers hf htype hcase, if_pos hmember] at hmark
  obtain ⟨b, hb, -⟩ := Outcome.exists_of_bind_eq_ok hmark
  exact ⟨b, hb⟩

end Found

/-- The members that a predicate names are found, in the order of their events, just if its division
codes say of every member as patterns what they say as texts. So they do if their characters all
stand for themselves and each code is a pattern. -/
theorem getConsolidationMemberCaseIds_eq_iff (R : CasesRepository) (p : CasesSearchPredicate)
    (s : Session Services) {events : List CaseEvent} (hs : (R.cases s).Ready)
    (hproper : ∀ d ∈ R.documents s, Document.Proper d)
    (hread : (R.documents s).mapM Document.read = .ok events) :
    let members := CaseEvent.consolidated events
    ((R.getConsolidationMemberCaseIds p s).1 = .ok (members.filter p.names) ↔
      ∀ id ∈ members, p.tries id = .ok (p.names id)) ∧
    (LawfulPatternEngine → p.Literal →
      (R.getConsolidationMemberCaseIds p s).1 = .ok (members.filter p.names)) := by
  intro members
  have hfound : ∀ {holds : String → Bool}, (∀ id ∈ members, p.tries id = .ok (holds id)) →
      (R.getConsolidationMemberCaseIds p s).1 = .ok (members.filter holds) :=
    getConsolidationMemberCaseIds_of_tries hs hproper hread
  refine ⟨⟨fun h => ?_, hfound⟩, fun _ hliteral => hfound fun id _ => hliteral.tries_eq id⟩
  have htries := exists_tries_of_ok hs hproper hread h
  let holds (id : String) : Bool := (p.tries id).toOption.getD false
  have hholds : ∀ id ∈ members, p.tries id = .ok (holds id) := by
    intro id hid
    obtain ⟨b, hb⟩ := htries id hid
    simp [holds, hb, Except.toOption]
  have hsame : members.filter holds = members.filter p.names :=
    Except.ok.inj ((hfound hholds).symm.trans h)
  intro id hid
  rw [hholds id hid]
  refine congrArg Except.ok (Bool.eq_iff_iff.mpr ?_)
  have hmem := congrArg (id ∈ ·) hsame
  simpa [hid] using hmem

end

/-- Of two members in two divisions, the one of the division asked for. -/
theorem getConsolidationMemberCaseIds_eq_iff_division :
    let event (id : Int) (caseId : String) : Json := .object
      [(internalId, .int id), ("documentType", .string "CONSOLIDATION_TO"),
        ("caseId", .string caseId)]
    let found : Collection := { Collection.empty "cases" false with
      documents := [event 1 "081-24-00001", event 2 "091-24-00002"] }
    let R : CasesRepository := ⟨.ofDatabase "cams", none⟩
    let s : Session Services :=
      ⟨⟨ObjectId.ofNat, Nat.repr, 0⟩, ⟨⟨[("cams.cases", found)], false, 0⟩, []⟩⟩
    let p : CasesSearchPredicate := { divisionCodes := some ["081"] }
    let events : List CaseEvent := [⟨none, "CONSOLIDATION_TO", "081-24-00001", []⟩,
      ⟨none, "CONSOLIDATION_TO", "091-24-00002", []⟩]
    ((R.cases s).Ready ∧ (∀ d ∈ R.documents s, Document.Proper d) ∧
      (R.documents s).mapM Document.read = .ok events ∧ p.Literal) ∧
    (R.getConsolidationMemberCaseIds p s).1 = .ok ["081-24-00001"] := by
  intro event found R s p events
  have hs : (R.cases s).Ready := ⟨rfl, rfl⟩
  have hevent : ∀ id caseId, Document.Proper (event id caseId) := by
    intro id caseId
    change List.Nodup [internalId, "documentType", "caseId"]
    decide
  have hproper : ∀ d ∈ R.documents s, Document.Proper d :=
    List.forall_mem_cons.mpr ⟨hevent _ _, List.forall_mem_singleton.mpr (hevent _ _)⟩
  have hread : (R.documents s).mapM Document.read = .ok events := rfl
  have hliteral : p.Literal := by
    rintro _ ⟨⟩
    exact List.forall_mem_singleton.mpr ⟨by decide, _, rfl⟩
  refine ⟨⟨hs, hproper, hread, hliteral⟩, ?_⟩
  exact (getConsolidationMemberCaseIds_eq_iff R p s hs hproper hread).2 inferInstance hliteral

/-- Not every code is tried as the text that it is: a dot in it stands for any character. -/
theorem exists_code_not_text :
    ¬ ∀ (R : CasesRepository) (p : CasesSearchPredicate) (s : Session Services)
      (events : List CaseEvent), (R.cases s).Ready →
      (∀ d ∈ R.documents s, Document.Proper d) →
      (R.documents s).mapM Document.read = .ok events →
      (R.getConsolidationMemberCaseIds p s).1 =
        .ok ((CaseEvent.consolidated events).filter p.names) := by
  intro h
  let event : Json := .object
    [(internalId, .int 1), ("documentType", .string "CONSOLIDATION_TO"),
      ("caseId", .string "081-24-00001")]
  let R : CasesRepository := ⟨.ofDatabase "cams", none⟩
  let found : Collection := { Collection.empty "cases" false with documents := [event] }
  let s : Session Services :=
    ⟨⟨ObjectId.ofNat, Nat.repr, 0⟩, ⟨⟨[("cams.cases", found)], false, 0⟩, []⟩⟩
  let p : CasesSearchPredicate := { divisionCodes := some ["0.1"] }
  have hs : (R.cases s).Ready := ⟨rfl, rfl⟩
  have hproper : ∀ d ∈ R.documents s, Document.Proper d := by
    refine List.forall_mem_singleton.mpr ?_
    change List.Nodup [internalId, "documentType", "caseId"]
    decide
  have hread : (R.documents s).mapM Document.read =
      .ok [(⟨none, "CONSOLIDATION_TO", "081-24-00001", []⟩ : CaseEvent)] := rfl
  have htries : p.tries "081-24-00001" = .ok true := by
    unfold p
    rfl
  have hfound : (R.getConsolidationMemberCaseIds p s).1 =
      .ok (["081-24-00001"].filter fun _ => true) :=
    getConsolidationMemberCaseIds_of_tries hs hproper hread (List.forall_mem_singleton.mpr htries)
  cases hfound.symm.trans (h R p s _ hs hproper hread)

end CasesRepository
end DocQuery
