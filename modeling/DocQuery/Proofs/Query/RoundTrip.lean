import DocQuery.Query.ExprJson
import DocQuery.Query.SortSpec
import DocQuery.Proofs.Decode

/-!
# Queries are read back from their documents

Fields, sorts and expressions are read back as they were written, at any depth. An expression has no
tag, so that this rests on one fact: no conjunction reads as a condition.
-/
namespace DocQuery

theorem Field.decode_toJson (source : Source) (f : Field) :
    Field.decode source f.toJson = .ok f := by
  obtain ⟨name, origin⟩ := f
  cases origin <;> rfl

theorem SortDirection.decode_name (source : Source) (d : SortDirection) :
    SortDirection.decode source (.string d.name) = .ok d := by
  cases d <;> rfl

theorem SortedField.decode_toJson (source : Source) (key : SortedField) :
    SortedField.decode source key.toJson = .ok key := by
  have hfield := Field.decode_toJson source key.field
  have hdirection := SortDirection.decode_name source key.direction
  refine Record.decode_of_passes ?_ ?_
  · simp only [List.forall_mem_cons]
    exact ⟨.of_eq_ok rfl hfield, .of_eq_ok rfl hdirection, List.forall_mem_nil _⟩
  · rw [Record.required_eq_ok rfl hfield, Record.required_eq_ok rfl hdirection]
    rfl

theorem SortSpec.decode_toJson (source : Source) (s : SortSpec) :
    SortSpec.decode source s.toJson = .ok s := by
  have hfields := Decode.list_map fun key (_ : key ∈ s.fields) =>
    SortedField.decode_toJson source key
  refine Record.decode_of_passes ?_ ?_
  · exact List.forall_mem_singleton.mpr (.of_eq_ok rfl hfields)
  · rw [Record.required_eq_ok rfl hfields]
    rfl

theorem ConditionKind.decode_name (kind : ConditionKind) :
    ConditionKind.decode (.string kind.name) = .ok kind := by
  cases kind <;> rfl

theorem ConjunctionKind.decode_name (kind : ConjunctionKind) :
    ConjunctionKind.decode (.string kind.name) = .ok kind := by
  cases kind <;> rfl

theorem Operand.decode_toJson (o : Operand) : Operand.decode o.toJson = .ok o := by
  cases o with
  | literal v => rfl
  | field f =>
    have hfield := Field.decode_toJson .direct f
    change (Field.decode .direct f.toJson >>= fun g => pure (Operand.field g)) = _
    rw [hfield]
    rfl

theorem Condition.decode_toJson (c : Condition) : Condition.decode c.toJson = .ok c := by
  have hkind := ConditionKind.decode_name c.kind
  have hleft := Field.decode_toJson .direct c.left
  have hright := Operand.decode_toJson c.right
  refine Record.decode_of_passes ?_ ?_
  · simp only [List.forall_mem_cons]
    exact ⟨.of_eq_ok rfl hkind, .of_eq_ok rfl hleft, .of_eq_ok rfl hright, List.forall_mem_nil _⟩
  · rw [Record.required_eq_ok rfl hkind, Record.required_eq_ok rfl hleft,
      Record.required_eq_ok rfl hright]
    rfl

/-- A conjunction does not read as a condition, whatever its values are. -/
theorem Condition.decode_conjunction (kind values : Json) :
    Condition.decode (.object [("conjunction", kind), ("values", values)]) =
      .error (.missingField "condition") := rfl

namespace Expr

theorem conjunctionKind?_eq_some (kind : ConjunctionKind) (values : Json) :
    conjunctionKind? (.object [("conjunction", .string kind.name), ("values", values)]) =
      some kind := by
  have hkind := ConjunctionKind.decode_name kind
  change (ConjunctionKind.decode (.string kind.name)).toOption = some kind
  rw [hkind]
  rfl

theorem read?_of_condition {v : Json} {c : Condition} (h : Condition.decode v = .ok c) :
    read? v = some (.condition c) := by
  rw [read?.eq_def, h]
  rfl

theorem read?_of_not_condition {members : Members} {err : DecodeError}
    (h : Condition.decode (.object members) = .error err) :
    read? (.object members) = (do
      return .conjunction (← conjunctionKind? (.object members)) (← readMember? members)) := by
  rw [read?.eq_def, h]
  rfl

mutual

theorem read?_toJson : ∀ e : Expr, read? e.toJson = some e
  | .condition c => read?_of_condition c.decode_toJson
  | .conjunction kind values => by
    have hkind := conjunctionKind?_eq_some kind (.array (toJsonAll values))
    have hvalues : readMember? [("conjunction", .string kind.name),
        ("values", .array (toJsonAll values))] = some values := readAll?_toJsonAll values
    rw [toJson, read?_of_not_condition (Condition.decode_conjunction _ _), hkind, hvalues]
    rfl

theorem readAll?_toJsonAll : ∀ es : List Expr, readAll? (toJsonAll es) = some es
  | [] => rfl
  | e :: es => by
    have he := read?_toJson e
    have hes := readAll?_toJsonAll es
    rw [toJsonAll, readAll?, he, hes]
    rfl

end

theorem decode_toJson (e : Expr) : decode e.toJson = .ok e := by
  rw [decode, e.read?_toJson]

end Expr
end DocQuery
