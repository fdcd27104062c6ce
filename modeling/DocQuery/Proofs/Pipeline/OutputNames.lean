import DocQuery.Proofs.Members
import DocQuery.Proofs.Pipeline.Acceptance

/-!
# Output names of groups and computed fields

A group sets its key and then its accumulators, and a list of computed fields its fields, each under
the name that it is given. Of several entries of one name the last one stays, so a stage keeps all
that it asks for just if its entries of one name are the same.
-/
namespace DocQuery
open Native Outcome

namespace Members

def Agree (pairs : List (String × Json)) : Prop :=
  ∀ p ∈ pairs, ∀ q ∈ pairs, p.1 = q.1 → p.2 = q.2

variable {pairs : List (String × Json)}

theorem lookup_ofPairs (pairs : List (String × Json)) (key : String) :
    (ofPairs pairs).lookup key = pairs.reverse.lookup key := by
  rw [ofPairs, lookup_setAll, List.lookup_nil, Option.or_none]

theorem Agree.lookup_ofPairs (h : Agree pairs) {p : String × Json} (hp : p ∈ pairs) :
    (ofPairs pairs).lookup p.1 = some p.2 := by
  rw [Members.lookup_ofPairs]
  cases hlast : pairs.reverse.lookup p.1 with
  | none =>
    have hkey : p.1 ∈ pairs.reverse.map Prod.fst :=
      List.mem_map_of_mem (List.mem_reverse.mpr hp)
    exact absurd hkey (lookup_eq_none_iff.mp hlast)
  | some value =>
    have hmem : (p.1, value) ∈ pairs := List.mem_reverse.mp (mem_of_lookup hlast)
    rw [h p hp (p.1, value) hmem rfl]

/-- Setting pairs in turn loses none of them just if they agree. -/
theorem forall_lookup_ofPairs_iff :
    (∀ p ∈ pairs, (ofPairs pairs).lookup p.1 = some p.2) ↔ Agree pairs := by
  refine ⟨fun h p hp q hq hkey => ?_, fun h p hp => h.lookup_ofPairs hp⟩
  have hlookup := h p hp
  rw [hkey, h q hq] at hlookup
  exact (Option.some.inj hlookup).symm

theorem agree_map {α : Type} {xs : List α} {name : α → String} {value : α → Json} :
    Agree (xs.map fun x => (name x, value x)) ↔
      ∀ x ∈ xs, ∀ y ∈ xs, name x = name y → value x = value y := by
  simp only [Agree, List.forall_mem_map]

theorem agree_cons {p : String × Json} :
    Agree (p :: pairs) ↔ (∀ q ∈ pairs, q.1 = p.1 → q.2 = p.2) ∧ Agree pairs := by
  constructor
  · intro h
    obtain ⟨-, hpairs⟩ := List.forall_mem_cons.mp h
    exact ⟨fun q hq => h q (List.mem_cons_of_mem p hq) p (List.mem_cons_self ..),
      fun q hq => (List.forall_mem_cons.mp (hpairs q hq)).2⟩
  · rintro ⟨hfirst, hpairs⟩ q hq q' hq' hkey
    rcases List.mem_cons.mp hq with rfl | hrest
    · rcases List.mem_cons.mp hq' with rfl | hrest'
      · rfl
      · exact (hfirst q' hrest' hkey.symm).symm
    · rcases List.mem_cons.mp hq' with rfl | hrest'
      · exact hfirst q hrest hkey
      · exact hpairs q hrest q' hrest' hkey

end Members

/-- The key that documents are collected by: nothing, the path of one field, or an object with the
path of each of several fields. -/
inductive GroupsBy : List Field → Json → Prop
  | all : GroupsBy [] .null
  | one (f : Field) : GroupsBy [f] (.string f.path)
  | several {fs : List Field} {members : Members} (many : 2 ≤ fs.length)
      (distinct : members.Distinct)
      (paths : ∀ name value, (name, value) ∈ members ↔
        ∃ f ∈ fs, f.name = name ∧ value = .string f.path) : GroupsBy fs (.object members)

theorem groupsBy_groupKey (fs : List Field) : GroupsBy fs (groupKey fs) := by
  match fs with
  | [] => exact .all
  | [f] => exact .one f
  | f :: g :: fs =>
    have hagree : Members.Agree ((f :: g :: fs).map fun f => (f.name, Json.string f.path)) := by
      refine Members.agree_map.mpr fun a _ b _ hname => ?_
      rw [Field.path, Field.path, hname]
    have hdistinct := Members.distinct_ofPairs
      ((f :: g :: fs).map fun f => (f.name, Json.string f.path))
    refine .several (by simp) hdistinct fun name value => ?_
    rw [← Members.lookup_eq_some_iff hdistinct]
    constructor
    · intro hlookup
      rw [Members.lookup_ofPairs] at hlookup
      obtain ⟨a, ha, heq⟩ := List.mem_map.mp (List.mem_reverse.mp (Members.mem_of_lookup hlookup))
      obtain ⟨rfl, rfl⟩ := Prod.mk.inj heq
      exact ⟨a, ha, rfl, rfl⟩
    · rintro ⟨a, ha, rfl, rfl⟩
      exact hagree.lookup_ofPairs (List.mem_map_of_mem ha)

namespace Group

def outputs (g : Group) : List (String × Json) :=
  (internalId, groupKey g.groupBy) ::
    g.accumulators.map fun a => (a.output.name, accumulatorOperator a)

/-- The members have the key of the group and each of its accumulators, under their names. -/
def Carried (g : Group) (members : Members) : Prop :=
  members.lookup internalId = some (groupKey g.groupBy) ∧
    ∀ a ∈ g.accumulators, members.lookup a.output.name = some (accumulatorOperator a)

/-- Two accumulators of one name have the same operator, which is the key where the name is `_id`.
-/
def OutputsAgree (g : Group) : Prop :=
  (∀ a ∈ g.accumulators, a.output.name = internalId → accumulatorOperator a = groupKey g.groupBy) ∧
    ∀ a ∈ g.accumulators, ∀ b ∈ g.accumulators, a.output.name = b.output.name →
      accumulatorOperator a = accumulatorOperator b

theorem agree_outputs_iff (g : Group) : Members.Agree g.outputs ↔ g.OutputsAgree := by
  rw [outputs, Members.agree_cons, Members.agree_map, List.forall_mem_map]
  rfl

theorem carried_iff (g : Group) : g.Carried (Members.ofPairs g.outputs) ↔ g.OutputsAgree := by
  have hentries : (∀ p ∈ g.outputs, (Members.ofPairs g.outputs).lookup p.1 = some p.2) ↔
      g.Carried (Members.ofPairs g.outputs) := by
    generalize Members.ofPairs g.outputs = members
    rw [outputs, List.forall_mem_cons, List.forall_mem_map]
    rfl
  rw [← hentries, Members.forall_lookup_ofPairs_iff, agree_outputs_iff]

end Group

namespace AdditionalField

/-- An entry selects the elements of the source of the field, by the condition of the field. -/
def Computes (a : AdditionalField) (entry : Json) : Prop :=
  ∃ cond, element a.query = .ok cond ∧ entry = .single "$filter" (.object
    [("input", pair "$ifNull" (.string a.querySource.path) (.array [])), ("cond", cond)])

theorem computedField_eq_ok_iff {a : AdditionalField} {p : String × Json} :
    computedField a = .ok p ↔ p.1 = a.fieldToAdd.name ∧ a.Computes p.2 := by
  obtain ⟨name, entry⟩ := p
  constructor
  · intro h
    obtain ⟨cond, hcond, hpure⟩ := exists_of_bind_eq_ok h
    cases hpure
    exact ⟨rfl, cond, hcond, rfl⟩
  · rintro ⟨rfl, cond, hcond, rfl⟩
    rw [computedField, hcond]
    rfl

theorem path_inj {f g : Field} : f.path = g.path ↔ f.name = g.name := by
  refine ⟨fun h => ?_, fun h => by rw [Field.path, h, Field.path]⟩
  have hchars := congrArg String.toList h
  rw [Field.path, Field.path, String.toList_append, String.toList_append] at hchars
  exact String.toList_inj.mp (List.append_cancel_left hchars)

/-- Two fields have one entry just if they have one source and one compiled condition. -/
theorem Computes.eq_iff {a b : AdditionalField} {entry entry' : Json} (ha : a.Computes entry)
    (hb : b.Computes entry') :
    entry = entry' ↔
      a.querySource.name = b.querySource.name ∧ element a.query = element b.query := by
  obtain ⟨cond, hcond, rfl⟩ := ha
  obtain ⟨cond', hcond', rfl⟩ := hb
  rw [hcond, hcond', ← path_inj]
  simp [Json.single, pair]

/-- The members have each computed field under its name. -/
def Carried (fields : List AdditionalField) (members : Members) : Prop :=
  ∀ a ∈ fields, ∃ entry, members.lookup a.fieldToAdd.name = some entry ∧ a.Computes entry

/-- Two computed fields of one name have the same source and the same compiled condition. -/
def OutputsAgree (fields : List AdditionalField) : Prop :=
  ∀ a ∈ fields, ∀ b ∈ fields, a.fieldToAdd.name = b.fieldToAdd.name →
    a.querySource.name = b.querySource.name ∧ element a.query = element b.query

theorem carried_iff {fields : List AdditionalField} {pairs : List (String × Json)}
    (h : fields.mapM computedField = .ok pairs) :
    Carried fields (Members.ofPairs pairs) ↔ OutputsAgree fields := by
  have hcompiled : ∀ a ∈ fields, ∃ entry, a.Computes entry := by
    intro a ha
    obtain ⟨p, hp⟩ := exists_of_mapM_eq_ok h a ha
    exact ⟨p.2, (computedField_eq_ok_iff.mp hp).2⟩
  choose! entry hentry using hcompiled
  have hpairs : pairs = fields.map fun a => (a.fieldToAdd.name, entry a) :=
    Except.ok.inj (h.symm.trans (mapM_eq_ok_map fun a ha =>
      computedField_eq_ok_iff.mpr ⟨rfl, hentry a ha⟩))
  have hcarried : Carried fields (Members.ofPairs pairs) ↔
      ∀ p ∈ pairs, (Members.ofPairs pairs).lookup p.1 = some p.2 := by
    rw [hpairs, List.forall_mem_map]
    refine forall₂_congr fun a ha => ⟨?_, fun hlookup => ⟨entry a, hlookup, hentry a ha⟩⟩
    rintro ⟨other, hlookup, hother⟩
    rwa [(hother.eq_iff (hentry a ha)).mpr ⟨rfl, rfl⟩] at hlookup
  rw [hcarried, Members.forall_lookup_ofPairs_iff, hpairs, Members.agree_map]
  exact forall₂_congr fun a ha => forall₂_congr fun b hb =>
    imp_congr_right fun _ => (hentry a ha).eq_iff (hentry b hb)

end AdditionalField

namespace Native

theorem stage_group {r : Renderer} (hr : r ≠ .base) (g : Group) :
    stage r (.group g) = .ok (.single "$group" (.object (Members.ofPairs g.outputs))) := by
  cases r with
  | base => exact absurd rfl hr
  | _ => rfl

theorem stage_addFields {r : Renderer} (hr : r ≠ .base) (fields : List AdditionalField) :
    stage r (.addFields fields) = addFieldsStage fields := by
  cases r with
  | base => exact absurd rfl hr
  | _ => rfl

/-- A compiled group has the last entry of each of its names, and loses none just if its outputs
agree. Computed fields, which compile unless there is an EXISTS condition against a field in them,
lose none just if theirs agree. -/
theorem outputs_carried_iff {r : Renderer} (hr : r ≠ .base) :
    (∀ g : Group, (Stage.group g).validate = .ok () →
      GroupsBy g.groupBy (groupKey g.groupBy) ∧
      ∃ members, stage r (.group g) = .ok (.single "$group" (.object members)) ∧
        (∀ name, members.lookup name = g.outputs.reverse.lookup name) ∧
        (g.Carried members ↔ g.OutputsAgree)) ∧
    ∀ fields : List AdditionalField, (Stage.addFields fields).validate = .ok () →
      ((∃ native, stage r (.addFields fields) = .ok native) ↔ ∀ a ∈ fields, a.query.Supported) ∧
      ∀ native, stage r (.addFields fields) = .ok native →
        ∃ members, native = .single "$addFields" (.object members) ∧
          (AdditionalField.Carried fields members ↔ AdditionalField.OutputsAgree fields) := by
  refine ⟨fun g _ => ⟨groupsBy_groupKey g.groupBy, _, stage_group hr g,
    Members.lookup_ofPairs g.outputs, g.carried_iff⟩, fun fields hvalid => ⟨?_, ?_⟩⟩
  · exact (decides_stage hr ((Stage.validate_iff _).mp hvalid)).exists_iff
  · intro native hnative
    rw [stage_addFields hr] at hnative
    obtain ⟨pairs, hpairs, hpure⟩ := exists_of_bind_eq_ok hnative
    cases hpure
    exact ⟨Members.ofPairs pairs, rfl, AdditionalField.carried_iff hpairs⟩

/-- Cases by chapter, counted, with the first date of each chapter; then their open and closed
events, which are computed with one condition each. -/
theorem outputs_carried_iff_chapters :
    let counted : Group := ⟨[⟨"chapter", none⟩], [.count ⟨"total", none⟩,
      .first ⟨"dateFiled", none⟩ ⟨"first", none⟩, .count ⟨"total", none⟩]⟩
    let closed (b : Bool) : Expr := .condition ⟨.equals, ⟨"closed", none⟩, .literal (.bool b)⟩
    let fields : List AdditionalField := [⟨⟨"open", none⟩, ⟨"events", none⟩, closed false⟩,
      ⟨⟨"past", none⟩, ⟨"events", none⟩, closed true⟩]
    (∃ members, stage .cosmos (.group counted) = .ok (.single "$group" (.object members)) ∧
        counted.Carried members) ∧
      ∃ members, stage .cosmos (.addFields fields) = .ok (.single "$addFields" (.object members)) ∧
        AdditionalField.Carried fields members := by
  intro counted closed fields
  have hcosmos : Renderer.cosmos ≠ .base := nofun
  obtain ⟨hgroups, hfields⟩ := outputs_carried_iff hcosmos
  constructor
  · obtain ⟨-, members, hstage, -, hiff⟩ := hgroups counted rfl
    have hagree : counted.OutputsAgree := by
      simp [Group.OutputsAgree, counted, Accumulator.output, internalId]
    exact ⟨members, hstage, hiff.mpr hagree⟩
  · obtain ⟨-, hcompiled⟩ := hfields fields rfl
    have hagree : AdditionalField.OutputsAgree fields := by
      simp [AdditionalField.OutputsAgree, fields]
    obtain ⟨members, hnative, hiff⟩ := hcompiled _ rfl
    exact ⟨members, congrArg Except.ok hnative, hiff.mpr hagree⟩

/-- Cases by chapter, counted under the name `_id`: the count takes the place of the chapter. -/
theorem exists_key_lost :
    ¬ ∀ g : Group, (Stage.group g).validate = .ok () →
      ∃ members, stage (.atlas none) (.group g) = .ok (.single "$group" (.object members)) ∧
        g.Carried members := by
  intro h
  let g : Group := ⟨[⟨"chapter", none⟩], [.count ⟨"_id", none⟩]⟩
  obtain ⟨members, hstage, hkey, -⟩ := h g rfl
  cases hstage
  cases hkey

end Native
end DocQuery
