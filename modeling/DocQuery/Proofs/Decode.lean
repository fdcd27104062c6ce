import DocQuery.Decode.Basic
import DocQuery.Proofs.Outcome

/-!
# Decoding what is well formed

A record is read from the members of an object in any order, and members that are there as they
were written are read back.
-/
namespace DocQuery

theorem Decode.eq_string_of_ok {v : Json} {s : String} (h : Decode.string v = .ok s) :
    v = .string s := by
  cases v with
  | string s' =>
    cases h
    rfl
  | _ => cases h

namespace Record

variable {α : Type} {r : Record} {name : String} {value : Json → Decoded α} {a : α}

/-- An object whose members pass their checks is what is built from those that are known. -/
theorem decode_known {source : Source} {type : String}
    {fields : List (String × (Json → Decoded Unit))} {build : Record → Decoded α}
    {members : Members}
    (hchecks : ∀ m ∈ members, ∀ check, fields.lookup m.1 = some check → check m.2 = .ok ())
    (hbuild : build ⟨type, fields.map Prod.fst,
      members.filter fun m => (fields.map Prod.fst).contains m.1, false, 0⟩ = .ok a) :
    decode source type fields build (.object members) = .ok a := by
  have hpass : (members.filter fun m => (fields.map Prod.fst).contains m.1).forM
      (checkMember fields) = .ok () := by
    refine Outcome.forM_eq_ok_iff.mpr fun m hm => ?_
    rw [checkMember]
    split
    · next check hlookup => exact hchecks m (List.mem_filter.mp hm).1 check hlookup
    · rfl
  simp only [decode, ofJson, bind, Except.bind]
  split
  · next err herr => cases hpass.symm.trans herr
  · rw [hbuild]
    rfl

theorem decode_object {source : Source} {type : String}
    {fields : List (String × (Json → Decoded Unit))} {build : Record → Decoded α}
    {members : Members} (hknown : ∀ m ∈ members, m.1 ∈ fields.map Prod.fst)
    (hchecks : ∀ m ∈ members, ∀ check, fields.lookup m.1 = some check → check m.2 = .ok ())
    (hbuild : build ⟨type, fields.map Prod.fst, members, false, 0⟩ = .ok a) :
    decode source type fields build (.object members) = .ok a := by
  have hall : members.filter (fun m => (fields.map Prod.fst).contains m.1) = members := by
    refine List.filter_eq_self.mpr fun m hm => ?_
    simpa using hknown m hm
  exact decode_known hchecks (hall.symm ▸ hbuild)

/-- What an object was decoded to is built from those of its members that are known. -/
theorem build_of_decode {source : Source} {type : String}
    {fields : List (String × (Json → Decoded Unit))} {build : Record → Decoded α}
    {members : Members} (h : decode source type fields build (.object members) = .ok a) :
    build ⟨type, fields.map Prod.fst,
      members.filter fun m => (fields.map Prod.fst).contains m.1, false, 0⟩ = .ok a := by
  obtain ⟨r, hr, h⟩ := Outcome.exists_of_bind_eq_ok h
  cases hr
  obtain ⟨-, -, h⟩ := Outcome.exists_of_bind_eq_ok h
  obtain ⟨b, hbuild, h⟩ := Outcome.exists_of_bind_eq_ok h
  obtain ⟨-, -, h⟩ := Outcome.exists_of_bind_eq_ok h
  cases h
  exact hbuild

theorem check_eq_ok {v : Json} (h : value v = .ok a) : check value v = .ok () := by
  rw [check, h]
  rfl

def Passes (fields : List (String × (Json → Decoded Unit))) (m : String × Json) : Prop :=
  ∃ check, fields.lookup m.1 = some check ∧ check m.2 = .ok ()

theorem Passes.of_eq_ok {fields : List (String × (Json → Decoded Unit))} {v : Json}
    (hlookup : fields.lookup name = some (check value)) (h : value v = .ok a) :
    Passes fields (name, v) :=
  ⟨check value, hlookup, check_eq_ok h⟩

theorem decode_of_passes {source : Source} {type : String}
    {fields : List (String × (Json → Decoded Unit))} {build : Record → Decoded α}
    {members : Members} (hmembers : ∀ m ∈ members, Passes fields m)
    (hbuild : build ⟨type, fields.map Prod.fst, members, false, 0⟩ = .ok a) :
    decode source type fields build (.object members) = .ok a := by
  refine decode_object (fun m hm => ?_) (fun m hm check hcheck => ?_) hbuild
  · obtain ⟨check, hlookup, -⟩ := hmembers m hm
    obtain ⟨before, after, hsplit, -⟩ := List.lookup_eq_some_iff.mp hlookup
    rw [hsplit]
    simp
  · obtain ⟨check', hlookup, hpass⟩ := hmembers m hm
    cases hcheck.symm.trans hlookup
    exact hpass

theorem required_eq_ok {v : Json} (hlookup : r.members.lookup name = some v)
    (hv : value v = .ok a) : r.required name value = .ok a := by
  rw [required, hlookup]
  exact hv

theorem lookup_of_required {s : String} (h : r.required name Decode.string = .ok s) :
    r.members.lookup name = some (.string s) := by
  rw [required] at h
  split at h
  · next v hlookup => rw [hlookup, Decode.eq_string_of_ok h]
  · cases h

theorem withDefault_eq_ok {v : Json} {fallback : α} (hlookup : r.members.lookup name = some v)
    (hv : value v = .ok a) : r.withDefault name fallback value = .ok a := by
  rw [withDefault, hlookup]
  exact hv

theorem optional_eq_ok {part : Option α} {write : α → Json}
    (hlookup : r.members.lookup name = part.map write)
    (hnull : ∀ x, part = some x → write x ≠ .null)
    (hread : ∀ x, part = some x → value (write x) = .ok x) : r.optional name value = .ok part := by
  rw [optional, withDefault, hlookup]
  cases part with
  | none => rfl
  | some x =>
    have hx := hread x rfl
    have hne := hnull x rfl
    simp only [Option.map_some]
    cases hw : write x with
    | null => exact absurd hw hne
    | _ =>
      rw [hw] at hx
      simp only [Decode.optional, hx]
      rfl

end Record

namespace Decode

/-- The tag of an object is found and taken off. -/
theorem tagged_object {source : Source} {tag type name : String} {names : List String}
    {members : Members} (hname : name ∈ names) (hmembers : ∀ m ∈ members, m.1 ≠ tag) :
    tagged source tag type names (.object ((tag, .string name) :: members)) =
      .ok (name, .object members) := by
  have hlookup : List.lookup tag ((tag, Json.string name) :: members) = some (.string name) :=
    List.lookup_cons_self
  have hread : tagName source names (.string name) = .ok name := by
    simp [tagName, variantName, hname]
  have hrest : ((tag, Json.string name) :: members).filter (fun m => m.1 != tag) = members := by
    rw [List.filter_cons_of_neg (by simp)]
    exact List.filter_eq_self.mpr fun m hm => bne_iff_ne.mpr (hmembers m hm)
  simp only [tagged, hlookup, hread, hrest]
  rfl

theorem word_nat {bits n : Nat} (h : (n : Int) < (1 : Int) <<< bits) :
    word bits (.nat n) = .ok n := by
  simp only [word, Json.nat]
  rw [if_pos ⟨Int.natCast_nonneg n, h⟩]
  rfl

theorem uint64_uint64 (n : UInt64) : uint64 (.uint64 n) = .ok n := by
  have hbound : (n.toNat : Int) < (1 : Int) <<< 64 := Int.ofNat_lt.mpr n.toNat_lt
  have hword : word 64 (.uint64 n) = .ok n.toNat := word_nat hbound
  rw [uint64, hword]
  exact congrArg Except.ok n.ofNat_toNat

theorem uint32_nat (n : UInt32) : uint32 (.nat n.toNat) = .ok n := by
  have hbound : (n.toNat : Int) < (1 : Int) <<< 32 := Int.ofNat_lt.mpr n.toNat_lt
  have hword : word 32 (.nat n.toNat) = .ok n.toNat := word_nat hbound
  rw [uint32, hword]
  exact congrArg Except.ok n.ofNat_toNat

theorem list_map {α : Type} {write : α → Json} {read : Json → Decoded α} {xs : List α}
    (h : ∀ x ∈ xs, read (write x) = .ok x) : list read (.array (xs.map write)) = .ok xs := by
  have hmap := Outcome.mapM_eq_ok_map (f := fun x => read (write x)) h
  rw [List.map_id'] at hmap
  rw [list, List.mapM_map]
  exact hmap

end Decode

theorem list_component_vectorToJson {vector : List Component}
    (h : ∀ x ∈ vector, x.isFinite = true) :
    Decode.list Decode.component (Component.vectorToJson vector) = .ok vector := by
  refine Decode.list_map fun x hx => ?_
  have hfinite := h x hx
  cases x with
  | finite value => rfl
  | notFinite => cases hfinite

end DocQuery
