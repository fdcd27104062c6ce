import Mathlib.Data.Set.List
import DocQuery.Proofs.Store.Atomicity
import DocQuery.Proofs.Store.Precedence
import DocQuery.Regex.Engine

/-!
# Sorting by an order

The order of values that a sort compares by is a total preorder, and so is the order of documents by
some keys in their directions. A sort document that gives every key a direction therefore puts
documents into that order and leaves ties as they stand. Any other sort document is refused.
-/
namespace DocQuery

namespace Json

/-- Values that stand in one place of the order of kinds. Objects are of one kind here, with or
without the form of a native identifier. -/
inductive SameKind : Json → Json → Prop where
  | null : SameKind .null .null
  | bool (x y : Bool) : SameKind (.bool x) (.bool y)
  | number (m n : Number) : SameKind (.number m) (.number n)
  | string (s t : String) : SameKind (.string s) (.string t)
  | array (xs ys : List Json) : SameKind (.array xs) (.array ys)
  | object (xs ys : Members) : SameKind (.object xs) (.object ys)

theorem rank_object (members : Members) :
    rank (some (.object members)) = 3 ∨ rank (some (.object members)) = 5 := by
  rw [rank]
  split
  · exact .inr rfl
  · exact .inl rfl

theorem sameKind_of_rank {a b : Json} (h : rank (some a) = rank (some b)) : SameKind a b := by
  cases a with
  | object xs =>
    cases b with
    | object ys => exact .object xs ys
    | _ => rcases rank_object xs with hrank | hrank <;> exact nomatch hrank.symm.trans h
  | _ =>
    cases b with
    | object ys => rcases rank_object ys with hrank | hrank <;> exact nomatch h.trans hrank
    | _ => first | constructor | cases h

/-- What numbers are compared by; each other kind has a key of its own. -/
def numberKey : Option Json → Int
  | some (.number n) => n.toDouble.toInt
  | _ => 0

def stringKey : Option Json → String
  | some (.string s) => s
  | _ => ""

def idKey (v : Option Json) : List Nat :=
  match v.bind ObjectId.ofWire? with
  | some id => id.bytes.map UInt8.toNat
  | none => []

def boolKey : Option Json → Bool
  | some (.bool b) => b
  | _ => false

def kindOrder : Option Json → Option Json → Ordering :=
  compareLex (compareOn numberKey) (compareLex (compareOn stringKey)
    (compareLex (compareOn idKey) (compareOn boolKey)))

theorem compare?_object (xs ys : Members) :
    (object xs).compare? (object ys) =
      (ObjectId.ofWire? (object xs)).bind fun a =>
        (ObjectId.ofWire? (object ys)).map fun b => a.order b := by
  rw [compare?.eq_def]
  cases ObjectId.ofWire? (object xs) <;> cases ObjectId.ofWire? (object ys) <;> rfl

theorem isSome_ofWire? {xs ys : Members}
    (h : rank (some (.object xs)) = rank (some (.object ys))) :
    (ObjectId.ofWire? (.object xs)).isSome = (ObjectId.ofWire? (.object ys)).isSome := by
  simp only [rank] at h
  split at h <;> split at h <;> simp_all

theorem compare?_eq_kindOrder {a b : Json} (h : rank (some a) = rank (some b)) :
    (a.compare? b).getD .eq = kindOrder (some a) (some b) := by
  cases sameKind_of_rank h with
  | null => rfl
  | bool x y => rfl
  | number m n => exact Ordering.then_eq.symm
  | string s t => exact Ordering.then_eq.symm
  | array xs ys => rfl
  | object xs ys =>
    have hform := isSome_ofWire? h
    have hkinds : kindOrder (some (object xs)) (some (object ys)) =
        compare (idKey (some (object xs))) (idKey (some (object ys))) := Ordering.then_eq
    rw [hkinds, compare?_object]
    cases hxs : ObjectId.ofWire? (object xs) with
    | none =>
      have hys : ObjectId.ofWire? (object ys) = none := by
        rw [hxs] at hform
        exact Option.isNone_iff_eq_none.mp (by simpa using hform.symm)
      simp [idKey, hxs, hys]
    | some id =>
      rw [hxs] at hform
      obtain ⟨id', hys⟩ := Option.isSome_iff_exists.mp hform.symm
      simp [idKey, hxs, hys, ObjectId.order]

theorem compare?_null (v : Json) :
    (null.compare? v).getD .eq = .eq ∧ (v.compare? null).getD .eq = .eq := by
  cases v with
  | object members =>
    rw [compare?.eq_def, compare?.eq_def]
    cases ObjectId.ofWire? (object members) <;> exact ⟨rfl, rfl⟩
  | _ => exact ⟨rfl, rfl⟩

theorem sortOrder_getD (a b : Option Json) :
    sortOrder (some (a.getD .null)) (some (b.getD .null)) = sortOrder a b := by
  cases a with
  | none =>
    cases b with
    | none => rfl
    | some b => exact congrArg (Ordering.then _) (compare?_null b).1
  | some a =>
    cases b with
    | none => exact congrArg (Ordering.then _) (compare?_null a).2
    | some b => rfl

/-- Values are compared by their places, and then by what their kind is compared by. -/
theorem sortOrder_eq_compareLex : sortOrder = compareLex (compareOn rank) kindOrder := by
  funext a b
  have hvalues : ∀ x y : Json, sortOrder (some x) (some y) =
      compareLex (compareOn rank) kindOrder (some x) (some y) := by
    intro x y
    change (compare (rank x) (rank y)).then ((x.compare? y).getD .eq) =
      (compare (rank x) (rank y)).then (kindOrder x y)
    by_cases h : rank (some x) = rank (some y)
    · rw [compare?_eq_kindOrder h]
    · cases hrank : compare (rank (some x)) (rank (some y)) with
      | eq => exact absurd (Nat.compare_eq_eq.mp hrank) h
      | lt => rfl
      | gt => rfl
  rw [← sortOrder_getD, hvalues]
  cases a <;> cases b <;> rfl

instance : Std.TransCmp sortOrder := by
  rw [sortOrder_eq_compareLex, kindOrder]
  infer_instance

end Json

section
variable {α β : Type}

/-- An order of some values orders everything that has such values. -/
theorem transCmp_of_values (cmp : β → β → Ordering) [Std.TransCmp cmp] (f : α → β) :
    Std.TransCmp fun a b => cmp (f a) (f b) where
  eq_swap := Std.OrientedCmp.eq_swap
  isLE_trans := Std.TransCmp.isLE_trans

theorem SortDirection.transCmp_orient (d : SortDirection) (cmp : α → α → Ordering)
    [Std.TransCmp cmp] : Std.TransCmp fun a b => d.orient (cmp a b) := by
  cases d with
  | ascending => exact inferInstanceAs (Std.TransCmp cmp)
  | descending =>
    have hswap : (fun a b => (cmp a b).swap) = fun a b => cmp b a := by
      funext a b
      exact Std.OrientedCmp.eq_swap.symm
    change Std.TransCmp fun a b => (cmp a b).swap
    rw [hswap]
    exact Std.TransCmp.opposite

/-- A list is sorted by a comparison when it is in order, has the elements of the original list, and
has those of them that tie in the order that they had there. -/
structure StablySorted (cmp : α → α → Ordering) (original sorted : List α) : Prop where
  perm : sorted.Perm original
  ordered : sorted.Pairwise fun a b => (cmp a b).isLE
  stable : ∀ x, sorted.filter (fun y => cmp x y == .eq) = original.filter fun y => cmp x y == .eq

theorem isLE_total (cmp : α → α → Ordering) [Std.OrientedCmp cmp] (a b : α) :
    ((cmp a b).isLE || (cmp b a).isLE) = true := by
  have hswap : cmp b a = (cmp a b).swap := Std.OrientedCmp.eq_swap
  rw [hswap]
  cases cmp a b <;> rfl

theorem stablySorted_mergeSort (cmp : α → α → Ordering) [Std.TransCmp cmp] (xs : List α) :
    StablySorted cmp xs (xs.mergeSort fun a b => (cmp a b).isLE) := by
  have htrans : ∀ a b c, (cmp a b).isLE → (cmp b c).isLE → (cmp a c).isLE :=
    fun _ _ _ => Std.TransCmp.isLE_trans
  have hperm := List.mergeSort_perm xs fun a b => (cmp a b).isLE
  refine ⟨hperm, List.pairwise_mergeSort htrans (isLE_total cmp) xs, fun x => ?_⟩
  -- The ties of one element are in order as they stand, so sorting keeps them as a sublist.
  have hties : (xs.filter fun y => cmp x y == .eq).Pairwise fun a b => (cmp a b).isLE := by
    refine List.pairwise_of_forall_mem_list fun a ha b hb => ?_
    have hxa : cmp x a = .eq := beq_iff_eq.mp (List.mem_filter.mp ha).2
    have hxb : cmp x b = .eq := beq_iff_eq.mp (List.mem_filter.mp hb).2
    rw [← Std.TransCmp.congr_left hxa, hxb]
    rfl
  have hsub := List.sublist_mergeSort htrans (isLE_total cmp) hties List.filter_sublist
  have hkept := hsub.filter fun y => cmp x y == .eq
  rw [List.filter_filter] at hkept
  simp only [Bool.and_self] at hkept
  exact (hkept.eq_of_length (hperm.filter _).length_eq.symm).symm

end

namespace SortSpec

/-- The document that names the entries of a sort one by one, each with its direction. -/
def document (s : SortSpec) : Json :=
  .object (s.fields.map fun key => (key.field.name, .int key.direction.native))

instance transCmp_order (s : SortSpec) : Std.TransCmp s.order := by
  obtain ⟨fields⟩ := s
  induction fields with
  | nil =>
    have horiented : Std.OrientedCmp (order ⟨[]⟩) := ⟨rfl⟩
    exact ⟨fun _ _ => rfl⟩
  | cons key fields ih =>
    have hvalues : Std.TransCmp fun a b => compareUnder a b key.field.name :=
      transCmp_of_values Json.sortOrder fun d : Json => d.resolve key.field.name
    have hkey : Std.TransCmp key.order :=
      key.direction.transCmp_orient fun a b => compareUnder a b key.field.name
    exact inferInstanceAs (Std.TransCmp (compareLex key.order (order ⟨fields⟩)))

theorem stablySorted_sorted (s : SortSpec) (documents : List Json) :
    StablySorted s.order documents (s.sorted documents) := by
  have hle : (fun a b => s.order a b != .gt) = fun a b => (s.order a b).isLE := by
    funext a b
    cases s.order a b <;> rfl
  rw [sorted, hle]
  exact stablySorted_mergeSort s.order documents

end SortSpec

namespace Documents

theorem sortKeys_document (s : SortSpec) : sortKeys s.document =
    .ok (s.fields.map fun key => ⟨key.field.name, key.direction == .descending⟩) := by
  rw [SortSpec.document, sortKeys, List.mapM_map]
  refine Outcome.mapM_eq_ok_map fun key _ => ?_
  obtain ⟨field, direction⟩ := key
  cases direction <;> rfl

theorem sort_document (s : SortSpec) (documents : List Json) :
    sort s.document documents = .ok (s.sorted documents) := by
  have hkey : ∀ (key : SortedField) (a b : Json),
      SortKey.order ⟨key.field.name, key.direction == .descending⟩ a b = key.order a b := by
    rintro ⟨field, direction⟩ a b
    cases direction <;> rfl
  rw [sort, sortKeys_document]
  simp only [bind, Except.bind, SortKey.orderAll, List.foldr_map, hkey, SortSpec.sorted,
    SortSpec.order, decisive]
  rfl

theorem eq_int_of_asInt? {v : Json} {i : Int} (h : v.asInt? = some i) : v = .int i := by
  cases v with
  | number n =>
    cases n with
    | int j => exact congrArg Json.int (Option.some.inj h)
    | float x => cases h
  | _ => cases h

theorem exists_entry {m : String × Json} {read : SortKey} (h : SortKey.ofMember m = .ok read) :
    ∃ key : SortedField, (key.field.name, .int key.direction.native) = m := by
  obtain ⟨path, direction⟩ := m
  rw [SortKey.ofMember] at h
  split at h
  · rename_i hdirection
    exact ⟨⟨⟨path, none⟩, .ascending⟩, congrArg (path, ·) (eq_int_of_asInt? hdirection).symm⟩
  · rename_i hdirection
    exact ⟨⟨⟨path, none⟩, .descending⟩, congrArg (path, ·) (eq_int_of_asInt? hdirection).symm⟩
  · cases h

/-- A sort document that is accepted names the entries of a sort. -/
theorem exists_eq_document {spec : Json} {read : List SortKey} (h : sortKeys spec = .ok read) :
    ∃ s : SortSpec, spec = s.document := by
  cases spec with
  | object members =>
    have hmembers : members ∈ Set.range
        (List.map fun key : SortedField => (key.field.name, Json.int key.direction.native)) := by
      rw [Set.range_list_map]
      intro m hm
      obtain ⟨read, hread⟩ := Outcome.exists_of_mapM_eq_ok h m hm
      exact exists_entry hread
    obtain ⟨fields, hfields⟩ := hmembers
    exact ⟨⟨fields⟩, congrArg Json.object hfields.symm⟩
  | _ => cases h

section

variable [PatternEngine]

theorem failsAt_find {spec : Json} {fault : CommandFault}
    (h : ∀ documents, sort spec documents = .error fault) (filter : Json)
    (s : Session Collection) : Outcome.FailsAt (Collection.find filter (some spec)) s := by
  refine .bind fun _ t _ => .bind fun found u _ => ?_
  have hsort : Collection.attempt (sort spec (chosen found)) u = (.error (.command fault), u) := by
    rw [Collection.attempt_apply, h]
    rfl
  exact ⟨.command fault, congrArg Prod.fst hsort⟩

/-- The order of values is a total preorder. A sort document that gives every key a direction sorts
any documents stably, by what they have under the keys. Any other one is refused on all documents,
and a search with it fails and leaves the collection as it was. -/
theorem sort_stable :
    ((∀ a, Json.sortOrder a a = .eq) ∧
      (∀ a b, (Json.sortOrder a b).isLE ∨ (Json.sortOrder b a).isLE) ∧
      (∀ a b c, (Json.sortOrder a b).isLE → (Json.sortOrder b c).isLE →
        (Json.sortOrder a c).isLE) ∧
      ∀ a b, (Json.sortOrder a b).swap = Json.sortOrder b a) ∧
    (∀ (s : SortSpec) documents, ∃ sorted, sort s.document documents = .ok sorted ∧
      StablySorted s.order documents sorted) ∧
    ∀ spec, (∀ s : SortSpec, spec ≠ s.document) →
      ∃ fault, (∀ documents, sort spec documents = .error fault) ∧
        ∀ filter s, Outcome.FailsAt (Collection.find filter (some spec)) s ∧
          Collection.stored (Collection.find filter (some spec) s).2 = Collection.stored s := by
  refine ⟨⟨fun a => ?_, fun a b => ?_, fun a b c => Std.TransCmp.isLE_trans, fun a b => ?_⟩,
    fun s documents => ?_, fun spec hspec => ?_⟩
  · exact Std.ReflCmp.compare_self
  · exact Bool.or_eq_true_iff.mp (isLE_total Json.sortOrder a b)
  · exact Std.OrientedCmp.eq_swap.symm
  · exact ⟨_, sort_document s documents, s.stablySorted_sorted documents⟩
  · cases hread : sortKeys spec with
    | ok read =>
      obtain ⟨s, heq⟩ := exists_eq_document hread
      exact absurd heq (hspec s)
    | error fault =>
      have hsort : ∀ documents, sort spec documents = .error fault := by
        intro documents
        rw [sort, hread]
        rfl
      exact ⟨fault, hsort, fun filter s =>
        ⟨failsAt_find hsort filter s, Collection.keeps_find filter (some spec) s⟩⟩

end

/-- A direction of two is no direction. -/
theorem sort_stable_two :
    (∀ s : SortSpec, Json.object [("n", .int 1), ("m", .int 2)] ≠ s.document) ∧
      ∃ fault, (∀ documents,
        sort (.object [("n", .int 1), ("m", .int 2)]) documents = .error fault) := by
  have hspec : ∀ s : SortSpec, Json.object [("n", .int 1), ("m", .int 2)] ≠ s.document := by
    intro s heq
    have hkeys := congrArg sortKeys heq
    rw [sortKeys_document] at hkeys
    cases hkeys
  obtain ⟨fault, hsort, -⟩ := sort_stable.2.2 _ hspec
  exact ⟨hspec, fault, hsort⟩

end Documents
end DocQuery
