import DocQuery.Proofs.Path
import DocQuery.Proofs.Store.Paging

/-!
# The precedence of sort keys

A sort compares documents by its entries in their order, each in its own direction. Its native
document has one member for a name, in the place of the first entry of that name and with the
direction of the last, so the two orders agree where no name changes its direction.
-/
namespace DocQuery

def decisive (comparisons : List Ordering) : Ordering := comparisons.foldr Ordering.then .eq

theorem decisive_eq_find? {α : Type} (f : α → Ordering) (xs : List α) :
    decisive (xs.map f) = ((xs.find? fun x => f x != .eq).map f).getD .eq := by
  induction xs with
  | nil => rfl
  | cons x xs ih =>
    rw [List.map_cons, decisive, List.foldr_cons, ← decisive, ih, List.find?_cons]
    cases hx : f x with
    | eq => rfl
    | lt => exact hx.symm
    | gt => exact hx.symm

namespace Members

variable (f : String → Ordering) (members : Members)

theorem decisive_set (key : String) (value : Json) :
    decisive ((set key value members).map fun m => f m.1) =
      (decisive (members.map fun m => f m.1)).then (f key) := by
  induction members with
  | nil => cases hkey : f key <;> simp [set, decisive, hkey]
  | cons m members ih =>
    obtain ⟨k, v⟩ := m
    rw [set]
    by_cases hk : k = key
    · subst hk
      rw [if_pos rfl]
      simp only [List.map_cons, decisive, List.foldr_cons]
      cases f k <;> simp
    · rw [if_neg hk, List.map_cons, decisive, List.foldr_cons, ← decisive, ih,
        ← Ordering.then_assoc]
      rfl

theorem decisive_setAll (pairs : List (String × Json)) :
    decisive ((setAll members pairs).map fun m => f m.1) =
      (decisive (members.map fun m => f m.1)).then (decisive (pairs.map fun p => f p.1)) := by
  induction pairs generalizing members with
  | nil => simp [setAll, decisive]
  | cons p pairs ih =>
    have hrest := ih (set p.1 p.2 members)
    rw [decisive_set, Ordering.then_assoc] at hrest
    exact hrest

theorem decisive_ofPairs (pairs : List (String × Json)) :
    decisive ((ofPairs pairs).map fun m => f m.1) = decisive (pairs.map fun p => f p.1) := by
  rw [ofPairs, decisive_setAll]
  rfl

end Members

def SortDirection.orient : SortDirection → Ordering → Ordering
  | .ascending, o => o
  | .descending, o => o.swap

theorem SortDirection.orient_bne_eq (d : SortDirection) (o : Ordering) :
    (d.orient o != .eq) = (o != .eq) := by
  cases d <;> cases o <;> rfl

def compareUnder (a b : Json) (name : String) : Ordering :=
  Json.sortOrder (a.resolve name) (b.resolve name)

def SortedField.order (key : SortedField) (a b : Json) : Ordering :=
  key.direction.orient (compareUnder a b key.field.name)

namespace SortSpec

/-- Compares two documents by the entries of a sort, the first entry before all others. -/
def order (s : SortSpec) (a b : Json) : Ordering := decisive (s.fields.map fun key => key.order a b)

def sorted (s : SortSpec) (documents : List Json) : List Json :=
  documents.mergeSort fun a b => s.order a b != .gt

def directions (s : SortSpec) : List (String × SortDirection) :=
  s.fields.map fun key => (key.field.name, key.direction)

def first? (s : SortSpec) (name : String) : Option SortDirection := s.directions.lookup name

def last? (s : SortSpec) (name : String) : Option SortDirection := s.directions.reverse.lookup name

def settle (s : SortSpec) (key : SortedField) : SortedField :=
  { key with direction := (s.last? key.field.name).getD key.direction }

/-- The sort in which every entry of a name has the direction of the last one. -/
def settled (s : SortSpec) : SortSpec := ⟨s.fields.map s.settle⟩

variable (s : SortSpec) {name : String}

theorem order_eq_find? (a b : Json) :
    s.order a b = ((s.fields.find? fun key => compareUnder a b key.field.name != .eq).map
      fun key => key.order a b).getD .eq := by
  rw [order, decisive_eq_find?]
  simp only [SortedField.order, SortDirection.orient_bne_eq]

theorem first?_of_find? {s : SortSpec} {p : String → Bool} {key : SortedField}
    (h : s.fields.find? (fun key => p key.field.name) = some key) :
    s.first? key.field.name = some key.direction := by
  obtain ⟨hp, before, after, hfields, hbefore⟩ := List.find?_eq_some_iff_append.mp h
  have hnone : (before.map fun k => (k.field.name, k.direction)).lookup key.field.name = none := by
    rw [List.lookup_eq_none_iff]
    intro entry hentry
    obtain ⟨k, hk, rfl⟩ := List.mem_map.mp hentry
    have hpk := hbefore k hk
    simp only [bne_iff_ne, ne_eq]
    intro heq
    rw [← heq, hp] at hpk
    cases hpk
  rw [first?, directions, hfields, List.map_append, List.lookup_append, hnone, Option.none_or,
    List.map_cons, List.lookup_cons_self]

theorem exists_last? {key : SortedField} (h : key ∈ s.fields) :
    ∃ d, s.last? key.field.name = some d := by
  cases hlast : s.last? key.field.name with
  | some d => exact ⟨d, rfl⟩
  | none =>
    have hmem : (key.field.name, key.direction) ∈ s.directions.reverse :=
      List.mem_reverse.mpr (List.mem_map_of_mem h)
    have hne := List.lookup_eq_none_iff.mp hlast _ hmem
    simp at hne

theorem order_settled_eq_find? (a b : Json) :
    s.settled.order a b = ((s.fields.find? fun key => compareUnder a b key.field.name != .eq).map
      fun key => (s.settle key).order a b).getD .eq := by
  rw [order_eq_find?, settled, List.find?_map, Option.map_map]
  rfl

theorem order_settled (h : ∀ name, s.first? name = s.last? name) (a b : Json) :
    s.settled.order a b = s.order a b := by
  rw [order_settled_eq_find?, order_eq_find?]
  cases hkey : s.fields.find? fun key => compareUnder a b key.field.name != .eq with
  | none => rfl
  | some key =>
    have hfirst := first?_of_find? (p := fun name => compareUnder a b name != .eq) hkey
    have hsettle : s.settle key = key := by
      rw [settle, ← h, hfirst]
      rfl
    simp only [Option.map_some, hsettle]

end SortSpec

namespace Documents

theorem sort_eq_sorted (s : SortSpec) (documents : List Json) :
    sort (Native.sort s) documents = .ok (sorted (compiledKeys s) documents) := by
  rw [sort, sortKeys_sort]
  rfl

theorem lookup_map_snd {α β : Type} (f : α → β) (entries : List (String × α)) (name : String) :
    (entries.map fun e => (e.1, f e.2)).lookup name = (entries.lookup name).map f := by
  induction entries with
  | nil => rfl
  | cons e entries ih =>
    rw [List.map_cons, List.lookup_cons, List.lookup_cons, ih]
    cases name == e.1 <;> rfl

theorem last?_of_mem {s : SortSpec} {m : String × Json} (hm : m ∈ compiled s) :
    ∃ d, s.last? m.1 = some d ∧ m.2 = .int d.native := by
  have hpairs : (s.fields.map fun key => (key.field.name, Json.int key.direction.native)) =
      s.directions.map fun e => (e.1, .int e.2.native) := by
    rw [SortSpec.directions, List.map_map]
    rfl
  have hlookup := (Members.lookup_eq_some_iff (Members.distinct_ofPairs _)).mpr hm
  rw [Members.ofPairs, Members.lookup_setAll, List.lookup_nil, Option.or_none, hpairs,
    ← List.map_reverse, lookup_map_snd fun d : SortDirection => Json.int d.native] at hlookup
  obtain ⟨d, hd, hvalue⟩ := Option.map_eq_some_iff.mp hlookup
  exact ⟨d, hd, hvalue.symm⟩

/-- Both the member and every entry of a name compare in the last direction of the name. -/
theorem orderAll_compiledKeys (s : SortSpec) (a b : Json) :
    SortKey.orderAll (compiledKeys s) a b = s.settled.order a b := by
  let f (name : String) : Ordering :=
    ((s.last? name).getD .ascending).orient (compareUnder a b name)
  have hmember : ∀ m ∈ compiled s,
      SortKey.order ⟨m.1, m.2.asInt? == some (-1)⟩ a b = f m.1 := by
    intro m hm
    obtain ⟨d, hd, hvalue⟩ := last?_of_mem hm
    simp only [f, hd, hvalue, Option.getD_some]
    cases d <;> rfl
  have hentry : ∀ key ∈ s.fields, (s.settle key).order a b = f key.field.name := by
    intro key hkey
    obtain ⟨d, hd⟩ := s.exists_last? hkey
    simp only [f, SortedField.order, SortSpec.settle, hd, Option.getD_some]
  calc SortKey.orderAll (compiledKeys s) a b
      = decisive ((compiled s).map fun m => SortKey.order ⟨m.1, m.2.asInt? == some (-1)⟩ a b) := by
        rw [SortKey.orderAll, compiledKeys, decisive, List.foldr_map, List.foldr_map]
    _ = decisive ((compiled s).map fun m => f m.1) := by rw [List.map_congr_left hmember]
    _ = decisive (s.fields.map fun key => f key.field.name) := by
        rw [compiled, Members.decisive_ofPairs, List.map_map]
        rfl
    _ = decisive (s.fields.map fun key => (s.settle key).order a b) := by
        rw [List.map_congr_left hentry]
    _ = s.settled.order a b := by
        rw [SortSpec.order, SortSpec.settled, List.map_map]
        rfl

theorem sort_settled (s : SortSpec) (documents : List Json) :
    sort (Native.sort s) documents = .ok (s.settled.sorted documents) := by
  simp only [sort_eq_sorted, sorted, SortSpec.sorted, orderAll_compiledKeys]

end Documents

theorem ofWire?_nested_cons (key : String) (keys : List String) (i : Int) :
    ObjectId.ofWire? (Json.nested (key :: keys) (.int i)) = none := by
  cases keys <;> rfl

/-- Objects on the way to the end of a path count as equal, and past the end nothing is found. -/
theorem sortOrder_follow_nested {keys other : List String} (h : other ≠ keys) (i j : Int) :
    Json.sortOrder ((Json.nested keys (.int i)).follow other)
      ((Json.nested keys (.int j)).follow other) = .eq := by
  induction keys generalizing other with
  | nil =>
    cases other with
    | nil => exact absurd rfl h
    | cons k rest => rfl
  | cons key keys ih =>
    cases other with
    | nil =>
      have hi := ofWire?_nested_cons key keys i
      have hj := ofWire?_nested_cons key keys j
      simp only [Json.nested, List.foldr_cons, Json.single] at hi hj
      simp [Json.follow, Json.nested, Json.single, Json.sortOrder, Json.rank, Json.compare?, hi, hj]
    | cons k rest =>
      simp only [Json.follow_cons, Json.nested, List.foldr_cons, Json.get?_single]
      by_cases hk : k = key
      · simp only [hk, if_true]
        exact ih fun heq => h (by rw [hk, heq])
      · simp only [hk, if_false]
        rfl

/-- A document with one number, at the end of the path of a name. -/
def ranked (name : String) (i : Int) : Json := Json.nested (Path.keys name) (.int i)

theorem resolve_ranked (name : String) (i : Int) :
    (ranked name i).resolve name = some (.int i) := by
  rw [Json.resolve_eq_follow, ranked, Json.follow_nested]

theorem compareUnder_ranked (name other : String) :
    compareUnder (ranked name 1) (ranked name 2) other = if other = name then .lt else .eq := by
  by_cases h : other = name
  · subst h
    rw [if_pos rfl, compareUnder, resolve_ranked, resolve_ranked]
    decide +kernel
  · rw [if_neg h]
    exact sortOrder_follow_nested (fun heq => h (Path.keys_injective heq)) 1 2

namespace SortSpec

variable {s : SortSpec} {name : String}

theorem find?_ranked {d : SortDirection} (h : s.first? name = some d) :
    ∃ key ∈ s.fields, key.field.name = name ∧ key.direction = d ∧ (s.fields.find? fun key =>
      compareUnder (ranked name 1) (ranked name 2) key.field.name != .eq) = some key := by
  cases hfind : s.fields.find? fun key =>
      compareUnder (ranked name 1) (ranked name 2) key.field.name != .eq with
  | none =>
    have hnone : s.first? name = none := by
      rw [first?, List.lookup_eq_none_iff]
      intro entry hentry
      obtain ⟨key, hkey, rfl⟩ := List.mem_map.mp hentry
      have htie := List.find?_eq_none.mp hfind key hkey
      rw [compareUnder_ranked] at htie
      simp only [bne_iff_ne, ne_eq]
      rintro rfl
      exact htie (by rw [if_pos rfl]; rfl)
    cases hnone.symm.trans h
  | some key =>
    have hapart := List.find?_some hfind
    have hname : key.field.name = name := by
      by_contra hne
      rw [compareUnder_ranked, if_neg hne] at hapart
      cases hapart
    have hfirst := first?_of_find?
      (p := fun other => compareUnder (ranked name 1) (ranked name 2) other != .eq) hfind
    rw [hname] at hfirst
    exact ⟨key, List.mem_of_find?_eq_some hfind, hname,
      Option.some.inj (hfirst.symm.trans h), rfl⟩

theorem order_ranked {d d' : SortDirection} (h : s.first? name = some d)
    (h' : s.last? name = some d') :
    s.order (ranked name 1) (ranked name 2) = d.orient .lt ∧
      s.settled.order (ranked name 1) (ranked name 2) = d'.orient .lt := by
  obtain ⟨key, -, rfl, rfl, hfind⟩ := find?_ranked h
  rw [order_eq_find?, order_settled_eq_find?, hfind]
  simp only [Option.map_some, Option.getD_some, SortedField.order, settle, h',
    compareUnder_ranked, if_true, and_self]

theorem sorted_pair (s : SortSpec) (a b : Json) :
    s.sorted [a, b] = if s.order a b != .gt then [a, b] else [b, a] := by
  simp [sorted, List.mergeSort, List.merge]

/-- A sort that orders all documents as its native document does has no name that changes its
direction: two documents that the name tells apart would be sorted the other way round. -/
theorem first?_eq_last? (h : ∀ documents,
      Documents.sort (Native.sort s) documents = .ok (s.sorted documents)) (name : String) :
    s.first? name = s.last? name := by
  cases hfirst : s.first? name with
  | none =>
    have hlast : s.last? name = none := by
      simp only [first?, last?, List.lookup_eq_none_iff, List.mem_reverse] at hfirst ⊢
      exact hfirst
    exact hlast.symm
  | some d =>
    obtain ⟨key, hkey, rfl, -, -⟩ := find?_ranked hfirst
    obtain ⟨d', hlast⟩ := s.exists_last? hkey
    obtain ⟨horder, hsettled⟩ := order_ranked hfirst hlast
    have hsorted := Except.ok.inj ((Documents.sort_settled s _).symm.trans
      (h [ranked key.field.name 1, ranked key.field.name 2]))
    have hne : ranked key.field.name 1 ≠ ranked key.field.name 2 := by
      intro heq
      have hresolve := congrArg (Json.resolve · key.field.name) heq
      simp only [resolve_ranked] at hresolve
      cases hresolve
    rw [sorted_pair, sorted_pair, horder, hsettled] at hsorted
    rw [hlast]
    cases d <;> cases d'
    · rfl
    · exact absurd (List.cons.inj hsorted).1 hne.symm
    · exact absurd (List.cons.inj hsorted).1 hne
    · rfl

/-- The engine sorts by the settled sort. That is the order that the sort asks for, on all
documents, just if no name has one direction first and another one last. -/
theorem sort_precedence (s : SortSpec) :
    (∀ documents, Documents.sort (Native.sort s) documents = .ok (s.settled.sorted documents)) ∧
      ((∀ documents, Documents.sort (Native.sort s) documents = .ok (s.sorted documents)) ↔
        ∀ name, s.first? name = s.last? name) := by
  refine ⟨Documents.sort_settled s, first?_eq_last?, fun h documents => ?_⟩
  rw [Documents.sort_settled, sorted, sorted]
  simp only [order_settled s h]

/-- Ascending by a field and then descending by it: the engine sorts descending. -/
theorem exists_sort_reversed :
    ¬ ∀ (s : SortSpec) (documents : List Json),
      Documents.sort (Native.sort s) documents = .ok (s.sorted documents) := by
  intro h
  let a : Field := ⟨"a", none⟩
  let s : SortSpec := ⟨[⟨a, .ascending⟩, ⟨a, .descending⟩]⟩
  let d (i : Int) : Json := .object [("a", .int i)]
  have hasked : s.sorted [d 1, d 2] = [d 1, d 2] := by
    have horder : s.order (d 1) (d 2) = .lt := by decide +kernel
    rw [sorted_pair, horder]
    rfl
  have hsorted : s.settled.sorted [d 1, d 2] = [d 2, d 1] := by
    have horder : s.settled.order (d 1) (d 2) = .gt := by decide +kernel
    rw [sorted_pair, horder]
    rfl
  have heq := Except.ok.inj ((Documents.sort_settled s _).symm.trans (h s [d 1, d 2]))
  rw [hasked, hsorted] at heq
  have hvalues := congrArg (List.map fun x => (x.get? "a").bind Json.asInt?) heq
  revert hvalues
  decide

end SortSpec
end DocQuery
