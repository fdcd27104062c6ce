import Mathlib.Data.List.Nodup
import DocQuery.Json

/-!
# Members of objects

Setting and removing members, and looking them up. Where no key occurs twice, a lookup does not
depend on the order of the members.
-/
namespace DocQuery.Members

theorem forall_set {P : Json → Prop} {key : String} {value : Json} {members : Members}
    (hvalue : P value) (h : ∀ m ∈ members, P m.2) : ∀ m ∈ set key value members, P m.2 := by
  induction members with
  | nil => simpa [set] using hvalue
  | cons m members ih =>
    obtain ⟨k, v⟩ := m
    obtain ⟨hv, hrest⟩ := List.forall_mem_cons.mp h
    rw [set]
    split
    · exact List.forall_mem_cons.mpr ⟨hvalue, hrest⟩
    · exact List.forall_mem_cons.mpr ⟨hv, ih hrest⟩

theorem forall_setAll {P : Json → Prop} {members : Members} {pairs : List (String × Json)}
    (hpairs : ∀ m ∈ pairs, P m.2) (h : ∀ m ∈ members, P m.2) :
    ∀ m ∈ setAll members pairs, P m.2 := by
  induction pairs generalizing members with
  | nil => exact h
  | cons p pairs ih =>
    obtain ⟨hp, hrest⟩ := List.forall_mem_cons.mp hpairs
    exact ih hrest (forall_set hp h)

variable {members other : Members} {key : String}

def Distinct (members : Members) : Prop := (members.map Prod.fst).Nodup

instance : Decidable members.Distinct := inferInstanceAs (Decidable (members.map Prod.fst).Nodup)

theorem Distinct.perm (h : Distinct members) (hp : members.Perm other) : Distinct other :=
  (hp.map Prod.fst).nodup_iff.mp h

theorem lookup_eq_some_iff (h : Distinct members) {value : Json} :
    members.lookup key = some value ↔ (key, value) ∈ members := by
  induction members with
  | nil => simp
  | cons m members ih =>
    obtain ⟨k, v⟩ := m
    obtain ⟨hk, hrest⟩ := List.nodup_cons.mp h
    have ih' := ih hrest
    by_cases hkey : key = k
    · subst hkey
      have hnot : (key, value) ∉ members := fun hm => hk (List.mem_map.mpr ⟨_, hm, rfl⟩)
      simp [hnot, eq_comm]
    · have hbeq : (key == k) = false := beq_eq_false_iff_ne.mpr hkey
      simp [List.lookup_cons, hbeq, hkey, ih']

theorem lookup_eq_none_iff : members.lookup key = none ↔ key ∉ members.map Prod.fst := by
  simp only [List.lookup_eq_none_iff, bne_iff_ne, List.mem_map, not_exists, not_and]
  exact ⟨fun h m hm heq => h m hm heq.symm, fun h m hm heq => h m hm heq.symm⟩

theorem mem_of_lookup {α : Type} {pairs : List (String × α)} {value : α}
    (h : pairs.lookup key = some value) : (key, value) ∈ pairs := by
  obtain ⟨before, after, rfl, -⟩ := List.lookup_eq_some_iff.mp h
  exact List.mem_append_right before List.mem_cons_self

theorem lookup_perm (h : Distinct members) (hp : members.Perm other) (key : String) :
    members.lookup key = other.lookup key := by
  have hother := h.perm hp
  refine Option.ext fun value => ?_
  rw [lookup_eq_some_iff h, lookup_eq_some_iff hother, hp.mem_iff]

theorem lookup_filter (keep : String → Bool) (members : Members) (key : String) :
    (members.filter fun m => keep m.1).lookup key =
      if keep key then members.lookup key else none := by
  induction members with
  | nil => simp
  | cons m members ih =>
    obtain ⟨k, v⟩ := m
    by_cases hk : key = k
    · subst hk
      cases hkeep : keep key <;> simp [hkeep, ih]
    · have hbeq : (key == k) = false := beq_eq_false_iff_ne.mpr hk
      cases hkeep : keep k <;> simp [List.lookup_cons, hkeep, hbeq, ih]

theorem lookup_filter_keys {keep : String → Bool} (h : keep key = true) (members : Members) :
    (members.filter fun m => keep m.1).lookup key = members.lookup key := by
  rw [lookup_filter, h, if_pos rfl]

theorem Distinct.filter (h : Distinct members) (keep : String × Json → Bool) :
    Distinct (members.filter keep) :=
  h.sublist (List.filter_sublist.map Prod.fst)

/-- Members are told by their lookups, up to their order. -/
theorem perm_of_lookup_eq (h : Distinct members) (h' : Distinct other)
    (hlookup : ∀ key, members.lookup key = other.lookup key) : members.Perm other := by
  refine (List.perm_ext_iff_of_nodup h.of_map h'.of_map).mpr fun m => ?_
  rw [← lookup_eq_some_iff h, ← lookup_eq_some_iff h', hlookup]

theorem contains_eq_isSome (members : Members) (key : String) :
    members.contains key = (members.lookup key).isSome := by
  induction members with
  | nil => rfl
  | cons m members ih =>
    obtain ⟨k, v⟩ := m
    by_cases hk : key = k
    · simp [contains, hk]
    · have hbeq : (key == k) = false := beq_eq_false_iff_ne.mpr hk
      have hbeq' : (k == key) = false := beq_eq_false_iff_ne.mpr (Ne.symm hk)
      rw [List.lookup_cons, hbeq, ← ih, contains, List.any_cons, hbeq', Bool.false_or]
      rfl

theorem set_of_not_mem (h : key ∉ members.map Prod.fst) (value : Json) :
    set key value members = members ++ [(key, value)] := by
  induction members with
  | nil => rfl
  | cons m members ih =>
    obtain ⟨k, v⟩ := m
    obtain ⟨hk, hrest⟩ := not_or.mp (List.mem_cons.not.mp h)
    rw [set, if_neg (Ne.symm hk), ih hrest, List.cons_append]

theorem lookup_set_self (key : String) (value : Json) (members : Members) :
    (set key value members).lookup key = some value := by
  induction members with
  | nil => simp [set]
  | cons m members ih =>
    obtain ⟨k, v⟩ := m
    rw [set]
    by_cases hk : k = key
    · simp [hk]
    · have hbeq : (key == k) = false := beq_eq_false_iff_ne.mpr (Ne.symm hk)
      rw [if_neg hk, List.lookup_cons, hbeq, ih]

theorem lookup_set_of_ne {other : String} (h : other ≠ key) (value : Json) (members : Members) :
    (set key value members).lookup other = members.lookup other := by
  have hbeq : (other == key) = false := beq_eq_false_iff_ne.mpr h
  induction members with
  | nil => simp [set, List.lookup_cons, hbeq]
  | cons m members ih =>
    obtain ⟨k, v⟩ := m
    rw [set]
    by_cases hk : k = key
    · simp [hk, List.lookup_cons, hbeq]
    · rw [if_neg hk, List.lookup_cons, List.lookup_cons, ih]

/-- Of several values that are set for a key the last one stays. -/
theorem lookup_setAll (pairs : List (String × Json)) (members : Members) (key : String) :
    (setAll members pairs).lookup key = (pairs.reverse.lookup key).or (members.lookup key) := by
  induction pairs generalizing members with
  | nil => rfl
  | cons p pairs ih =>
    have hset : (set p.1 p.2 members).lookup key = ([p].lookup key).or (members.lookup key) := by
      by_cases hkey : key = p.1
      · subst hkey
        rw [lookup_set_self, List.lookup_cons_self]
        rfl
      · have hbeq : (key == p.1) = false := beq_eq_false_iff_ne.mpr hkey
        rw [lookup_set_of_ne hkey, List.lookup_cons, hbeq]
        rfl
    rw [List.reverse_cons, List.lookup_append, Option.or_assoc, ← hset]
    exact ih _

theorem lookup_setAll_of_not_mem {pairs : List (String × Json)} (h : key ∉ pairs.map Prod.fst)
    (members : Members) : (setAll members pairs).lookup key = members.lookup key := by
  have hnone : pairs.reverse.lookup key = none := by
    rw [lookup_eq_none_iff, List.map_reverse, List.mem_reverse]
    exact h
  rw [lookup_setAll, hnone, Option.none_or]

theorem mem_keys_set {value : Json} {other : String} :
    other ∈ (set key value members).map Prod.fst ↔ other = key ∨ other ∈ members.map Prod.fst := by
  induction members with
  | nil => simp [set]
  | cons m members ih =>
    obtain ⟨k, v⟩ := m
    rw [set]
    by_cases hk : k = key
    · simp [hk]
    · rw [if_neg hk, List.map_cons, List.mem_cons, ih, List.map_cons, List.mem_cons]
      exact or_left_comm

theorem Distinct.set (h : Distinct members) (key : String) (value : Json) :
    Distinct (set key value members) := by
  induction members with
  | nil => exact List.nodup_singleton key
  | cons m members ih =>
    obtain ⟨k, v⟩ := m
    obtain ⟨hk, hrest⟩ := List.nodup_cons.mp h
    rw [Members.set]
    split
    · exact h
    · next hne =>
      refine List.nodup_cons.mpr ⟨fun hmem => ?_, ih hrest⟩
      rcases mem_keys_set.mp hmem with heq | hmem
      · exact hne heq
      · exact hk hmem

theorem Distinct.setAll (h : Distinct members) (pairs : List (String × Json)) :
    Distinct (setAll members pairs) := by
  induction pairs generalizing members with
  | nil => exact h
  | cons p pairs ih => exact ih (h.set p.1 p.2)

theorem distinct_ofPairs (pairs : List (String × Json)) : Distinct (ofPairs pairs) :=
  Distinct.setAll (show Distinct [] from List.nodup_nil) pairs

theorem swapRemove_perm_eraseP (key : String) (members : Members) :
    (swapRemove key members).Perm (members.eraseP fun m => m.1 == key) := by
  induction members with
  | nil => exact .nil
  | cons m members ih =>
    obtain ⟨k, v⟩ := m
    rw [swapRemove]
    by_cases hk : k = key
    · rw [if_pos hk, List.eraseP_cons_of_pos (by simpa using hk)]
      cases hlast : members.getLast? with
      | none => rw [List.getLast?_eq_none_iff.mp hlast]
      | some last =>
        have hsplit := List.dropLast_append_getLast? last hlast
        have hmove : (last :: members.dropLast).Perm (members.dropLast ++ [last]) :=
          (List.perm_append_singleton _ _).symm
        rwa [hsplit] at hmove
    · rw [if_neg hk, List.eraseP_cons_of_neg (by simpa using hk)]
      exact ih.cons _

theorem swapRemove_perm {value : Json} (h : Distinct ((key, value) :: other))
    (hp : members.Perm ((key, value) :: other)) : (swapRemove key members).Perm other := by
  have hmembers := h.perm hp.symm
  have hpairwise : members.Pairwise fun a b =>
      (a.1 == key) = true → (b.1 == key) = true → False := by
    refine (List.pairwise_map.mp hmembers).imp fun hne ha hb => hne ?_
    rw [beq_iff_eq.mp ha, beq_iff_eq.mp hb]
  have herase := hp.eraseP (fun m => m.1 == key) hpairwise
  rw [List.eraseP_cons_of_pos (by simp)] at herase
  exact (swapRemove_perm_eraseP key members).trans herase

theorem Distinct.swapRemove (h : Distinct members) (key : String) :
    Distinct (swapRemove key members) := by
  have herase : Distinct (members.eraseP fun m => m.1 == key) :=
    h.sublist (List.eraseP_sublist.map Prod.fst)
  exact herase.perm (swapRemove_perm_eraseP key members).symm

theorem lookup_swapRemove_self (h : Distinct members) (key : String) :
    (swapRemove key members).lookup key = none := by
  have herase : (members.eraseP fun m => m.1 == key).map Prod.fst =
      (members.map Prod.fst).erase key := by
    rw [List.erase_eq_eraseP', List.eraseP_map]
    rfl
  rw [lookup_eq_none_iff, ((swapRemove_perm_eraseP key members).map Prod.fst).mem_iff, herase]
  exact h.not_mem_erase

theorem lookup_swapRemove_of_ne (h : Distinct members) {other : String} (hne : other ≠ key) :
    (swapRemove key members).lookup other = members.lookup other := by
  refine Option.ext fun value => ?_
  have hkept : (other, value) ∈ swapRemove key members ↔ (other, value) ∈ members := by
    rw [(swapRemove_perm_eraseP key members).mem_iff]
    exact List.mem_eraseP_of_neg (by simpa using hne)
  rw [lookup_eq_some_iff (h.swapRemove key), lookup_eq_some_iff h, hkept]

end DocQuery.Members
