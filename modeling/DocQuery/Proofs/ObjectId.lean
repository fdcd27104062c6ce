import Mathlib.Tactic.IntervalCases
import DocQuery.ObjectId

/-!
# Identifiers and their texts

Reading inverts writing, the texts that are read are exactly those of 24 hexadecimal digits, and
the order of the bytes is the order of the texts.
-/
namespace DocQuery

namespace Hex

def IsDigit (c : Char) : Prop :=
  ('0' ≤ c ∧ c ≤ '9') ∨ ('a' ≤ c ∧ c ≤ 'f') ∨ ('A' ≤ c ∧ c ≤ 'F')

instance (c : Char) : Decidable (IsDigit c) :=
  inferInstanceAs (Decidable (_ ∨ _))

theorem digit?_isSome_iff {c : Char} : (digit? c).isSome ↔ IsDigit c := by
  unfold digit? IsDigit
  split_ifs <;> simp_all

theorem digit?_digitChar {n : Nat} (hn : n < 16) : digit? (Nat.digitChar n) = some n := by
  revert n
  decide

theorem digitChar_of_digit? {c : Char} {n : Nat} (h : digit? c = some n) :
    n < 16 ∧ Nat.digitChar n = c.toLower := by
  have hc : Char.ofNat c.toNat = c := Char.ofNat_toNat c
  have hle : ∀ a b : Char, a ≤ b ↔ a.toNat ≤ b.toNat := fun _ _ => Iff.rfl
  unfold digit? at h
  simp only [hle] at h
  generalize c.toNat = k at h hc
  subst hc
  split_ifs at h with hdecimal hlower hupper
  all_goals
    cases h
    simp only [Char.reduceToNat] at *
  · obtain ⟨h₁, h₂⟩ := hdecimal
    interval_cases k <;> decide
  · obtain ⟨h₁, h₂⟩ := hlower
    interval_cases k <;> decide
  · obtain ⟨h₁, h₂⟩ := hupper
    interval_cases k <;> decide

theorem digitChar_lt_iff : ∀ m < 16, ∀ n < 16, Nat.digitChar m < Nat.digitChar n ↔ m < n := by
  decide

theorem digitChar_inj : ∀ m < 16, ∀ n < 16, Nat.digitChar m = Nat.digitChar n ↔ m = n := by
  decide

/-- The digits of two bytes, with more digits behind them, are in the order of the bytes. -/
theorem ofByte_append_lt_iff (a b : UInt8) (cs ds : List Char) :
    ofByte a ++ cs < ofByte b ++ ds ↔ a.toNat < b.toNat ∨ a.toNat = b.toNat ∧ cs < ds := by
  have ha := a.toNat_lt
  have hb := b.toNat_lt
  have hhigh := digitChar_lt_iff (a.toNat / 16) (by omega) (b.toNat / 16) (by omega)
  have hlow := digitChar_lt_iff (a.toNat % 16) (by omega) (b.toNat % 16) (by omega)
  have hhigh' := digitChar_inj (a.toNat / 16) (by omega) (b.toNat / 16) (by omega)
  have hlow' := digitChar_inj (a.toNat % 16) (by omega) (b.toNat % 16) (by omega)
  simp only [ofByte, List.cons_append, List.nil_append, List.cons_lt_cons_iff, hhigh, hlow, hhigh',
    hlow']
  by_cases h : cs < ds
  · simp only [h, and_true]
    omega
  · simp only [h, and_false, or_false]
    omega

end Hex

namespace ObjectId

theorem bytesOfHex?_digits (bytes : List UInt8) :
    bytesOfHex? (bytes.flatMap Hex.ofByte) = some bytes := by
  induction bytes with
  | nil => rfl
  | cons b bytes ih =>
    have hb := b.toNat_lt
    have hhigh := Hex.digit?_digitChar (n := b.toNat / 16) (by omega)
    have hlow := Hex.digit?_digitChar (n := b.toNat % 16) (by omega)
    have hsum : UInt8.ofNat (b.toNat / 16 * 16 + b.toNat % 16) = b := by
      rw [Nat.div_add_mod', UInt8.ofNat_toNat]
    simp only [List.flatMap_cons, Hex.ofByte, List.cons_append, List.nil_append, bytesOfHex?, hhigh,
      hlow, ih, Option.bind_eq_bind, Option.bind_some, hsum, Option.pure_def]

theorem bytesOfHex?_isSome_iff (cs : List Char) :
    (bytesOfHex? cs).isSome ↔ cs.length % 2 = 0 ∧ ∀ c ∈ cs, Hex.IsDigit c := by
  induction cs using bytesOfHex?.induct with
  | case1 => simp [bytesOfHex?]
  | case2 c => simp [bytesOfHex?]
  | case3 a b rest ih =>
    simp only [List.length_cons, List.forall_mem_cons, ← Hex.digit?_isSome_iff] at ih ⊢
    have hlength : (rest.length + 1 + 1) % 2 = rest.length % 2 := by omega
    rw [hlength]
    cases ha : Hex.digit? a <;> cases hb : Hex.digit? b <;> cases hr : bytesOfHex? rest <;>
      simp_all [bytesOfHex?]

theorem digits_of_bytesOfHex? {cs : List Char} {bytes : List UInt8}
    (h : bytesOfHex? cs = some bytes) :
    cs.length = 2 * bytes.length ∧ bytes.flatMap Hex.ofByte = cs.map Char.toLower := by
  induction cs using bytesOfHex?.induct generalizing bytes with
  | case1 =>
    cases h
    exact ⟨rfl, rfl⟩
  | case2 c => cases h
  | case3 a b rest ih =>
    simp only [bytesOfHex?, Option.bind_eq_bind, Option.bind_eq_some_iff] at h
    obtain ⟨m, hm, n, hn, tail, htail, h⟩ := h
    cases h
    obtain ⟨hm16, hmc⟩ := Hex.digitChar_of_digit? hm
    obtain ⟨hn16, hnc⟩ := Hex.digitChar_of_digit? hn
    obtain ⟨hlength, hdigits⟩ := ih htail
    have hbyte : (UInt8.ofNat (m * 16 + n)).toNat = m * 16 + n := by
      rw [UInt8.toNat_ofNat']
      omega
    have hhigh : (m * 16 + n) / 16 = m := by omega
    have hlow : (m * 16 + n) % 16 = n := by omega
    constructor
    · simp only [List.length_cons]
      omega
    · simp only [List.flatMap_cons, Hex.ofByte, hbyte, hhigh, hlow, hmc, hnc, hdigits,
        List.cons_append, List.nil_append, List.map_cons]

theorem toList_hex (id : ObjectId) : id.hex.toList = id.bytes.flatMap Hex.ofByte :=
  String.toList_ofList

theorem parse?_eq_some_iff {s : String} {id : ObjectId} :
    parse? s = some id ↔ bytesOfHex? s.toList = some id.bytes := by
  unfold parse?
  cases h : bytesOfHex? s.toList with
  | none => simp
  | some bytes =>
    obtain ⟨own, hown⟩ := id
    by_cases hlength : bytes.length = 12
    · simp [hlength]
    · simp only [Option.bind_eq_bind, Option.bind_some, hlength, dite_false, Option.some.injEq]
      constructor
      · rintro ⟨⟩
      · rintro rfl
        exact absurd hown hlength

theorem parse?_hex (id : ObjectId) : parse? id.hex = some id := by
  rw [parse?_eq_some_iff, toList_hex]
  exact bytesOfHex?_digits id.bytes

theorem hex_injective : Function.Injective hex := by
  intro a b h
  have hparse := congrArg parse? h
  rw [parse?_hex, parse?_hex] at hparse
  exact Option.some.inj hparse

/-- The texts that are read are those of 24 hexadecimal digits. -/
theorem parse?_isSome_iff (s : String) :
    (parse? s).isSome ↔ s.length = 24 ∧ ∀ c ∈ s.toList, Hex.IsDigit c := by
  have hread := bytesOfHex?_isSome_iff s.toList
  rw [← String.length_toList]
  constructor
  · intro h
    obtain ⟨id, hid⟩ := Option.isSome_iff_exists.mp h
    have hbytes := parse?_eq_some_iff.mp hid
    have hlength := (digits_of_bytesOfHex? hbytes).1
    rw [id.length_eq] at hlength
    rw [hbytes] at hread
    exact ⟨hlength, (hread.mp rfl).2⟩
  · rintro ⟨hlength, hdigits⟩
    obtain ⟨bytes, hbytes⟩ :=
      Option.isSome_iff_exists.mp (hread.mpr ⟨by omega, hdigits⟩)
    have htwelve : bytes.length = 12 := by
      have := (digits_of_bytesOfHex? hbytes).1
      omega
    have hid : parse? s = some ⟨bytes, htwelve⟩ := parse?_eq_some_iff.mpr hbytes
    rw [hid, Option.isSome_some]

/-- The text of what is read is the text in lower case. -/
theorem hex_of_parse? {s : String} {id : ObjectId} (h : parse? s = some id) :
    id.hex = s.toLower := by
  have hdigits := (digits_of_bytesOfHex? (parse?_eq_some_iff.mp h)).2
  rw [← String.toList_inj, toList_hex, hdigits]
  exact String.toList_map.symm

theorem ofWire?_single {key : String} (h : key ≠ wireKey) (v : Json) :
    ObjectId.ofWire? (.single key v) = none := by
  cases v <;> simp [Json.single, ObjectId.ofWire?, h]

theorem ofWire?_eq_some_iff {v : Json} {id : ObjectId} :
    ofWire? v = some id ↔ ∃ text, v = .single wireKey (.string text) ∧ parse? text = some id := by
  constructor
  · intro h
    unfold ofWire? at h
    split at h
    · next key text =>
      split at h
      · next hkey => exact ⟨text, congrArg (Json.single · _) hkey, h⟩
      · cases h
    · cases h
  · rintro ⟨text, rfl, h⟩
    rw [Json.single, ofWire?, if_pos rfl, h]

theorem ofWire?_toWire (id : ObjectId) : ofWire? id.toWire = some id :=
  ofWire?_eq_some_iff.mpr ⟨id.hex, rfl, parse?_hex id⟩

theorem bytes_injective {a b : ObjectId} (h : a.bytes = b.bytes) : a = b := by
  cases a
  cases b
  cases h
  rfl

theorem order_eq_iff {a b : ObjectId} : a.order b = .eq ↔ a = b := by
  rw [order, Std.LawfulEqCmp.compare_eq_iff_eq]
  constructor
  · intro h
    exact bytes_injective (List.map_inj_right (fun _ _ => UInt8.toNat.inj) |>.mp h)
  · rintro rfl
    rfl

theorem compare_bytes_eq_lt_iff {xs ys : List UInt8} (h : xs.length = ys.length) :
    compare (xs.map UInt8.toNat) (ys.map UInt8.toNat) = .lt ↔
      xs.flatMap Hex.ofByte < ys.flatMap Hex.ofByte := by
  induction xs generalizing ys with
  | nil =>
    cases ys with
    | nil => simp
    | cons y ys => cases h
  | cons x xs ih =>
    cases ys with
    | nil => cases h
    | cons y ys =>
      rw [List.map_cons, List.map_cons, List.compare_cons_cons, Ordering.then_eq_lt,
        Nat.compare_eq_lt, Nat.compare_eq_eq, ih (Nat.succ.inj h), List.flatMap_cons,
        List.flatMap_cons, Hex.ofByte_append_lt_iff]

theorem order_eq_lt_iff (a b : ObjectId) : a.order b = .lt ↔ a.hex < b.hex := by
  have hlength : a.bytes.length = b.bytes.length := a.length_eq.trans b.length_eq.symm
  rw [order, compare_bytes_eq_lt_iff hlength, String.lt_iff, toList_hex, toList_hex]

/-- Identifiers are in the order of their texts. -/
theorem order_eq_compare_hex (a b : ObjectId) : a.order b = compare a.hex b.hex := by
  have hlt : ∀ s t : String, compare s t = .lt ↔ s < t := fun _ _ => compareOfLessAndEq_eq_lt
  cases h : a.order b with
  | lt => exact ((hlt _ _).mpr ((order_eq_lt_iff a b).mp h)).symm
  | eq =>
    rw [order_eq_iff.mp h]
    exact (Std.ReflCmp.compare_self).symm
  | gt =>
    have hswap : b.order a = .lt := by
      rw [order] at h ⊢
      exact Std.OrientedCmp.gt_iff_lt.mp h
    exact (Std.OrientedCmp.gt_iff_lt.mpr ((hlt _ _).mpr ((order_eq_lt_iff b a).mp hswap))).symm

end ObjectId
end DocQuery
