import Mathlib.Data.Nat.Bitwise
import DocQuery.Regex.Match

/-!
# Patterns of a beginning

A pattern of a text start and then single characters matches just the texts that begin with these
characters. A set of positions is read bit by bit.
-/
namespace DocQuery.Regex

theorem testBit_positions (marks : List Bool) (i : Nat) :
    (positions marks).testBit i = marks[i]?.getD false := by
  induction marks generalizing i with
  | nil => simp [positions]
  | cons b marks ih =>
    have hbit : positions (b :: marks) = Nat.bit b (positions marks) := by
      rw [Nat.bit_val]
      rfl
    rw [hbit]
    cases i with
    | zero => simp
    | succ i => rw [Nat.testBit_bit_succ, ih, List.getElem?_cons_succ]

/-- The positions that a pattern reaches in a text from a set of them. -/
def reached (text : List Char) (p : Pattern) (starts : Nat) : Nat :=
  ends text.length (p.flat.map (Test.on text.toArray)) starts

variable {text : List Char} {starts : Nat}

theorem reached_empty : reached text .empty starts = starts := rfl

theorem reached_andThen (p q : Pattern) :
    reached text (p.andThen q) starts = reached text q (reached text p starts) := by
  cases p with
  | empty => rfl
  | _ => cases q <;> rfl

theorem isMatch_iff (p : Pattern) (s : String) :
    isMatch p s = true ↔
      ∃ i, (reached s.toList p (2 ^ (s.toList.length + 1) - 1)).testBit i = true := by
  have hmatch : isMatch p s = (reached s.toList p (2 ^ (s.toList.length + 1) - 1) != 0) := by
    rw [isMatch, reached, List.size_toArray, Nat.one_shiftLeft]
  rw [hmatch, bne_iff_ne]
  refine ⟨Nat.exists_testBit_of_ne_zero, ?_⟩
  rintro ⟨i, hi⟩ hzero
  rw [hzero, Nat.zero_testBit] at hi
  cases hi

theorem testBit_reached_char (set : CharSet) (j : Nat) :
    (reached text (Pattern.char set) starts).testBit j = true ↔
      ∃ i c, j = i + 1 ∧ starts.testBit i = true ∧ text[i]? = some c ∧ set.contains c = true := by
  have hstep : reached text (Pattern.char set) starts =
      (starts &&& positions (text.map set.contains)) <<< 1 := rfl
  rw [hstep, Nat.testBit_shiftLeft, Nat.testBit_and, testBit_positions, List.getElem?_map]
  cases j with
  | zero => simp
  | succ i =>
    rw [Nat.add_sub_cancel]
    cases htext : text[i]? with
    | none => simp [htext]
    | some c => simp [htext]

theorem testBit_reached_textStart (j : Nat) :
    (reached text (Pattern.anchor .textStart) starts).testBit j = true ↔
      j = 0 ∧ starts.testBit 0 = true := by
  let marks : List Bool :=
    (List.range (text.length + 1)).map fun i => Anchor.holds text.toArray i .textStart
  have hstep : reached text (Pattern.anchor .textStart) starts = starts &&& positions marks := rfl
  have hmark : marks[j]?.getD false = true ↔ j = 0 := by
    constructor
    · intro h
      by_contra hj
      have hpos : 0 < j := Nat.pos_of_ne_zero hj
      by_cases hlt : j < text.length + 1
      · obtain ⟨c, hbefore⟩ : ∃ c, text[j - 1]? = some c :=
          ⟨_, List.getElem?_eq_getElem (by omega)⟩
        simp [marks, hlt, Anchor.holds, hj, hbefore] at h
      · simp [marks, hlt] at h
    · rintro rfl
      simp [marks, Anchor.holds]
  rw [hstep, Nat.testBit_and, testBit_positions, Bool.and_eq_true, hmark]
  constructor
  · rintro ⟨hstarts, rfl⟩
    exact ⟨rfl, hstarts⟩
  · rintro ⟨rfl, hstarts⟩
    exact ⟨hstarts, rfl⟩

theorem contains_single (c d : Char) : (CharSet.single c).contains d = true ↔ d = c := by
  simp only [CharSet.single, CharSet.contains, Bool.and_eq_true, decide_eq_true_eq]
  refine ⟨fun ⟨hle, hge⟩ => Char.toNat_inj.mp (Nat.le_antisymm hge hle), ?_⟩
  rintro rfl
  exact ⟨Nat.le_refl _, Nat.le_refl _⟩

def literals : List Char → Pattern
  | [] => .empty
  | c :: cs => (Pattern.char (.single c)).andThen (literals cs)

theorem cons_prefix_drop_iff (c : Char) (cs : List Char) (i : Nat) :
    c :: cs <+: text.drop i ↔ text[i]? = some c ∧ cs <+: text.drop (i + 1) := by
  by_cases hi : i < text.length
  · rw [List.drop_eq_getElem_cons hi, List.cons_prefix_cons, List.getElem?_eq_getElem hi,
      Option.some_inj, eq_comm]
  · rw [List.drop_eq_nil_of_le (Nat.le_of_not_lt hi), List.getElem?_eq_none (Nat.le_of_not_lt hi)]
    simp

/-- Literal characters pass what begins with them. -/
theorem testBit_reached_literals (cs : List Char) (j : Nat) :
    (reached text (literals cs) starts).testBit j = true ↔
      ∃ i, j = i + cs.length ∧ starts.testBit i = true ∧ cs <+: text.drop i := by
  induction cs generalizing starts with
  | nil => simp [literals, reached_empty]
  | cons c cs ih =>
    rw [literals, reached_andThen, ih]
    simp only [testBit_reached_char, contains_single, cons_prefix_drop_iff, List.length_cons]
    constructor
    · rintro ⟨_, rfl, ⟨i, d, rfl, hstarts, hat, rfl⟩, hrest⟩
      exact ⟨i, by omega, hstarts, hat, hrest⟩
    · rintro ⟨i, rfl, hstarts, hat, hrest⟩
      exact ⟨i + 1, by omega, ⟨i, c, rfl, hstarts, hat, rfl⟩, hrest⟩

def beginning (cs : List Char) : Pattern := (Pattern.anchor .textStart).andThen (literals cs)

/-- It matches just the texts that begin with the characters. -/
theorem isMatch_beginning (cs : List Char) (s : String) :
    isMatch (beginning cs) s = cs.isPrefixOf s.toList := by
  have hstart : (2 ^ (s.toList.length + 1) - 1).testBit 0 = true := by
    rw [Nat.testBit_two_pow_sub_one]
    simp
  rw [Bool.eq_iff_iff, isMatch_iff, List.isPrefixOf_iff_prefix]
  simp only [beginning, reached_andThen, testBit_reached_literals, testBit_reached_textStart]
  constructor
  · rintro ⟨_, i, rfl, ⟨rfl, -⟩, hprefix⟩
    exact hprefix
  · intro hprefix
    exact ⟨cs.length, 0, (Nat.zero_add _).symm, ⟨rfl, hstart⟩, hprefix⟩

end DocQuery.Regex
