import DocQuery.Proofs.Regex.Prefix
import DocQuery.Regex.Engine

/-!
# Reading the pattern of a beginning

A text of characters without a meaning of their own, behind the sign for the text start, is read as
the pattern of that beginning, if it is not too large to be used.
-/
namespace DocQuery.Regex
open PatternEngine (Plain operators)

def byteLength (cs : List Char) : Nat := (cs.map Char.utf8Size).sum

theorem alternatives?_cons {c : Char} (h : c ∉ operators) (fuel : Nat) (names : List String)
    (earlier parts : List Part) (cs : Text) :
    alternatives? (fuel + 1) {} names earlier parts (c :: cs) =
      alternatives? fuel {} names earlier (literal {} c :: parts) cs := by
  simp only [operators, List.mem_cons, List.not_mem_nil, or_false, not_or] at h
  rw [alternatives?]
  simp only [skipBlanks, Bool.false_eq_true, if_false]
  split <;> simp_all

theorem alternatives?_plain {cs : List Char} (h : Plain cs) {fuel : Nat} (hfuel : cs.length < fuel)
    (names : List String) (parts : List Part) :
    alternatives? fuel {} names [] parts cs =
      some (alternation [sequence ((cs.map (literal {})).reverse ++ parts)], names, []) := by
  induction cs generalizing fuel parts with
  | nil =>
    obtain ⟨fuel, rfl⟩ := Nat.exists_eq_succ_of_ne_zero (Nat.ne_of_gt hfuel)
    rfl
  | cons c cs ih =>
    obtain ⟨hc, hrest⟩ := List.forall_mem_cons.mp h
    obtain ⟨fuel, rfl⟩ := Nat.exists_eq_succ_of_ne_zero (Nat.ne_of_gt (Nat.zero_lt_of_lt hfuel))
    rw [alternatives?_cons hc, ih hrest (Nat.lt_of_succ_lt_succ hfuel), List.map_cons,
      List.reverse_cons, List.append_assoc, List.singleton_append]

def startPart : Part := { pattern := Pattern.anchor .textStart }

def startingPart (cs : List Char) : Part :=
  alternation [sequence ((cs.map (literal {})).reverse ++ [startPart])]

theorem alternatives?_starting {cs : List Char} (h : Plain cs) :
    alternatives? (('^' :: cs).length + 1) {} [] [] [] ('^' :: cs) =
      some (startingPart cs, [], []) :=
  alternatives?_plain h (Nat.lt_succ_self _) [] [startPart]

theorem foldl_literals (cs : List Char) :
    ((cs.map (literal {})).reverse).foldl (fun later part => part.pattern.andThen later)
      PatternOf.empty = literals cs := by
  rw [List.foldl_reverse]
  induction cs with
  | nil => rfl
  | cons c cs ih =>
    rw [List.map_cons, List.foldr_cons, ih]
    rfl

theorem choice_beginning (cs : List Char) : Pattern.choice [beginning cs] = beginning cs := by
  rw [beginning]
  cases literals cs <;> rfl

theorem pattern_startingPart (cs : List Char) : (startingPart cs).pattern = beginning cs := by
  have hsequence : (sequence ((cs.map (literal {})).reverse ++ [startPart])).pattern =
      beginning cs := by
    rw [sequence, List.foldl_append, foldl_literals]
    rfl
  change Pattern.choice [(sequence _).pattern] = _
  rw [hsequence, choice_beginning]

theorem nesting_le_one (depths : List Nat) (h : ∀ depth ∈ depths, depth = 0) :
    nesting depths ≤ 1 := by
  have hmax : depths.foldl max 0 = 0 := by
    induction depths with
    | nil => rfl
    | cons depth depths ih =>
      obtain ⟨hdepth, hrest⟩ := List.forall_mem_cons.mp h
      rw [List.foldl_cons, hdepth, Nat.max_self, ih hrest]
  match depths with
  | [] => exact Nat.zero_le _
  | [depth] =>
    rw [nesting, h depth (List.mem_singleton_self _)]
    exact Nat.zero_le _
  | first :: second :: rest =>
    change (first :: second :: rest).foldl max 0 + 1 ≤ 1
    rw [hmax]

theorem depth_startingPart_le (cs : List Char) : (startingPart cs).depth ≤ 1 := by
  refine nesting_le_one (List.map Part.depth _) fun depth hdepth => ?_
  obtain ⟨part, hpart, rfl⟩ := List.mem_map.mp hdepth
  rcases List.mem_append.mp hpart with hliteral | hstart
  · obtain ⟨c, -, rfl⟩ := List.mem_map.mp (List.mem_reverse.mp hliteral)
    rfl
  · rw [List.mem_singleton.mp hstart]
    rfl

theorem exists_base64Ranges (n digit : Nat) :
    ∃ word, base64Ranges n digit digit = [word] ∧ word.length = n + 1 := by
  induction n generalizing digit with
  | zero => exact ⟨_, rfl, rfl⟩
  | succ n ih =>
    obtain ⟨word, hword, hlength⟩ := ih (digit % (1 <<< (6 * (n + 1))))
    refine ⟨(digit / (1 <<< (6 * (n + 1))), digit / (1 <<< (6 * (n + 1)))) :: word, ?_, ?_⟩
    · rw [base64Ranges]
      simp [hword]
    · rw [List.length_cons, hlength]

def wordsFor (x : Nat) : Nat × Nat × Nat × Nat → List ByteRanges
  | (low, high, n, lead) =>
    let a := max x low
    let b := min x high
    if b < a then []
    else (base64Ranges n a b).map fun
      | [] => []
      | head :: tail => (head.1 + lead, head.2 + lead) :: tail

theorem byteRanges_single (x : Nat) : byteRanges [(x, x)] = encodings.flatMap (wordsFor x) := by
  rw [byteRanges, List.flatMap_singleton]
  rfl

variable {x low high : Nat}

theorem wordsFor_eq_nil (h : x < low ∨ high < x) (n lead : Nat) :
    wordsFor x (low, high, n, lead) = [] := by
  rw [wordsFor]
  exact if_pos (by omega)

theorem exists_wordsFor (hlow : low ≤ x) (hhigh : x ≤ high) (n lead : Nat) :
    ∃ word, wordsFor x (low, high, n, lead) = [word] ∧ word.length = n + 1 := by
  obtain ⟨word, hword, hlength⟩ := exists_base64Ranges n x
  rw [wordsFor, Nat.max_eq_left hlow, Nat.min_eq_left hhigh]
  rw [if_neg (Nat.lt_irrefl x), hword]
  cases word with
  | nil => cases hlength
  | cons head tail => exact ⟨_, rfl, hlength⟩

theorem exists_encoding (c : Char) : ∃ before low high n lead after,
    encodings = before ++ (low, high, n, lead) :: after ∧ low ≤ c.toNat ∧ c.toNat ≤ high ∧
      (∀ e ∈ before ++ after, c.toNat < e.1 ∨ e.2.1 < c.toNat) ∧ c.utf8Size = n + 1 := by
  have hvalid : c.toNat < 0xD800 ∨ 0xDFFF < c.toNat ∧ c.toNat < 0x110000 := c.valid
  have hsize : c.utf8Size = if c.toNat ≤ 0x7F then 1 else if c.toNat ≤ 0x7FF then 2
      else if c.toNat ≤ 0xFFFF then 3 else 4 := rfl
  by_cases hone : c.toNat ≤ 0x7F
  · rw [if_pos hone] at hsize
    exact ⟨[], 0, 0x7F, 0, 0, _, rfl, Nat.zero_le _, hone, by simp; omega, hsize⟩
  rw [if_neg hone] at hsize
  by_cases htwo : c.toNat ≤ 0x7FF
  · rw [if_pos htwo] at hsize
    exact ⟨[_], 0x80, 0x7FF, 1, 0xC0, _, rfl, by omega, htwo, by simp; omega, hsize⟩
  rw [if_neg htwo] at hsize
  by_cases hthree : c.toNat ≤ 0xFFFF
  · rw [if_pos hthree] at hsize
    by_cases hlow : c.toNat ≤ 0xD7FF
    · exact ⟨[_, _], 0x800, 0xD7FF, 2, 0xE0, _, rfl, by omega, hlow, by simp; omega, hsize⟩
    · exact ⟨[_, _, _], 0xE000, 0xFFFF, 2, 0xE0, _, rfl, by omega, hthree, by simp; omega, hsize⟩
  · rw [if_neg hthree] at hsize
    exact ⟨[_, _, _, _], 0x10000, 0x10FFFF, 3, 0xF0, [], rfl, by omega, by omega,
      by simp; omega, hsize⟩

theorem exists_byteRanges_single (c : Char) :
    ∃ word, byteRanges (CharSet.single c).ranges = [word] ∧ word.length = c.utf8Size := by
  have hranges : (CharSet.single c).ranges = [(c.toNat, c.toNat)] := if_pos (Nat.le_refl _)
  obtain ⟨before, low, high, n, lead, after, hsplit, hlow, hhigh, hothers, hsize⟩ :=
    exists_encoding c
  have hnone : ∀ e ∈ before ++ after, wordsFor c.toNat e = [] :=
    fun ⟨low, high, n, lead⟩ he => wordsFor_eq_nil (hothers _ he) n lead
  obtain ⟨hbefore, hafter⟩ := List.forall_mem_append.mp hnone
  obtain ⟨word, hword, hlength⟩ := exists_wordsFor hlow hhigh n lead
  refine ⟨word, ?_, hlength.trans hsize.symm⟩
  rw [hranges, byteRanges_single, hsplit, List.flatMap_append, List.flatMap_cons, hword,
    List.flatMap_eq_nil_iff.mpr hbefore, List.flatMap_eq_nil_iff.mpr hafter]
  rfl

theorem size_single (d : Direction) (c : Char) :
    (CharSet.single c).size d = stateSize * c.utf8Size := by
  obtain ⟨word, hword, hlength⟩ := exists_byteRanges_single c
  have hranges : (CharSet.single c).ranges = [(c.toNat, c.toNat)] := if_pos (Nat.le_refl _)
  have hsingle : (CharSet.single c).isSingle = true := by
    rw [CharSet.isSingle, hranges]
    exact beq_self_eq_true _
  unfold CharSet.size
  rw [hword, if_pos hsingle, ← hlength]
  exact congrArg (stateSize * ·) (Nat.zero_add word.length)

theorem literals_cons_ne_empty (c : Char) (cs : List Char) : literals (c :: cs) ≠ .empty := by
  intro h
  rw [literals] at h
  cases hrest : literals cs with
  | _ =>
    rw [hrest] at h
    cases h

theorem andThen_of_ne_empty {p q : Pattern} (hp : p ≠ .empty) (hq : q ≠ .empty) :
    p.andThen q = .seq p q := by
  cases p with
  | empty => exact absurd rfl hp
  | _ => cases q <;> first | rfl | exact absurd rfl hq

theorem literals_cons_cons (c c' : Char) (cs : List Char) :
    literals (c :: c' :: cs) = .seq (Pattern.char (.single c)) (literals (c' :: cs)) :=
  andThen_of_ne_empty nofun (literals_cons_ne_empty c' cs)

theorem beginning_cons (c : Char) (cs : List Char) :
    beginning (c :: cs) = .seq (Pattern.anchor .textStart) (literals (c :: cs)) :=
  andThen_of_ne_empty nofun (literals_cons_ne_empty c cs)

theorem size_literals (d : Direction) (c : Char) (cs : List Char) :
    (literals (c :: cs)).size d = stateSize * byteLength (c :: cs) := by
  induction cs generalizing c with
  | nil => exact size_single d c
  | cons c' cs ih =>
    have hlength : byteLength (c :: c' :: cs) = c.utf8Size + byteLength (c' :: cs) := rfl
    rw [literals_cons_cons, hlength, Nat.mul_add, ← ih, ← size_single d]
    rfl

theorem size_beginning (d : Direction) (cs : List Char) :
    (beginning cs).size d = stateSize + stateSize * byteLength cs := by
  cases cs with
  | nil => rfl
  | cons c cs =>
    rw [beginning_cons, ← size_literals d]
    rfl

theorem isHeld_backward_seq {p q : Pattern} (hp : p.isHeld .backward = false)
    (hq : q.isHeld .backward = false) :
    Pattern.isHeld .backward (.seq p q) = false := by
  change (q.isHeld .backward || (q.isWidthless && p.isHeld .backward)) = false
  rw [hp, hq, Bool.and_false, Bool.or_false]

theorem isHeld_backward_literals (cs : List Char) : (literals cs).isHeld .backward = false := by
  induction cs with
  | nil => rfl
  | cons c cs ih =>
    cases cs with
    | nil => rfl
    | cons c' cs =>
      rw [literals_cons_cons]
      exact isHeld_backward_seq rfl ih

theorem isHeld_beginning (d : Direction) (cs : List Char) :
    (beginning cs).isHeld d = decide (d = .forward) := by
  cases cs with
  | nil => cases d <;> rfl
  | cons c cs =>
    rw [beginning_cons]
    cases d with
    | forward => rfl
    | backward => exact isHeld_backward_seq rfl (isHeld_backward_literals _)

/-- The texts that are not too large to be looked for at the start of another: a pattern of a
beginning has a state for each byte, and for what every pattern has besides. -/
def Fits (cs : List Char) : Prop := 176 + 32 * byteLength cs ≤ sizeLimit

instance (cs : List Char) : Decidable (Fits cs) := inferInstanceAs (Decidable (_ ≤ _))

theorem fits_beginning (cs : List Char) : (beginning cs).fits = decide (Fits cs) := by
  have hforward : (beginning cs).totalSize .forward = 160 + 32 * byteLength cs := by
    rw [Pattern.totalSize, isHeld_beginning, Pattern.size, size_beginning]
    simp only [decide_true, if_true, stateSize]
    omega
  have hbackward : (beginning cs).totalSize .backward = 176 + 32 * byteLength cs := by
    rw [Pattern.totalSize, isHeld_beginning, Pattern.size, size_beginning]
    simp only [reduceCtorEq, decide_false, if_false, stateSize, edgeSize, linkSize]
    omega
  rw [Pattern.fits, hforward, hbackward, ← Bool.decide_and]
  refine decide_eq_decide.mpr ⟨And.right, fun h => ⟨?_, h⟩⟩
  exact Nat.le_trans (Nat.add_le_add_right (by decide) _) h

/-- A text of characters that stand for themselves is looked for as it is, if it is not too
large. -/
theorem parse?_start {code : String} (h : Plain code.toList) :
    parse? ("^" ++ code) = if Fits code.toList then some (beginning code.toList) else none := by
  have hchars : ("^" ++ code).toList = '^' :: code.toList := String.toList_append
  have hshallow : (startingPart code.toList).depth ≤ depthLimit :=
    Nat.le_trans (depth_startingPart_le _) (by decide)
  rw [parse?, hchars, alternatives?_starting h]
  simp only [pattern_startingPart, fits_beginning, hshallow, decide_true, Bool.true_and,
    decide_eq_true_eq]

theorem compile_start {code : String} (h : Plain code.toList) (hfits : Fits code.toList) :
    compile ("^" ++ code) = .ok (isMatch (beginning code.toList)) := by
  rw [compile, parse?_start h, if_pos hfits]

theorem byteLength_le (cs : List Char) : byteLength cs ≤ 4 * cs.length := by
  induction cs with
  | nil => exact Nat.le_refl _
  | cons c cs ih =>
    have hc : c.utf8Size ≤ 4 := c.utf8Size_le_four
    change c.utf8Size + byteLength cs ≤ 4 * (cs.length + 1)
    omega

theorem fits_of_length_le {cs : List Char} (h : cs.length ≤ 1024) : Fits cs := by
  have hbytes := byteLength_le cs
  have hlimit : 176 + 32 * (4 * 1024) ≤ sizeLimit := by decide
  rw [Fits]
  omega

/-- A text of characters that stand for themselves is looked for as it is, and if it is not a
pattern then for its size alone. -/
instance : LawfulPatternEngine where
  accepts_start hplain hlength := ⟨_, compile_start hplain (fits_of_length_le hlength)⟩
  test_start := by
    intro code test hplain htest text
    have hcompile : compile ("^" ++ code) = .ok test := htest
    by_cases hfits : Fits code.toList
    · rw [compile_start hplain hfits] at hcompile
      cases hcompile
      exact isMatch_beginning _ text
    · rw [compile, parse?_start hplain, if_neg hfits] at hcompile
      cases hcompile

end DocQuery.Regex
