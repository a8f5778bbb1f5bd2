/-!
# Code points

A text is a row of code points, and some of them may be halves of surrogate pairs. A `Char` cannot
be a half, so a half stands in a text as two characters: a mark, which is the last of all code
points, and the character of the last private plane that is 0x100000 above the half. Such a
character can also stand behind a mark by itself. Hence the marks before it are counted: two of them
stand for one code point, and one that is left over says that a half follows. Any other character is
its own code point.

A text is known from its code points (`ofCodePoints_codePoints`), and each row of code points is a
text (`codePoints_ofCodePoints`). Texts are ordered by their code points (`precedes`).

A half has no bytes. In the name of a file, though, the halves from DC80 to DCFF stand for the bytes
from 80 to FF.
-/

namespace FluxFleet.Text

/-- Whether a number is the half that opens a pair. -/
def isHighSurrogate (n : Nat) : Bool := decide (0xD800 ≤ n) && decide (n < 0xDC00)

/-- Whether a number is the half that closes a pair. -/
def isLowSurrogate (n : Nat) : Bool := decide (0xDC00 ≤ n) && decide (n < 0xE000)

/-- Whether a number is a half. -/
def isSurrogate (n : Nat) : Bool := isHighSurrogate n || isLowSurrogate n

/-- The mark before a half. -/
def mark : Char := Char.ofNat 0x10FFFF

/-- How far the character of a half is above it. -/
def surrogateShift : Nat := 0x100000

/-- The half whose character has a code point. -/
def surrogate? (n : Nat) : Option Nat :=
  if surrogateShift ≤ n && isSurrogate (n - surrogateShift) then some (n - surrogateShift) else none

/-- The code points of characters behind so many marks. -/
def pointsFrom (marks : Nat) : List Char → List Nat
  | [] => List.replicate marks mark.toNat
  | c :: cs =>
    if c = mark then pointsFrom (marks + 1) cs
    else match surrogate? c.toNat with
      | some half =>
        List.replicate (marks / 2) mark.toNat ++
          (if marks % 2 = 1 then half else c.toNat) :: pointsFrom 0 cs
      | none => List.replicate marks mark.toNat ++ c.toNat :: pointsFrom 0 cs

/-- The code points of a text. -/
def codePoints (s : String) : List Nat := pointsFrom 0 s.toList

/-- The characters of code points behind so many that are marks. -/
def charsFrom (marks : Nat) : List Nat → List Char
  | [] => List.replicate marks mark
  | n :: ns =>
    if n = mark.toNat then charsFrom (marks + 1) ns
    else if isSurrogate n then
      List.replicate (2 * marks + 1) mark ++ Char.ofNat (n + surrogateShift) :: charsFrom 0 ns
    else
      List.replicate (if (surrogate? n).isSome then 2 * marks else marks) mark ++
        Char.ofNat n :: charsFrom 0 ns

/-- The text of code points. -/
def ofCodePoints (ns : List Nat) : String := String.ofList (charsFrom 0 ns)

/-- Whether a text stands before another in the order of code points. -/
def precedes (s t : String) : Bool := (codePoints s).lex (codePoints t) fun m n => decide (m < n)

/-- Whether two texts are in order. -/
def inOrder (s t : String) : Bool := !precedes t s

/-! ## Texts and code points -/

theorem isSurrogate_iff {n : Nat} : isSurrogate n = true ↔ 0xD800 ≤ n ∧ n < 0xE000 := by
  simp only [isSurrogate, isHighSurrogate, isLowSurrogate, Bool.or_eq_true, Bool.and_eq_true,
    decide_eq_true_eq]
  omega

theorem toNat_lt (c : Char) : c.toNat < 0x110000 := by
  have hvalid := c.valid
  simp only [UInt32.isValidChar, Nat.isValidChar] at hvalid
  have hnat : c.toNat = c.val.toNat := rfl
  omega

theorem isSurrogate_toNat (c : Char) : isSurrogate c.toNat = false := by
  have hvalid := c.valid
  simp only [UInt32.isValidChar, Nat.isValidChar] at hvalid
  have hnat : c.toNat = c.val.toNat := rfl
  rw [Bool.eq_false_iff, Ne, isSurrogate_iff]
  omega

theorem toNat_ofNat {n : Nat} (hlow : n < 0x110000) (h : isSurrogate n = false) :
    (Char.ofNat n).toNat = n := by
  rw [Bool.eq_false_iff, Ne, isSurrogate_iff] at h
  have hvalid : n.isValidChar := by
    simp only [Nat.isValidChar]
    omega
  rw [Char.ofNat, dif_pos hvalid]
  rfl

theorem surrogate?_eq_some {n half : Nat} :
    surrogate? n = some half ↔ n = half + surrogateShift ∧ isSurrogate half = true := by
  rw [surrogate?]
  split
  · next h =>
    obtain ⟨hle, hhalf⟩ := Bool.and_eq_true_iff.mp h
    have hle : surrogateShift ≤ n := of_decide_eq_true hle
    rw [Option.some_inj]
    constructor
    · rintro rfl
      exact ⟨(Nat.sub_add_cancel hle).symm, hhalf⟩
    · rintro ⟨rfl, -⟩
      exact Nat.add_sub_cancel half _
  · next h =>
    refine ⟨nofun, ?_⟩
    rintro ⟨rfl, hhalf⟩
    exact absurd (Bool.and_eq_true_iff.mpr ⟨decide_eq_true (Nat.le_add_left _ _),
      (Nat.add_sub_cancel half surrogateShift).symm ▸ hhalf⟩) h

/-- Code points that are marks are counted. -/
theorem charsFrom_replicate (marks count : Nat) (ns : List Nat) :
    charsFrom marks (List.replicate count mark.toNat ++ ns) = charsFrom (marks + count) ns := by
  induction count generalizing marks with
  | zero => rfl
  | succ count ih =>
    rw [List.replicate_succ, List.cons_append, charsFrom, if_pos rfl, ih, Nat.add_right_comm,
      Nat.add_assoc]

/-- So are marks. -/
theorem pointsFrom_replicate (marks count : Nat) (cs : List Char) :
    pointsFrom marks (List.replicate count mark ++ cs) = pointsFrom (marks + count) cs := by
  induction count generalizing marks with
  | zero => rfl
  | succ count ih =>
    rw [List.replicate_succ, List.cons_append, pointsFrom, if_pos rfl, ih, Nat.add_right_comm,
      Nat.add_assoc]

/-- No half is the mark. -/
theorem ne_mark_of_isSurrogate {n : Nat} (h : isSurrogate n = true) :
    n ≠ mark.toNat ∧ n + surrogateShift ≠ mark.toNat := by
  have hrange := isSurrogate_iff.mp h
  have hmark : mark.toNat = 0x10FFFF := rfl
  rw [hmark, surrogateShift]
  omega

theorem charsFrom_pointsFrom (marks : Nat) (cs : List Char) :
    charsFrom 0 (pointsFrom marks cs) = List.replicate marks mark ++ cs := by
  induction cs generalizing marks with
  | nil =>
    have hmarks := charsFrom_replicate 0 marks []
    rw [List.append_nil, Nat.zero_add] at hmarks
    rw [pointsFrom, hmarks, charsFrom, List.append_nil]
  | cons c cs ih =>
    rw [pointsFrom]
    by_cases hmark : c = mark
    · rw [if_pos hmark, ih, hmark, List.replicate_succ', List.append_assoc, List.singleton_append]
    have hpoint : c.toNat ≠ mark.toNat := fun heq => hmark (Char.toNat_inj.mp heq)
    rw [if_neg hmark]
    rcases hhalf : surrogate? c.toNat with _ | half
    · rw [charsFrom_replicate, Nat.zero_add, charsFrom, if_neg hpoint, isSurrogate_toNat, hhalf, ih,
        Char.ofNat_toNat]
      rfl
    · obtain ⟨hc, hsurrogate⟩ := surrogate?_eq_some.mp hhalf
      dsimp only
      rw [charsFrom_replicate, Nat.zero_add]
      split
      · next hodd =>
        rw [charsFrom, if_neg (ne_mark_of_isSurrogate hsurrogate).1, if_pos hsurrogate, ← hc, ih,
          Char.ofNat_toNat, show 2 * (marks / 2) + 1 = marks by omega]
        rfl
      · next heven =>
        rw [charsFrom, if_neg hpoint, isSurrogate_toNat, hhalf, ih, Char.ofNat_toNat,
          if_neg Bool.false_ne_true, if_pos Option.isSome_some,
          show 2 * (marks / 2) = marks by omega]
        rfl

/-- A text is known from its code points. -/
theorem ofCodePoints_codePoints (s : String) : ofCodePoints (codePoints s) = s := by
  rw [ofCodePoints, codePoints, charsFrom_pointsFrom, List.replicate_zero, List.nil_append,
    String.ofList_toList]

theorem codePoints_inj {s t : String} (h : codePoints s = codePoints t) : s = t := by
  rw [← ofCodePoints_codePoints s, h, ofCodePoints_codePoints]

theorem pointsFrom_charsFrom (marks : Nat) {ns : List Nat} (h : ∀ n ∈ ns, n < 0x110000) :
    pointsFrom 0 (charsFrom marks ns) = List.replicate marks mark.toNat ++ ns := by
  induction ns generalizing marks with
  | nil =>
    have hmarks := pointsFrom_replicate 0 marks []
    rw [List.append_nil, Nat.zero_add] at hmarks
    rw [charsFrom, hmarks, pointsFrom, List.append_nil]
  | cons n ns ih =>
    obtain ⟨hn, hns⟩ := List.forall_mem_cons.mp h
    rw [charsFrom]
    by_cases hmark : n = mark.toNat
    · rw [if_pos hmark, ih _ hns, hmark, List.replicate_succ', List.append_assoc,
        List.singleton_append]
    rw [if_neg hmark]
    rcases hsurrogate : isSurrogate n with _ | _
    · have hpoint : (Char.ofNat n).toNat = n := toNat_ofNat hn hsurrogate
      have hchar : Char.ofNat n ≠ mark := fun heq => hmark (heq ▸ hpoint.symm)
      rw [if_neg Bool.false_ne_true, pointsFrom_replicate, Nat.zero_add, pointsFrom, if_neg hchar,
        hpoint, ih 0 hns]
      rcases surrogate? n with _ | half
      · rfl
      · rw [Option.isSome_some, if_pos rfl]
        dsimp only
        rw [if_neg (by omega), Nat.mul_div_cancel_left _ (by decide)]
        rfl
    · have hrange := isSurrogate_iff.mp hsurrogate
      have hpoint : (Char.ofNat (n + surrogateShift)).toNat = n + surrogateShift := by
        refine toNat_ofNat (by rw [surrogateShift]; omega) ?_
        rw [Bool.eq_false_iff, Ne, isSurrogate_iff, surrogateShift]
        omega
      have hchar : Char.ofNat (n + surrogateShift) ≠ mark :=
        fun heq => (ne_mark_of_isSurrogate hsurrogate).2 (heq ▸ hpoint.symm)
      rw [if_pos rfl, pointsFrom_replicate, Nat.zero_add, pointsFrom, if_neg hchar, hpoint,
        surrogate?_eq_some.mpr ⟨rfl, hsurrogate⟩, ih 0 hns]
      dsimp only
      rw [if_pos (by omega), show (2 * marks + 1) / 2 = marks by omega]
      rfl

/-- Each row of code points is a text. -/
theorem codePoints_ofCodePoints {ns : List Nat} (h : ∀ n ∈ ns, n < 0x110000) :
    codePoints (ofCodePoints ns) = ns := by
  rw [codePoints, ofCodePoints, String.toList_ofList, pointsFrom_charsFrom 0 h]
  rfl

theorem pointsFrom_cons_of_lt {c : Char} (h : c.toNat < 0xD800) (cs : List Char) :
    pointsFrom 0 (c :: cs) = c.toNat :: pointsFrom 0 cs := by
  have hmark : c ≠ mark := by
    rintro rfl
    exact absurd h (by decide)
  have hnone : surrogate? c.toNat = none := by
    rw [surrogate?, surrogateShift, decide_eq_false (by omega), Bool.false_and]
    rfl
  rw [pointsFrom, if_neg hmark, hnone]
  rfl

/-- Characters below the halves are their own code points, whatever stands behind them. -/
theorem codePoints_append_of_lt {s t : String} (h : ∀ c ∈ s.toList, c.toNat < 0xD800) :
    codePoints (s ++ t) = s.toList.map Char.toNat ++ codePoints t := by
  rw [codePoints, String.toList_append]
  generalize s.toList = cs at h
  induction cs with
  | nil => rfl
  | cons c cs ih =>
    obtain ⟨hc, hcs⟩ := List.forall_mem_cons.mp h
    rw [List.cons_append, pointsFrom_cons_of_lt hc, ih hcs]
    rfl

theorem pointsFrom_lt {marks : Nat} {cs : List Char} : ∀ n ∈ pointsFrom marks cs, n < 0x110000 := by
  have hmarks : ∀ {count n : Nat}, n ∈ List.replicate count mark.toNat → n < 0x110000 :=
    fun h => (List.mem_replicate.mp h).2 ▸ toNat_lt mark
  induction cs generalizing marks with
  | nil => exact fun n hn => hmarks hn
  | cons c cs ih =>
    intro n hn
    rw [pointsFrom] at hn
    split at hn
    · exact ih n hn
    split at hn
    · next half hhalf =>
      rcases List.mem_append.mp hn with hn | hn
      · exact hmarks hn
      rcases List.mem_cons.mp hn with rfl | hn
      · have hpoint := (surrogate?_eq_some.mp hhalf).1
        have hlow := toNat_lt c
        split <;> omega
      · exact ih n hn
    · rcases List.mem_append.mp hn with hn | hn
      · exact hmarks hn
      rcases List.mem_cons.mp hn with rfl | hn
      · exact toNat_lt c
      · exact ih n hn

theorem codePoints_lt {s : String} : ∀ n ∈ codePoints s, n < 0x110000 := pointsFrom_lt

theorem precedes_iff {s t : String} :
    precedes s t = true ↔ List.Lex (· < ·) (codePoints s) (codePoints t) := by
  simp only [precedes, List.lex_eq_true_iff_lex, decide_eq_true_eq]

theorem inOrder_iff {s t : String} :
    inOrder s t = true ↔ ¬ List.Lex (· < ·) (codePoints t) (codePoints s) := by
  rw [inOrder, Bool.not_eq_true', Bool.eq_false_iff, Ne, precedes_iff]

theorem inOrder_trans {s t u : String} (hst : inOrder s t = true) (htu : inOrder t u = true) :
    inOrder s u = true := by
  rw [inOrder_iff] at hst htu ⊢
  exact @List.le_trans Nat _ _ _ _ (codePoints s) (codePoints t) (codePoints u) hst htu

theorem inOrder_total (s t : String) : inOrder s t = true ∨ inOrder t s = true := by
  rw [inOrder_iff, inOrder_iff]
  exact @List.le_total Nat _ _ (codePoints s) (codePoints t)

/-- Texts that are in order both ways are the same. -/
theorem inOrder_antisymm {s t : String} (hst : inOrder s t = true) (hts : inOrder t s = true) :
    s = t := by
  rw [inOrder_iff] at hst hts
  exact codePoints_inj (@List.le_antisymm Nat _ _ (codePoints s) (codePoints t) hst hts)

theorem inOrder_of_precedes {s t : String} (h : precedes s t = true) : inOrder s t = true := by
  rw [precedes_iff] at h
  rw [inOrder_iff]
  exact @List.le_of_lt Nat _ _ (codePoints s) (codePoints t) h

/-- Different texts that are in order precede one another. -/
theorem precedes_of_ne {s t : String} (h : inOrder s t = true) (hne : s ≠ t) :
    precedes s t = true := by
  rcases hboth : precedes s t with _ | _
  · refine absurd (inOrder_antisymm h ?_) hne
    rw [inOrder, hboth, Bool.not_false]
  · rfl

/-! ## Names of files -/

/-- Halves in a row that have no bytes. -/
structure SurrogateFault where
  /-- the first of them -/
  half : Nat
  /-- the code points before it -/
  position : Nat
  count : Nat
deriving DecidableEq, Repr

/-- The first halves in the name of a file that have no bytes, behind `position` other code
points. -/
def surrogateFault? (position : Nat) : List Nat → Option SurrogateFault
  | [] => none
  | n :: ns =>
    if isSurrogate n && !(0xDC80 ≤ n && n < 0xDD00) then
      some { half := n, position, count := (ns.takeWhile isSurrogate).length + 1 }
    else surrogateFault? (position + 1) ns

end FluxFleet.Text
