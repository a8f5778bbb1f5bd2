import FluxFleet.Json.Reader
import FluxFleet.Json.Writer
import Mathlib.Data.List.Chain

/-!
# Texts in JSON

A code point is written as one UTF-16 unit or as two, and most units as escapes of four digits; the
units are read back from what is written (`stringUnits?_escapePoint`) and joined to the code points
again (`joinUnits_units`). Only two halves that follow each other and make a pair by chance are
joined to a code point that was not there, so a text without such halves reads back as it is
(`string?_escaped`).
-/

namespace FluxFleet

namespace Text

/-- No half that opens a pair is followed by one that closes a pair. -/
def Unpaired (s : String) : Prop :=
  (codePoints s).IsChain fun m n => (isHighSurrogate m && isLowSurrogate n) = false

instance (s : String) : Decidable (Unpaired s) :=
  inferInstanceAs (Decidable (List.IsChain _ (codePoints s)))

/-- A text of which no code point is a half opens no pair. -/
theorem unpaired_of_isSurrogate {s : String} (h : ∀ n ∈ codePoints s, isSurrogate n = false) :
    Unpaired s := by
  rw [Unpaired]
  generalize codePoints s = ns at h
  induction ns with
  | nil => exact .nil
  | cons n ns ih =>
    obtain ⟨hn, hns⟩ := List.forall_mem_cons.mp h
    refine List.isChain_cons.mpr ⟨fun m _ => ?_, ih hns⟩
    rw [(Bool.or_eq_false_iff.mp hn).1, Bool.false_and]

/-- Characters below the halves open no pair with what follows them. -/
theorem unpaired_append {s t : String} (hs : (s.toList.all fun c => c.toNat < 0xD800) = true)
    (ht : Unpaired t) : Unpaired (s ++ t) := by
  have hlow : ∀ c ∈ s.toList, c.toNat < 0xD800 :=
    fun c hc => of_decide_eq_true (List.all_eq_true.mp hs c hc)
  rw [Unpaired, codePoints_append_of_lt hlow]
  generalize s.toList = cs at hlow
  induction cs with
  | nil => exact ht
  | cons c cs ih =>
    obtain ⟨hc, hcs⟩ := List.forall_mem_cons.mp hlow
    refine List.isChain_cons.mpr ⟨fun n _ => ?_, ih hcs⟩
    have hhigh : isHighSurrogate c.toNat = false := by
      rw [isHighSurrogate, decide_eq_false (Nat.not_le.mpr hc), Bool.false_and]
    rw [hhigh, Bool.false_and]

end Text

namespace Json

open Text (codePoints isHighSurrogate isLowSurrogate)

/-! ## Escapes -/

theorem hexValue?_digitChar {n : Nat} (h : n < 16) : Text.hexValue? n.digitChar = some n := by
  revert n
  decide

theorem foldlM_toDigits (n : Nat) :
    (Nat.toDigits 16 n).foldlM (fun n x => do return n * 16 + (← Text.hexValue? x)) 0 =
      some n := by
  induction n using Nat.strongRecOn with
  | _ n ih =>
    rw [Nat.toDigits_eq_if (by decide)]
    split
    · next h => simp [hexValue?_digitChar h]
    · next h =>
      have hlast := hexValue?_digitChar (Nat.mod_lt n (show 16 > 0 by decide))
      rw [List.foldlM_append, ih (n / 16) (by omega)]
      simp [hlast, Nat.div_add_mod']

theorem foldlM_zeros (k : Nat) (cs : List Char) :
    (List.replicate k '0' ++ cs).foldlM (fun n x => do return n * 16 + (← Text.hexValue? x)) 0 =
      cs.foldlM (fun n x => do return n * 16 + (← Text.hexValue? x)) 0 := by
  induction k with
  | zero => rfl
  | succ k ih => exact ih

/-- A unit is written with four digits, from which it is read. -/
theorem exists_hex {n : Nat} (h : n < 0x10000) :
    ∃ a b c d, (Text.hex 4 n).toList = [a, b, c, d] ∧ unit? a b c d = some n := by
  have hlength : (Nat.toDigits 16 n).length ≤ 4 :=
    (Nat.length_toDigits_le_iff (by decide) (by decide)).mpr h
  have hhex : (Text.hex 4 n).toList =
      List.replicate (4 - (Nat.toDigits 16 n).length) '0' ++ Nat.toDigits 16 n := by
    rw [Text.hex, String.toList_ofList]
  have hfour : (Text.hex 4 n).toList.length = 4 := by
    rw [hhex, List.length_append, List.length_replicate]
    omega
  have hread := foldlM_zeros (4 - (Nat.toDigits 16 n).length) (Nat.toDigits 16 n)
  rw [← hhex, foldlM_toDigits] at hread
  match hlist : (Text.hex 4 n).toList, hfour with
  | [a, b, c, d], _ => exact ⟨a, b, c, d, rfl, by rw [unit?, ← hlist, hread]⟩

/-- The UTF-16 units of a code point. -/
def units (n : Nat) : List Nat :=
  if n < 0x10000 then [n]
  else [0xD800 + (n - 0x10000) / 0x400, 0xDC00 + (n - 0x10000) % 0x400]

/-- The forms in which a code point is written. -/
inductive Escaped (n : Nat) (written : List Char) : Prop
  | short (c e : Char) (point : c.toNat = n) (form : written = ['\\', e])
      (means : shortEscape? e = some c) (other : e ≠ 'u') (low : n < 0x80)
  | plain (c : Char) (point : c.toNat = n) (form : written = [c]) (quote : c ≠ '"')
      (slash : c ≠ '\\') (low : 0x20 ≤ n) (high : n ≤ 0x7E)
  | unit (form : written = (unitEscape n).toList) (low : n < 0x10000)
  | pair (form : written = (unitEscape (0xD800 + (n - 0x10000) / 0x400)).toList ++
        (unitEscape (0xDC00 + (n - 0x10000) % 0x400)).toList)
      (high : ¬ n < 0x10000)

theorem escaped_escapePoint (n : Nat) : Escaped n (escapePoint n).toList := by
  have hescapes : ∀ r ∈ escapes, shortEscape? r.2 = some r.1 ∧ r.2 ≠ 'u' ∧ r.1.toNat < 0x80 := by
    decide
  rw [escapePoint]
  split
  · next c e hfind =>
    obtain ⟨hmeans, hother, hlow⟩ := hescapes _ (List.mem_of_find?_eq_some hfind)
    have hpoint := List.find?_some hfind
    obtain rfl : c.toNat = n := beq_iff_eq.mp hpoint
    exact .short c e rfl String.toList_ofList hmeans hother hlow
  · next hnone =>
    have hother : ∀ r ∈ escapes, r.1.toNat ≠ n :=
      fun r hr => by simpa using List.find?_eq_none.mp hnone r hr
    split
    · next h =>
      obtain ⟨hlow, hhigh⟩ := Bool.and_eq_true_iff.mp h
      have hlow : 0x20 ≤ n := of_decide_eq_true hlow
      have hhigh : n ≤ 0x7E := of_decide_eq_true hhigh
      have hpoint : (Char.ofNat n).toNat = n := by
        refine Text.toNat_ofNat (by omega) ?_
        rw [Bool.eq_false_iff, Ne, Text.isSurrogate_iff]
        omega
      refine .plain _ hpoint (String.toList_singleton _) ?_ ?_ hlow hhigh
      · exact fun h => hother ('"', '"') (by decide) (by rw [← hpoint, h])
      · exact fun h => hother ('\\', '\\') (by decide) (by rw [← hpoint, h])
    · split
      · next h => exact .unit rfl h
      · next h => exact .pair String.toList_append h

/-! ## Units that are read -/

theorem stringUnits?_short {e c : Char} (h : shortEscape? e = some c) (hu : e ≠ 'u')
    (cs : List Char) :
    stringUnits? ('\\' :: e :: cs) =
      (stringUnits? cs).map fun (ns, rest) => (c.toNat :: ns, rest) := by
  rw [stringUnits?.eq_3 e cs fun _ _ _ _ _ h _ => hu h, h]
  cases stringUnits? cs <;> rfl

theorem stringUnits?_plain {c : Char} (hquote : c ≠ '"') (hslash : c ≠ '\\')
    (hlow : 0x20 ≤ c.toNat) (cs : List Char) :
    stringUnits? (c :: cs) = (stringUnits? cs).map fun (ns, rest) => (c.toNat :: ns, rest) := by
  rw [stringUnits?.eq_4 c cs hquote (fun _ _ _ _ _ h _ => hslash h) (fun _ _ h _ => hslash h),
    if_neg (Nat.not_lt.mpr hlow)]
  cases stringUnits? cs <;> rfl

theorem stringUnits?_unitEscape {n : Nat} (h : n < 0x10000) (cs : List Char) :
    stringUnits? ((unitEscape n).toList ++ cs) =
      (stringUnits? cs).map fun (ns, rest) => (n :: ns, rest) := by
  obtain ⟨a, b, c, d, hhex, hunit⟩ := exists_hex h
  have hlist : (unitEscape n).toList = '\\' :: 'u' :: [a, b, c, d] := by
    rw [unitEscape, String.toList_append, hhex]
    rfl
  rw [hlist]
  simp only [List.cons_append, List.nil_append]
  rw [stringUnits?, hunit]
  cases stringUnits? cs <;> rfl

/-- A code point is read back as its units. -/
theorem stringUnits?_escapePoint {n : Nat} (h : n < 0x110000) (cs : List Char) :
    stringUnits? ((escapePoint n).toList ++ cs) =
      (stringUnits? cs).map fun (ns, rest) => (units n ++ ns, rest) := by
  cases escaped_escapePoint n with
  | short c e point form means other low =>
    rw [form, units, if_pos (Nat.lt_trans low (by decide)), ← point]
    exact stringUnits?_short means other cs
  | plain c point form quote slash low high =>
    rw [form, units, if_pos (Nat.lt_of_le_of_lt high (by decide)), ← point]
    exact stringUnits?_plain quote slash (point ▸ low) cs
  | unit form low =>
    rw [form, units, if_pos low]
    exact stringUnits?_unitEscape low cs
  | pair form high =>
    rw [form, units, if_neg high, List.append_assoc, stringUnits?_unitEscape (by omega),
      stringUnits?_unitEscape (by omega), Option.map_map]
    rfl

/-- What is written of a text between its quotes. -/
def escaped (s : String) : List Char := (codePoints s).flatMap fun n => (escapePoint n).toList

theorem toList_quoted (s : String) : (quoted s).toList = '"' :: (escaped s ++ ['"']) := by
  rw [quoted, String.toList_append, String.toList_append, String.toList_join, List.flatMap_map]
  rfl

/-- A text is read up to its closing quote. -/
theorem stringUnits?_escaped (s : String) (rest : List Char) :
    stringUnits? (escaped s ++ '"' :: rest) = some ((codePoints s).flatMap units, rest) := by
  have hpoints : ∀ n ∈ codePoints s, n < 0x110000 := Text.codePoints_lt
  rw [escaped]
  generalize codePoints s = ns at hpoints
  induction ns with
  | nil => rfl
  | cons n ns ih =>
    obtain ⟨hn, hns⟩ := List.forall_mem_cons.mp hpoints
    rw [List.flatMap_cons, List.append_assoc, stringUnits?_escapePoint hn, ih hns]
    rfl

/-! ## Units that are joined -/

theorem joinUnits_cons {n : Nat} {ns : List Nat}
    (h : ∀ m ∈ ns.head?, (isHighSurrogate n && isLowSurrogate m) = false) :
    joinUnits (n :: ns) = n :: joinUnits ns := by
  cases ns with
  | nil => rfl
  | cons m ns =>
    rw [joinUnits, h m rfl]
    rfl

/-- The two units of a code point are joined to it. -/
theorem joinUnits_pair {n : Nat} (hlow : ¬ n < 0x10000) (htop : n < 0x110000) (ns : List Nat) :
    joinUnits (units n ++ ns) = n :: joinUnits ns := by
  have hpair : (isHighSurrogate (0xD800 + (n - 0x10000) / 0x400) &&
      isLowSurrogate (0xDC00 + (n - 0x10000) % 0x400)) = true := by
    simp only [isHighSurrogate, isLowSurrogate, Bool.and_eq_true, decide_eq_true_eq]
    omega
  have hvalue : 0x10000 + (0xD800 + (n - 0x10000) / 0x400 - 0xD800) * 0x400 +
      (0xDC00 + (n - 0x10000) % 0x400 - 0xDC00) = n := by omega
  rw [units, if_neg hlow, List.cons_append, List.cons_append, List.nil_append, joinUnits,
    if_pos hpair, hvalue]

theorem joinUnits_units {ns : List Nat} (hpoints : ∀ n ∈ ns, n < 0x110000)
    (h : ns.IsChain fun m n => (isHighSurrogate m && isLowSurrogate n) = false) :
    joinUnits (ns.flatMap units) = ns := by
  induction ns with
  | nil => rfl
  | cons n ns ih =>
    obtain ⟨hn, hns⟩ := List.forall_mem_cons.mp hpoints
    rw [List.flatMap_cons]
    by_cases hlow : n < 0x10000
    · rw [units, if_pos hlow, List.singleton_append, joinUnits_cons ?_, ih hns h.tail]
      -- the next unit closes no pair, whether the next code point has one unit or two
      intro m hm
      cases ns with
      | nil => cases hm
      | cons n' ns =>
        rw [List.flatMap_cons, units] at hm
        split at hm
        · obtain rfl := Option.some.inj hm
          exact (List.isChain_cons_cons.mp h).1
        · obtain rfl := Option.some.inj hm
          have htop := hns n' List.mem_cons_self
          simp only [isLowSurrogate, Bool.and_eq_false_iff, decide_eq_false_iff_not]
          omega
    · rw [joinUnits_pair hlow hn, ih hns h.tail]

/-- A text without such a pair reads back as it is. -/
theorem string?_escaped {s : String} (h : Text.Unpaired s) (rest : List Char) :
    string? (escaped s ++ '"' :: rest) = some (s, rest) := by
  rw [string?, stringUnits?_escaped]
  simp only [Option.bind_eq_bind, Option.bind_some, joinUnits_units Text.codePoints_lt h,
    Text.ofCodePoints_codePoints]
  rfl

end Json

end FluxFleet
