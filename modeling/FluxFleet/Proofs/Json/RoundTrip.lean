import FluxFleet.Proofs.Json.Text
import FluxFleet.Proofs.Success
import Mathlib.Data.List.TakeWhile

/-!
# JSON that reads back

What is written of a value is read back as this value, in any layout and whatever stands behind it
(`readsBack`, `read?_write`). The value may hold what has a form of its own in JSON (`Readable`): no
value, truth values, whole numbers, texts, sequences, and mappings whose keys are different texts.

The reader spends fuel on each value on its way. Twice the length of the text is enough, since every
value is written with a character at least, and two have another one between them.
-/

namespace FluxFleet

namespace Json

/-- A value that has a form of its own in JSON. -/
inductive Readable : Value → Prop
  | null : Readable .null
  | bool (b : Bool) : Readable (.bool b)
  | int (i : Int) : Readable (.int i)
  | text {s : String} (unpaired : Text.Unpaired s) : Readable (.str s)
  | list {items : List Value} (readable : ∀ v ∈ items, Readable v) : Readable (.ofList items)
  | dict {entries : List (Value × Value)}
      (keys : ∀ e ∈ entries, ∃ key, e.1 = .str key ∧ Text.Unpaired key)
      (different : (entries.map (·.1)).Nodup) (readable : ∀ e ∈ entries, Readable e.2) :
      Readable (.ofEntries entries)

/-! ## Blanks -/

theorem skipBlank_replicate (n : Nat) (cs : List Char) :
    skipBlank (List.replicate n ' ' ++ cs) = skipBlank cs := by
  induction n with
  | zero => rfl
  | succ n ih => exact ih

/-- The start of a line is skipped. -/
theorem skipBlank_fresh (layout : Layout) (depth : Nat) (cs : List Char) :
    skipBlank ((layout.fresh depth).toList ++ cs) = skipBlank cs := by
  cases layout with
  | compact => rfl
  | lines width limit =>
    have hline : ((Layout.lines width limit).fresh depth).toList =
        '\n' :: List.replicate (width * depth) ' ' := by simp [Layout.fresh]
    rw [hline]
    exact skipBlank_replicate _ cs

/-- Between two items stands a comma with blanks. -/
theorem exists_between (layout : Layout) (depth : Nat) : ∃ blank : List Char,
    (layout.between depth).toList = ',' :: blank ∧
      ∀ cs, skipBlank (blank ++ cs) = skipBlank cs := by
  cases layout with
  | compact => exact ⟨[' '], by simp [Layout.between], fun _ => rfl⟩
  | lines width limit =>
    refine ⟨((Layout.lines width limit).fresh depth).toList, ?_, skipBlank_fresh _ depth⟩
    rw [Layout.between, String.toList_append]
    rfl

variable {fuel : Nat} {cs cs' : List Char}

theorem readValue?_congr (h : skipBlank cs = skipBlank cs') :
    readValue? fuel cs = readValue? fuel cs' := by
  cases fuel with
  | zero => rfl
  | succ fuel => rw [readValue?, readValue?, h]

theorem readItems?_congr (h : skipBlank cs = skipBlank cs') :
    readItems? fuel cs = readItems? fuel cs' := by
  cases fuel with
  | zero => rfl
  | succ fuel => rw [readItems?, readItems?, readValue?_congr h]

theorem readMembers?_congr (h : skipBlank cs = skipBlank cs') :
    readMembers? fuel cs = readMembers? fuel cs' := by
  cases fuel with
  | zero => rfl
  | succ fuel => rw [readMembers?, readMembers?, h]

/-! ## Whole numbers -/

theorem digits?_eq_ofDigitChars (hne : cs ≠ []) (h : ∀ c ∈ cs, c.isDigit = true) :
    digits? cs = some (Nat.ofDigitChars 10 cs 0) := by
  have hall : ∀ acc, cs.foldlM (fun acc c =>
      if c.isDigit then some (acc * 10 + (c.toNat - '0'.toNat)) else none) acc =
        some (Nat.ofDigitChars 10 cs acc) := by
    clear hne
    induction cs with
    | nil => exact fun acc => rfl
    | cons c cs ih =>
      intro acc
      obtain ⟨hc, hcs⟩ := List.forall_mem_cons.mp h
      rw [List.foldlM_cons, if_pos hc, Nat.ofDigitChars_cons, Nat.mul_comm]
      exact ih hcs _
  rw [digits?, if_neg (by simpa using hne)]
  exact hall 0

theorem isDigit_of_mem_toDigits {n : Nat} {c : Char} (h : c ∈ Nat.toDigits 10 n) :
    c.isDigit = true := Nat.isDigit_of_mem_toDigits (by decide) (by decide) h

theorem magnitude?_toDigits (negative : Bool) (n : Nat) :
    magnitude? negative (Nat.toDigits 10 n) = some (.int (if negative then -(n : Int) else n)) := by
  have hdigits : ∀ c ∈ Nat.toDigits 10 n, c.isDigit = true := fun c => isDigit_of_mem_toDigits
  rw [magnitude?, List.takeWhile_eq_self_iff.mpr hdigits,
    List.dropWhile_eq_nil_iff.mpr hdigits]
  dsimp only
  rw [digits?_eq_ofDigitChars Nat.toDigits_ne_nil hdigits, Nat.ofDigitChars_ten_toDigits]
  rfl

theorem toList_toString_ofNat (n : Nat) : (toString (Int.ofNat n)).toList = Nat.toDigits 10 n := by
  have hnat : toString (Int.ofNat n) = toString n := rfl
  rw [hnat, Nat.toString_eq_ofList_toDigits, String.toList_ofList]

theorem toList_toString_negSucc (n : Nat) :
    (toString (Int.negSucc n)).toList = '-' :: Nat.toDigits 10 (n + 1) := by
  have hnat : toString (Int.negSucc n) = "-" ++ toString (n + 1) := rfl
  rw [hnat, String.toList_append, Nat.toString_eq_ofList_toDigits, String.toList_ofList]
  simp

/-- Whether a number can start with a character. -/
def startsNumber (c : Char) : Bool := c == '-' || c.isDigit

/-- A number starts with its sign or with a digit, and goes on with digits. -/
theorem exists_toString (i : Int) : ∃ c ds, (toString i).toList = c :: ds ∧
    startsNumber c = true ∧ ∀ d ∈ c :: ds, isNumberChar d = true := by
  have hnumber : ∀ n, ∀ d ∈ Nat.toDigits 10 n, isNumberChar d = true := fun n d hd => by
    rw [isNumberChar, isDigit_of_mem_toDigits hd, Bool.true_or]
  cases i with
  | ofNat n =>
    rw [toList_toString_ofNat]
    obtain ⟨c, ds, hlist⟩ := List.exists_cons_of_ne_nil (@Nat.toDigits_ne_nil n 10)
    have hdigit : c.isDigit = true := isDigit_of_mem_toDigits (hlist ▸ List.mem_cons_self)
    exact ⟨c, ds, hlist, Bool.or_eq_true_iff.mpr (Or.inr hdigit), hlist ▸ hnumber n⟩
  | negSucc n =>
    refine ⟨'-', _, toList_toString_negSucc n, rfl, ?_⟩
    exact List.forall_mem_cons.mpr ⟨rfl, hnumber (n + 1)⟩

theorem toNat_lt_of_isNumberChar {c : Char} (h : isNumberChar c = true) : c.toNat < 0x80 := by
  rcases Bool.or_eq_true_iff.mp h with hdigit | hother
  · have hrange : c.toNat ≤ 57 := (Bool.and_eq_true_iff.mp hdigit).2 |> of_decide_eq_true
    omega
  · have hall : ("+-.eE".toList.all fun d => d.toNat < 0x80) = true := by decide
    exact of_decide_eq_true (List.all_eq_true.mp hall c (List.contains_iff_mem.mp hother))

theorem unpaired_toString (i : Int) : Text.Unpaired (toString i) := by
  obtain ⟨c, ds, hlist, -, hnumber⟩ := exists_toString i
  rw [← String.append_empty (s := toString i)]
  refine Text.unpaired_append (List.all_eq_true.mpr fun d hd => ?_) (by decide)
  have hlow := toNat_lt_of_isNumberChar (hnumber d (hlist ▸ hd))
  exact decide_eq_true (Nat.lt_trans hlow (by decide))

/-- A whole number is read from its text. -/
theorem number?_toString (i : Int) : number? (toString i).toList = some (.int i) := by
  cases i with
  | ofNat n =>
    obtain ⟨c, ds, hlist⟩ := List.exists_cons_of_ne_nil (@Nat.toDigits_ne_nil n 10)
    have hsign : c ≠ '-' := by
      rintro rfl
      exact absurd (isDigit_of_mem_toDigits (hlist ▸ List.mem_cons_self)) (by decide)
    have hmagnitude := magnitude?_toDigits false n
    rw [toList_toString_ofNat, hlist] at *
    rw [number?]
    · exact hmagnitude
    · rintro cs h
      exact hsign (List.cons.inj h).1
  | negSucc n =>
    rw [toList_toString_negSucc, number?, magnitude?_toDigits]
    rfl

theorem readValue?_of_number {c : Char} (h : startsNumber c = true) :
    readValue? (fuel + 1) (c :: cs) = (number? ((c :: cs).takeWhile isNumberChar)).map
      fun v => (v, (c :: cs).dropWhile isNumberChar) := by
  -- no other form starts like a number
  have hother : ∀ d ∈ [' ', '\n', '\r', '\t', '"', '[', '\x7b', 'n', 't', 'f'], c ≠ d := by
    have hnone : ([' ', '\n', '\r', '\t', '"', '[', '\x7b', 'n', 't', 'f'].all
        fun d => !startsNumber d) = true := by decide
    rintro d hd rfl
    have hc := List.all_eq_true.mp hnone c hd
    rw [h] at hc
    cases hc
  have hblank : skipBlank (c :: cs) = c :: cs := by
    simp only [List.forall_mem_cons] at hother
    simp [skipBlank, hother]
  rw [readValue?, hblank]
  split
  case h_7 => rfl
  all_goals
    next heq => exact absurd (List.cons.inj heq).1 (hother _ (by decide))

theorem readValue?_int (i : Int) (hcs : ∀ c ∈ cs.head?, isNumberChar c = false) :
    readValue? (fuel + 1) ((toString i).toList ++ cs) = some (.int i, cs) := by
  obtain ⟨c, ds, hlist, hstart, hall⟩ := exists_toString i
  have hread := number?_toString i
  rw [hlist] at hread ⊢
  have hstop : cs.takeWhile isNumberChar = [] ∧ cs.dropWhile isNumberChar = cs := by
    cases cs with
    | nil => exact ⟨rfl, rfl⟩
    | cons d cs =>
      have hd := hcs d rfl
      exact ⟨List.takeWhile_cons_of_neg (by simp [hd]),
        List.dropWhile_cons_of_neg (by simp [hd])⟩
  rw [List.cons_append, readValue?_of_number hstart, ← List.cons_append,
    List.takeWhile_append_of_pos hall, List.dropWhile_append_of_pos hall, hstop.1, hstop.2,
    List.append_nil, hread]
  rfl

/-! ## Sequences and mappings -/

variable {layout : Layout} {depth : Nat}

/-- A value reads back from what is written, whatever stands behind it. -/
def ReadsBack (v : Value) : Prop :=
  ∀ {layout : Layout} {depth : Nat} {text : String}, write layout depth v = .ok text →
    ∀ fuel cs, 2 * text.toList.length ≤ fuel → (∀ c ∈ cs.head?, isNumberChar c = false) →
      readValue? fuel (text.toList ++ cs) = some (v, cs)

/-- Behind the items, also on a line of its own, stands no part of a number. -/
theorem head?_fresh {c : Char} (hc : isNumberChar c = false) (layout : Layout) (depth : Nat)
    (cs : List Char) :
    ∀ d ∈ ((layout.fresh depth).toList ++ c :: cs).head?, isNumberChar d = false := by
  intro d hd
  cases layout with
  | compact =>
    obtain rfl := Option.some.inj hd
    exact hc
  | lines width limit =>
    have hline : ((Layout.lines width limit).fresh depth).toList =
        '\n' :: List.replicate (width * depth) ' ' := by simp [Layout.fresh]
    rw [hline] at hd
    obtain rfl := Option.some.inj hd
    decide

theorem head?_comma (cs : List Char) : ∀ d ∈ (',' :: cs).head?, isNumberChar d = false := by
  intro d hd
  obtain rfl := Option.some.inj hd
  decide

/-- The characters between the brackets of written items. -/
def joined (layout : Layout) (depth : Nat) (texts : List String) : List Char :=
  (layout.between depth).toList.intercalate (texts.map String.toList)

theorem joined_singleton (t : String) : joined layout depth [t] = t.toList :=
  List.intercalate_singleton

theorem joined_cons_cons (t t' : String) (ts : List String) :
    joined layout depth (t :: t' :: ts) =
      t.toList ++ ((layout.between depth).toList ++ joined layout depth (t' :: ts)) := by
  rw [joined, List.map_cons, List.map_cons, List.intercalate_cons_cons, List.append_assoc]
  rfl

theorem exists_joined (layout : Layout) (depth : Nat) (t : String) (ts : List String) :
    ∃ more, joined layout depth (t :: ts) = t.toList ++ more := by
  cases ts with
  | nil => exact ⟨[], (joined_singleton t).trans (List.append_nil _).symm⟩
  | cons t' ts => exact ⟨_, joined_cons_cons t t' ts⟩

theorem toList_enclosed_nil (left right : String) :
    (enclosed layout depth left right []).toList = left.toList ++ right.toList :=
  String.toList_append

theorem toList_enclosed (left right t : String) (ts : List String) :
    (enclosed layout depth left right (t :: ts)).toList =
      left.toList ++ ((layout.fresh (depth + 1)).toList ++
        (joined layout (depth + 1) (t :: ts) ++
          ((layout.fresh depth).toList ++ right.toList))) := by
  rw [enclosed]
  · simp only [String.toList_append, String.toList_intercalate, List.append_assoc, joined]
  · exact fun h => nomatch h

/-- A sequence that is written is one of few enough levels, and its items are written. -/
theorem write_list_eq_ok {items : List Value} {text : String} :
    write layout depth (.ofList items) = .ok text ↔ layout.isFull depth = false ∧
      ∃ texts, writeItems layout (depth + 1) items = .ok texts ∧
        text = enclosed layout depth "[" "]" texts := by
  rw [Value.ofList, write]
  cases layout.isFull depth with
  | true =>
    refine iff_of_false (fun h => ?_) fun h => ?_
    · cases h
    · cases h.1
  | false =>
    cases writeItems layout (depth + 1) items with
    | error e =>
      refine iff_of_false (fun h => ?_) fun h => ?_
      · cases h
      · obtain ⟨-, _, h, -⟩ := h
        cases h
    | ok texts =>
      refine ⟨fun h => ⟨rfl, texts, rfl, (Except.ok.inj h).symm⟩, ?_⟩
      rintro ⟨-, _, h, rfl⟩
      cases h
      rfl

/-- So is a mapping with its entries. -/
theorem write_dict_eq_ok {entries : List (Value × Value)} {text : String} :
    write layout depth (.ofEntries entries) = .ok text ↔ layout.isFull depth = false ∧
      ∃ texts, writeEntries layout (depth + 1) entries = .ok texts ∧
        text = enclosed layout depth "\x7b" "\x7d" texts := by
  rw [Value.ofEntries, write]
  cases layout.isFull depth with
  | true =>
    refine iff_of_false (fun h => ?_) fun h => ?_
    · cases h
    · cases h.1
  | false =>
    cases writeEntries layout (depth + 1) entries with
    | error e =>
      refine iff_of_false (fun h => ?_) fun h => ?_
      · cases h
      · obtain ⟨-, _, h, -⟩ := h
        cases h
    | ok texts =>
      refine ⟨fun h => ⟨rfl, texts, rfl, (Except.ok.inj h).symm⟩, ?_⟩
      rintro ⟨-, _, h, rfl⟩
      cases h
      rfl

theorem writeItems_cons_eq_ok {v : Value} {items : List Value} {texts : List String}
    (h : writeItems layout depth (v :: items) = .ok texts) : ∃ t ts,
      write layout depth v = .ok t ∧ writeItems layout depth items = .ok ts ∧ texts = t :: ts := by
  obtain ⟨t, ht, h⟩ := bind_eq_ok.mp h
  obtain ⟨ts, hts, h⟩ := bind_eq_ok.mp h
  cases h
  exact ⟨t, ts, ht, hts, rfl⟩

/-- Items are read up to the closing bracket. -/
theorem readItems?_joined {items : List Value} {blank : List Char} (hne : items ≠ [])
    (hread : ∀ v ∈ items, ReadsBack v)
    (hblank : skipBlank (blank ++ ']' :: cs) = ']' :: cs)
    (hhead : ∀ c ∈ (blank ++ ']' :: cs).head?, isNumberChar c = false) :
    ∀ {texts : List String}, writeItems layout depth items = .ok texts → ∀ fuel : Nat,
      2 * (joined layout depth texts).length + 1 ≤ fuel →
        readItems? fuel (joined layout depth texts ++ (blank ++ ']' :: cs)) = some (items, cs) := by
  induction items with
  | nil => exact absurd rfl hne
  | cons v items ih =>
    intro texts hwrite fuel hfuel
    obtain ⟨t, ts, ht, hts, rfl⟩ := writeItems_cons_eq_ok hwrite
    obtain ⟨hv, hitems⟩ := List.forall_mem_cons.mp hread
    obtain _ | fuel := fuel
    · omega
    cases items with
    | nil =>
      cases hts
      rw [joined_singleton] at hfuel ⊢
      rw [readItems?, hv ht fuel _ (by omega) hhead]
      simp only [Option.bind_eq_bind, Option.bind_some, hblank]
      rfl
    | cons w items =>
      obtain ⟨t', ts', -, -, rfl⟩ := writeItems_cons_eq_ok hts
      obtain ⟨space, hbetween, hspace⟩ := exists_between layout depth
      have hrest := ih (List.cons_ne_nil _ _) hitems hts
      rw [joined_cons_cons, hbetween] at hfuel ⊢
      generalize joined layout depth (t' :: ts') = others at hfuel hrest ⊢
      simp only [List.length_append, List.length_cons] at hfuel
      have hfirst := hv ht fuel (',' :: (space ++ (others ++ (blank ++ ']' :: cs)))) (by omega)
        (head?_comma _)
      have hothers := (readItems?_congr (hspace _)).trans (hrest fuel (by omega))
      simp only [List.append_assoc, List.cons_append]
      rw [readItems?, hfirst]
      simp only [Option.bind_eq_bind, Option.bind_some]
      rw [skipBlank, if_neg (by decide)]
      simp only [hothers]
      rfl

theorem writeEntries_cons_eq_ok {key : String} {v : Value} {entries : List (Value × Value)}
    {texts : List String} (h : writeEntries layout depth ((.str key, v) :: entries) = .ok texts) :
    ∃ t ts, write layout depth v = .ok t ∧ writeEntries layout depth entries = .ok ts ∧
      texts = (quoted key ++ ": " ++ t) :: ts := by
  obtain ⟨_, hkey, h⟩ := bind_eq_ok.mp h
  cases hkey
  obtain ⟨t, ht, h⟩ := bind_eq_ok.mp h
  obtain ⟨ts, hts, h⟩ := bind_eq_ok.mp h
  cases h
  exact ⟨t, ts, ht, hts, rfl⟩

/-- An entry is read behind its key. -/
theorem readMembers?_entry {key t : String} {v : Value} (hkey : Text.Unpaired key)
    (hread : ReadsBack v) (ht : write layout depth v = .ok t) (hfuel : 2 * t.toList.length ≤ fuel)
    (hhead : ∀ c ∈ cs.head?, isNumberChar c = false) :
    readMembers? (fuel + 1) ((quoted key ++ ": " ++ t).toList ++ cs) =
      match skipBlank cs with
      | ',' :: rest => do
        let (es, rest) ← readMembers? fuel rest
        return ((.str key, v) :: es, rest)
      | '\x7d' :: rest => return ([(.str key, v)], rest)
      | _ => none := by
  have hvalue : readValue? fuel (' ' :: (t.toList ++ cs)) = some (v, cs) := by
    rw [← hread ht fuel cs hfuel hhead]
    exact readValue?_congr rfl
  have hlist : (quoted key ++ ": " ++ t).toList ++ cs =
      '"' :: (escaped key ++ '"' :: ':' :: ' ' :: (t.toList ++ cs)) := by
    rw [String.toList_append, String.toList_append, toList_quoted]
    simp
  rw [hlist, readMembers?, skipBlank, if_neg (by decide)]
  simp only [string?_escaped hkey, Option.bind_eq_bind, Option.bind_some]
  rw [skipBlank, if_neg (by decide)]
  exact (congrArg (Option.bind · _) hvalue).trans rfl

/-- Entries are read up to the closing bracket. -/
theorem readMembers?_joined {entries : List (Value × Value)} {blank : List Char}
    (hne : entries ≠ []) (hkeys : ∀ e ∈ entries, ∃ key, e.1 = .str key ∧ Text.Unpaired key)
    (hread : ∀ e ∈ entries, ReadsBack e.2)
    (hblank : skipBlank (blank ++ '\x7d' :: cs) = '\x7d' :: cs)
    (hhead : ∀ c ∈ (blank ++ '\x7d' :: cs).head?, isNumberChar c = false) :
    ∀ {texts : List String}, writeEntries layout depth entries = .ok texts → ∀ fuel : Nat,
      2 * (joined layout depth texts).length + 1 ≤ fuel →
        readMembers? fuel (joined layout depth texts ++ (blank ++ '\x7d' :: cs)) =
          some (entries, cs) := by
  induction entries with
  | nil => exact absurd rfl hne
  | cons e entries ih =>
    obtain ⟨k, v⟩ := e
    intro texts hwrite fuel hfuel
    obtain ⟨⟨key, rfl, hkey⟩, hothers⟩ := List.forall_mem_cons.mp hkeys
    obtain ⟨hv, hentries⟩ := List.forall_mem_cons.mp hread
    obtain ⟨t, ts, ht, hts, rfl⟩ := writeEntries_cons_eq_ok hwrite
    obtain _ | fuel := fuel
    · omega
    have hlength : t.toList.length ≤ (quoted key ++ ": " ++ t).toList.length := by
      rw [String.toList_append, List.length_append]
      omega
    cases entries with
    | nil =>
      cases hts
      rw [joined_singleton] at hfuel ⊢
      rw [readMembers?_entry hkey hv ht (by omega) hhead, hblank]
      rfl
    | cons e entries =>
      obtain ⟨t', ts', rfl⟩ : ∃ t' ts', ts = t' :: ts' := by
        obtain ⟨⟨key', hkey', -⟩, -⟩ := List.forall_mem_cons.mp hothers
        obtain ⟨k', v'⟩ := e
        cases hkey'
        obtain ⟨t', ts', -, -, rfl⟩ := writeEntries_cons_eq_ok hts
        exact ⟨_, _, rfl⟩
      obtain ⟨space, hbetween, hspace⟩ := exists_between layout depth
      have hrest := ih (List.cons_ne_nil _ _) hothers hentries hts
      rw [joined_cons_cons, hbetween] at hfuel ⊢
      generalize joined layout depth (t' :: ts') = others at hfuel hrest ⊢
      simp only [List.length_append, List.length_cons] at hfuel
      have hothers := (readMembers?_congr (hspace _)).trans (hrest fuel (by omega))
      simp only [List.append_assoc, List.cons_append]
      rw [readMembers?_entry hkey hv ht (by omega) (head?_comma _), skipBlank, if_neg (by decide)]
      simp only [hothers]
      rfl

/-! ## Values -/

/-- Whether a character is neither a blank nor a closing bracket. -/
def opens (c : Char) : Bool := !(List.contains [' ', '\n', '\r', '\t', ']', '\x7d'] c)

theorem skipBlank_cons {c : Char} (h : opens c = true) (cs : List Char) :
    skipBlank (c :: cs) = c :: cs := by
  simp only [opens, Bool.not_eq_true', List.contains_eq_mem, decide_eq_false_iff_not, List.mem_cons,
    not_or] at h
  simp [skipBlank, h]

theorem exists_enclosed (layout : Layout) (depth : Nat) (left right : String)
    (texts : List String) :
    ∃ ds, (enclosed layout depth left right texts).toList = left.toList ++ ds := by
  cases texts with
  | nil => exact ⟨_, toList_enclosed_nil left right⟩
  | cons t ts => exact ⟨_, toList_enclosed left right t ts⟩

/-- A written value starts with no blank and with no closing bracket. -/
theorem exists_head {v : Value} {text : String} (h : Readable v)
    (hwrite : write layout depth v = .ok text) :
    ∃ c ds, text.toList = c :: ds ∧ opens c = true := by
  cases h with
  | null =>
    cases hwrite
    exact ⟨'n', _, rfl, by decide⟩
  | bool b =>
    cases hwrite
    cases b with
    | false => exact ⟨'f', _, rfl, by decide⟩
    | true => exact ⟨'t', _, rfl, by decide⟩
  | int i =>
    rw [write, intText] at hwrite
    split at hwrite
    · cases hwrite
      obtain ⟨c, ds, hlist, hstart, -⟩ := exists_toString i
      refine ⟨c, ds, hlist, ?_⟩
      have hall : ([' ', '\n', '\r', '\t', ']', '\x7d'].all fun d => !startsNumber d) = true := by
        decide
      rw [opens, Bool.not_eq_true', List.contains_eq_mem, decide_eq_false_iff_not]
      intro hc
      have hnone := List.all_eq_true.mp hall c hc
      rw [hstart] at hnone
      cases hnone
    · cases hwrite
  | @text s unpaired =>
    cases hwrite
    exact ⟨'"', _, toList_quoted s, by decide⟩
  | list readable =>
    obtain ⟨-, texts, -, rfl⟩ := write_list_eq_ok.mp hwrite
    obtain ⟨ds, hlist⟩ := exists_enclosed layout depth "[" "]" texts
    exact ⟨'[', ds, hlist, by decide⟩
  | dict keys different readable =>
    obtain ⟨-, texts, -, rfl⟩ := write_dict_eq_ok.mp hwrite
    obtain ⟨ds, hlist⟩ := exists_enclosed layout depth "\x7b" "\x7d" texts
    exact ⟨'\x7b', ds, hlist, by decide⟩

/-- A sequence that does not end at once is read item by item. -/
theorem readValue?_list {c : Char} {ds rest : List Char} {items : List Value}
    (hc : opens c = true)
    (h : readItems? fuel (c :: ds) = some (items, rest)) :
    readValue? (fuel + 1) ('[' :: ((layout.fresh depth).toList ++ c :: ds)) =
      some (.ofList items, rest) := by
  rw [readValue?, skipBlank, if_neg (by decide)]
  simp only [skipBlank_fresh, skipBlank_cons hc]
  split
  · next heq =>
    obtain rfl := (List.cons.inj heq).1
    cases hc
  · rw [h]
    rfl

theorem readsBack_list {items : List Value} (hreadable : ∀ v ∈ items, Readable v)
    (hread : ∀ v ∈ items, ReadsBack v) : ReadsBack (.ofList items) := by
  intro layout depth text hwrite fuel cs hfuel _
  obtain ⟨-, texts, htexts, rfl⟩ := write_list_eq_ok.mp hwrite
  cases items with
  | nil =>
    cases htexts
    have hpair : (enclosed layout depth "[" "]" []).toList = ['[', ']'] := toList_enclosed_nil _ _
    rw [hpair] at hfuel ⊢
    obtain _ | fuel := fuel
    · cases Nat.le_zero.mp hfuel
    · rfl
  | cons v items =>
    obtain ⟨t, ts, ht, -, rfl⟩ := writeItems_cons_eq_ok htexts
    obtain ⟨c, ds, hlist, hc⟩ := exists_head (hreadable v List.mem_cons_self) ht
    obtain ⟨more, hmore⟩ := exists_joined layout (depth + 1) t ts
    have hitems := readItems?_joined (List.cons_ne_nil _ _) hread
      (skipBlank_fresh layout depth (']' :: cs)) (head?_fresh rfl layout depth cs) htexts
    rw [toList_enclosed] at hfuel ⊢
    rw [hmore, hlist] at hfuel hitems ⊢
    obtain _ | fuel := fuel
    · cases Nat.le_zero.mp hfuel
    have hbracket : "[".toList.length = 1 := rfl
    simp only [List.length_append, List.length_cons, List.append_assoc] at hfuel hitems ⊢
    exact readValue?_list hc (hitems fuel (by omega))

/-- A mapping that does not end at once is read entry by entry. -/
theorem readValue?_dict {ds rest : List Char} {entries : List (Value × Value)}
    (h : readMembers? fuel ('"' :: ds) = some (entries, rest)) :
    readValue? (fuel + 1) ('\x7b' :: ((layout.fresh depth).toList ++ '"' :: ds)) =
      some (.ofEntries (OrderedMap.ofList entries).entries, rest) := by
  rw [readValue?, skipBlank, if_neg (by decide)]
  simp only [skipBlank_fresh, skipBlank_cons (show opens '"' = true by decide)]
  split
  · next heq => exact absurd (List.cons.inj heq).1 (by decide)
  · rw [h]
    rfl

theorem readsBack_dict {entries : List (Value × Value)}
    (hkeys : ∀ e ∈ entries, ∃ key, e.1 = .str key ∧ Text.Unpaired key)
    (hdifferent : (entries.map (·.1)).Nodup) (hread : ∀ e ∈ entries, ReadsBack e.2) :
    ReadsBack (.ofEntries entries) := by
  intro layout depth text hwrite fuel cs hfuel _
  obtain ⟨-, texts, htexts, rfl⟩ := write_dict_eq_ok.mp hwrite
  cases entries with
  | nil =>
    cases htexts
    have hpair : (enclosed layout depth "\x7b" "\x7d" []).toList = ['\x7b', '\x7d'] :=
      toList_enclosed_nil _ _
    rw [hpair] at hfuel ⊢
    obtain _ | fuel := fuel
    · cases Nat.le_zero.mp hfuel
    · rfl
  | cons e entries =>
    have hentries := readMembers?_joined (List.cons_ne_nil _ _) hkeys hread
      (skipBlank_fresh layout depth ('\x7d' :: cs)) (head?_fresh rfl layout depth cs) htexts
    -- keys are texts, which are equal only if they are the same
    have hall : ((e :: entries).Pairwise fun a b => (a.1 == b.1) = false) := by
      refine (List.pairwise_map.mp hdifferent).imp_of_mem fun {a b} ha hb hne => ?_
      obtain ⟨k, hk, -⟩ := hkeys a ha
      obtain ⟨k', hk', -⟩ := hkeys b hb
      rw [hk, hk', Value.beq_eq_same, Value.same_str, beq_eq_false_iff_ne]
      exact fun heq => hne (by rw [hk, hk', heq])
    obtain ⟨k, v⟩ := e
    obtain ⟨key, rfl, -⟩ := hkeys _ List.mem_cons_self
    obtain ⟨t, ts, -, -, rfl⟩ := writeEntries_cons_eq_ok htexts
    obtain ⟨more, hmore⟩ := exists_joined layout (depth + 1) (quoted key ++ ": " ++ t) ts
    obtain ⟨ds, hstart⟩ : ∃ ds, (quoted key ++ ": " ++ t).toList = '"' :: ds := by
      rw [String.toList_append, String.toList_append, toList_quoted]
      exact ⟨_, rfl⟩
    rw [toList_enclosed] at hfuel ⊢
    rw [hmore, hstart] at hfuel hentries ⊢
    obtain _ | fuel := fuel
    · cases Nat.le_zero.mp hfuel
    have hbracket : "\x7b".toList.length = 1 := rfl
    simp only [List.length_append, List.length_cons, List.append_assoc, List.cons_append]
      at hfuel hentries ⊢
    have hmapping := @readValue?_dict fuel layout (depth + 1) _ _ _ (hentries fuel (by omega))
    rw [OrderedMap.entries_ofList_of_pairwise hall] at hmapping
    exact hmapping

/-- What has a form of its own reads back, whatever stands behind it. -/
theorem readsBack {v : Value} (h : Readable v) : ReadsBack v := by
  induction h with
  | null =>
    intro layout depth text hwrite fuel cs hfuel _
    cases hwrite
    obtain _ | fuel := fuel
    · cases Nat.le_zero.mp hfuel
    · rfl
  | bool b =>
    intro layout depth text hwrite fuel cs hfuel _
    obtain _ | fuel := fuel
    · cases b <;> cases hwrite <;> cases Nat.le_zero.mp hfuel
    · cases b <;> cases hwrite <;> rfl
  | int i =>
    intro layout depth text hwrite fuel cs hfuel hhead
    rw [write, intText] at hwrite
    split at hwrite
    · cases hwrite
      obtain _ | fuel := fuel
      · obtain ⟨c, ds, hlist, -⟩ := exists_toString i
        rw [hlist] at hfuel
        cases Nat.le_zero.mp hfuel
      · exact readValue?_int i hhead
    · cases hwrite
  | @text s unpaired =>
    intro layout depth text hwrite fuel cs hfuel _
    cases hwrite
    rw [toList_quoted] at hfuel ⊢
    obtain _ | fuel := fuel
    · cases Nat.le_zero.mp hfuel
    · rw [List.cons_append, List.append_assoc, readValue?, skipBlank, if_neg (by decide)]
      simp only [List.singleton_append, string?_escaped unpaired]
      rfl
  | list readable ih => exact readsBack_list readable ih
  | dict keys different readable ih => exact readsBack_dict keys different ih

/-- A value that has a form of its own is read back from its text, in any layout. -/
theorem read?_write {v : Value} {text : String} (h : Readable v)
    (hwrite : write layout depth v = .ok text) : read? text = some v := by
  have hread := readsBack h hwrite (2 * text.toList.length + 2) [] (by omega) nofun
  rw [List.append_nil] at hread
  rw [read?, hread]
  rfl

end Json

end FluxFleet
