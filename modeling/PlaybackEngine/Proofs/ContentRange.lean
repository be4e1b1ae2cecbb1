import Mathlib
import PlaybackEngine.Host.Http

set_option autoImplicit false

/-!
# Reading a `Content-Range` value and opening a body

A `Content-Range` value is read by trimming blanks, taking off the word `bytes`, and cutting at
the first `/` and then at the first `-`; the start and the total are 64-bit decimal numbers,
the total possibly `*`. This module describes that language exactly (`parseContentRange_eq_some_iff`):
a value reads as `(start, total)` just when it is `bytes`, then a range up to the first `/`
whose text before its first `-` is a numeral of the start, then a total that is `*` or a
numeral. A numeral here (`WordNumeral`) is what a 64-bit unsigned number reads from: an optional
`+`, then decimal digits with any leading zeros, of a value below `2 ^ 64`.

So every `bytes <start>-<end>/<total>` with blanks around it reads back (`parseContentRange_bytes`),
whatever the end holds short of a `/`.

Opening a body from an answer's head (`openHead`) starts at the range's start for a partial answer
with a usable range; without one it starts at the offset asked for, and the total is the body's
length past the offset, counted in a 64-bit word: the exact sum while it stays below `2 ^ 64`,
wrapped past it. Any other success starts at zero, and every other status is an HTTP error.
-/

namespace PlaybackEngine.Http

open Text

/-! ## Decimal numerals -/

/-- The value of decimal digits read left to right onto `acc`, as `parseWord` reads them. -/
def digitsValue (acc : Nat) (ds : List Char) : Nat :=
  ds.foldl (fun n d => n * 10 + (d.toNat - '0'.toNat)) acc

/-- `text` reads as the unsigned 64-bit number `n`: an optional `+`, then any zeros, then the
decimal digits of `n`, with `n` below `2 ^ 64`. -/
def WordNumeral (text : String) (n : Nat) : Prop :=
  n < wordModulus ∧ ∃ zeros : Nat,
    text.toList = List.replicate zeros '0' ++ Nat.toDigits 10 n ∨
      text.toList = '+' :: (List.replicate zeros '0' ++ Nat.toDigits 10 n)

theorem isDigit_iff_toNat {c : Char} : c.isDigit ↔ 48 ≤ c.toNat ∧ c.toNat ≤ 57 := by
  simp only [Char.isDigit, Bool.and_eq_true, decide_eq_true_eq, UInt32.le_iff_toNat_le]
  rfl

theorem toNat_zero_char : '0'.toNat = 48 := rfl

theorem digitsValue_append (acc : Nat) (l₁ l₂ : List Char) :
    digitsValue acc (l₁ ++ l₂) = digitsValue (digitsValue acc l₁) l₂ :=
  List.foldl_append

@[simp] theorem digitsValue_replicate_zero (zeros : Nat) :
    digitsValue 0 (List.replicate zeros '0') = 0 := by
  induction zeros with
  | zero => rfl
  | succ zeros ih => rw [List.replicate_succ', digitsValue_append, ih]; rfl

theorem isDigit_of_mem_toDigits {n : Nat} {c : Char} (h : c ∈ Nat.toDigits 10 n) : c.isDigit := by
  induction n using Nat.strong_induction_on with
  | _ n ih =>
    rw [Nat.toDigits_eq_if (by decide)] at h
    split at h
    · next hn =>
      rw [List.mem_singleton.mp h, Nat.isDigit_digitChar]
      exact decide_eq_true hn
    · next hn =>
      rcases List.mem_append.mp h with h | h
      · exact ih (n / 10) (Nat.div_lt_self (by omega) (by decide)) h
      · rw [List.mem_singleton.mp h, Nat.isDigit_digitChar]
        exact decide_eq_true (Nat.mod_lt n (by decide))

/-- The decimal digits of `n` read back as `n`. -/
theorem digitsValue_toDigits (n : Nat) : digitsValue 0 (Nat.toDigits 10 n) = n := by
  induction n using Nat.strong_induction_on with
  | _ n ih =>
    rw [Nat.toDigits_eq_if (by decide)]
    split
    · next hn =>
      simp [digitsValue, Nat.toNat_digitChar_of_lt_ten hn]
    · next hn =>
      rw [digitsValue_append, ih (n / 10) (Nat.div_lt_self (by omega) (by decide))]
      simp only [digitsValue, List.foldl_cons, List.foldl_nil, toNat_zero_char,
        Nat.toNat_digitChar_of_lt_ten (Nat.mod_lt n (by decide : 10 > 0))]
      omega

/-- A digit character is the digit of its value. -/
theorem digitChar_of_isDigit {c : Char} (h : c.isDigit) : Nat.digitChar (c.toNat - '0'.toNat) = c := by
  rw [isDigit_iff_toNat] at h
  apply Char.toNat_inj.mp
  rw [toNat_zero_char, Nat.toNat_digitChar_of_lt_ten (by omega)]
  omega

/-- Digits read onto a positive value extend its decimal digits. -/
theorem toDigits_append_digitsValue {cs : List Char} (hd : ∀ c ∈ cs, c.isDigit) {acc : Nat}
    (ha : 0 < acc) : Nat.toDigits 10 acc ++ cs = Nat.toDigits 10 (digitsValue acc cs) := by
  induction cs generalizing acc with
  | nil => simp [digitsValue]
  | cons c cs ih =>
    have hc := hd c List.mem_cons_self
    have hv : c.toNat - '0'.toNat < 10 := by
      rw [isDigit_iff_toNat] at hc
      rw [toNat_zero_char]
      omega
    have hstep := @Nat.toDigits_append_toDigits 10 acc (c.toNat - '0'.toNat) (by decide) ha hv
    rw [Nat.toDigits_of_lt_base hv, digitChar_of_isDigit hc] at hstep
    calc Nat.toDigits 10 acc ++ c :: cs = (Nat.toDigits 10 acc ++ [c]) ++ cs := by simp
      _ = Nat.toDigits 10 (acc * 10 + (c.toNat - '0'.toNat)) ++ cs := by rw [hstep, Nat.mul_comm]
      _ = Nat.toDigits 10 (digitsValue acc (c :: cs)) :=
        ih (fun c' h' => hd c' (List.mem_cons_of_mem c h')) (by omega)

/-- Non-empty decimal digits are some zeros, then the digits of their value. -/
theorem eq_zeros_append_toDigits {ds : List Char} (hne : ds ≠ []) (hd : ∀ c ∈ ds, c.isDigit) :
    ∃ zeros, ds = List.replicate zeros '0' ++ Nat.toDigits 10 (digitsValue 0 ds) := by
  induction ds with
  | nil => exact absurd rfl hne
  | cons c cs ih =>
    have hcs : ∀ c ∈ cs, c.isDigit := fun c' h' => hd c' (List.mem_cons_of_mem c h')
    by_cases hzero : c = '0'
    · subst hzero
      -- a leading zero adds nothing to the value
      have hval : digitsValue 0 ('0' :: cs) = digitsValue 0 cs := rfl
      rcases eq_or_ne cs [] with rfl | hne'
      · exact ⟨0, rfl⟩
      · obtain ⟨zeros, hz⟩ := ih hne' hcs
        refine ⟨zeros + 1, ?_⟩
        rw [hval, List.replicate_succ, List.cons_append, ← hz]
    · -- a first digit other than zero starts the decimal digits of the value
      have hc := hd c List.mem_cons_self
      have hne : c.toNat ≠ '0'.toNat := fun h => hzero (Char.toNat_inj.mp h)
      rw [isDigit_iff_toNat] at hc
      rw [toNat_zero_char] at hne
      have hpos : 0 < c.toNat - '0'.toNat := by rw [toNat_zero_char]; omega
      have hv : c.toNat - '0'.toNat < 10 := by rw [toNat_zero_char]; omega
      have hval : digitsValue 0 (c :: cs) = digitsValue (c.toNat - '0'.toNat) cs := by
        simp [digitsValue]
      have h := toDigits_append_digitsValue hcs hpos
      rw [Nat.toDigits_of_lt_base hv, digitChar_of_isDigit (hd c List.mem_cons_self)] at h
      exact ⟨0, by rw [hval, ← h]; rfl⟩

/-- The text of a numeral after a leading `+`. -/
def unsignedPart : List Char → List Char
  | '+' :: r => r
  | r => r

/-- The value of decimal digits, if there is at least one and nothing else, and the value fits
in 64 bits. -/
def digitsWord? (ds : List Char) : Option Nat :=
  if ds.isEmpty || !ds.all Char.isDigit then none
  else if digitsValue 0 ds < 2 ^ 64 then some (digitsValue 0 ds) else none

theorem parseWord_eq (s : String) : parseWord s = digitsWord? (unsignedPart s.toList) := rfl

theorem unsignedPart_cons_of_ne {c : Char} (h : c ≠ '+') (r : List Char) :
    unsignedPart (c :: r) = c :: r := by
  unfold unsignedPart
  split
  · next heq => exact absurd (List.cons.inj heq).1 h
  · rfl

/-- Some zeros then the digits of a value: every character is a digit. -/
theorem isDigit_of_mem_zeros_append {zeros n : Nat} {c : Char}
    (h : c ∈ List.replicate zeros '0' ++ Nat.toDigits 10 n) : c.isDigit := by
  rcases List.mem_append.mp h with h | h
  · rw [List.eq_of_mem_replicate h]
    rfl
  · exact isDigit_of_mem_toDigits h

theorem digitsWord?_eq_some_iff (ds : List Char) (n : Nat) :
    digitsWord? ds = some n ↔
      n < wordModulus ∧ ∃ zeros, ds = List.replicate zeros '0' ++ Nat.toDigits 10 n := by
  unfold digitsWord?
  constructor
  · intro h
    split_ifs at h with hbad hfit
    obtain rfl := Option.some.inj h
    simp only [Bool.or_eq_true, List.isEmpty_iff, Bool.not_eq_true', List.all_eq_false, not_or,
      not_exists, not_and, not_not] at hbad
    exact ⟨hfit, eq_zeros_append_toDigits hbad.1 hbad.2⟩
  · rintro ⟨hn, zeros, rfl⟩
    have hvalue : digitsValue 0 (List.replicate zeros '0' ++ Nat.toDigits 10 n) = n := by
      rw [digitsValue_append, digitsValue_replicate_zero, digitsValue_toDigits]
    have hgood : ¬((List.replicate zeros '0' ++ Nat.toDigits 10 n).isEmpty ||
        !(List.replicate zeros '0' ++ Nat.toDigits 10 n).all Char.isDigit) = true := by
      simp only [Bool.or_eq_true, List.isEmpty_iff, List.append_eq_nil_iff, Nat.toDigits_ne_nil,
        and_false, Bool.not_eq_true', List.all_eq_false, false_or, not_exists, not_and, not_not]
      exact fun c hc => isDigit_of_mem_zeros_append hc
    rw [if_neg hgood, hvalue, if_pos (show n < 2 ^ 64 from hn)]

/-- A 64-bit unsigned number reads from exactly its numerals. -/
theorem parseWord_eq_some_iff (s : String) (n : Nat) : parseWord s = some n ↔ WordNumeral s n := by
  rw [parseWord_eq, digitsWord?_eq_some_iff, WordNumeral]
  refine and_congr_right fun _ => exists_congr fun zeros => ?_
  -- a numeral without its sign starts with a digit, never with `+`
  have hplus : ∀ r, '+' :: r ≠ List.replicate zeros '0' ++ Nat.toDigits 10 n := fun r h =>
    absurd (isDigit_of_mem_zeros_append (h ▸ List.mem_cons_self)) (by decide)
  cases hs : s.toList with
  | nil =>
    have hne : List.replicate zeros '0' ++ Nat.toDigits 10 n ≠ [] := by simp [Nat.toDigits_ne_nil]
    simp [unsignedPart, Ne.symm hne]
  | cons c r =>
    by_cases hc : c = '+'
    · subst hc
      simp [unsignedPart, hplus r]
    · rw [unsignedPart_cons_of_ne hc]
      simp [hc]

/-! ## Trimming and cutting text -/

/-- Blanks in front of text whose first character is not blank are what dropping blanks
removes. -/
theorem dropWhile_blank_append {w l : List Char} (hw : ∀ x ∈ w, isBlank x = true)
    (hl : ∀ x ∈ l.head?, isBlank x = false) : (w ++ l).dropWhile isBlank = l := by
  rw [List.dropWhile_append_of_pos hw]
  cases l with
  | nil => rfl
  | cons c r => exact List.dropWhile_cons_of_neg (by simpa using hl)

/-- Dropping blanks from the front before a character that is not blank leaves that character
and what follows it. -/
theorem dropWhile_blank_append_cons (l r : List Char) {c : Char} (hc : isBlank c = false) :
    (l ++ c :: r).dropWhile isBlank = l.dropWhile isBlank ++ c :: r := by
  rw [List.dropWhile_append]
  split
  · next h =>
    rw [List.isEmpty_iff.mp h, List.nil_append]
    exact List.dropWhile_cons_of_neg (by simp [hc])
  · rfl

theorem dropWhile_blank_idem (l : List Char) :
    (l.dropWhile isBlank).dropWhile isBlank = l.dropWhile isBlank := by
  induction l with
  | nil => rfl
  | cons c l ih =>
    cases hc : isBlank c
    · simp [hc]
    · simp [hc, ih]

/-- Trimming text that is blanks, then text with no blank at either end, then blanks, leaves
that text. -/
theorem trimBlank_eq {s : String} {w₁ core w₂ : List Char} (hs : s.toList = w₁ ++ core ++ w₂)
    (h₁ : ∀ x ∈ w₁, isBlank x = true) (h₂ : ∀ x ∈ w₂, isBlank x = true) (hne : core ≠ [])
    (hhead : ∀ x ∈ core.head?, isBlank x = false) (hlast : ∀ x ∈ core.getLast?, isBlank x = false) :
    trimBlank s = String.ofList core := by
  have hfront : (w₁ ++ core ++ w₂).dropWhile isBlank = core ++ w₂ := by
    rw [List.append_assoc]
    exact dropWhile_blank_append h₁ (by rwa [List.head?_append_of_ne_nil _ hne])
  have hback : (w₂.reverse ++ core.reverse).dropWhile isBlank = core.reverse :=
    dropWhile_blank_append (by simpa using h₂) (by rwa [List.head?_reverse])
  unfold trimBlank
  rw [hs, hfront, List.reverse_append, hback, List.reverse_reverse]

/-- Blanks in front change no trimmed text. -/
theorem trimBlank_blank_append {w : List Char} (hw : ∀ x ∈ w, isBlank x = true) (s : String) :
    trimBlank (String.ofList w ++ s) = trimBlank s := by
  unfold trimBlank
  rw [String.toList_append, String.toList_ofList, List.dropWhile_append_of_pos hw]

theorem trimBlank_trimBlankStart (s : String) : trimBlank (trimBlankStart s) = trimBlank s := by
  unfold trimBlank trimBlankStart
  rw [String.toList_ofList, dropWhile_blank_idem]

/-- Cutting at the first `c`: the text before it, which holds no `c`, and the text after it. -/
theorem splitOnce_eq_some_iff (s : String) (c : Char) (before after : String) :
    splitOnce s c = some (before, after) ↔
      s.toList = before.toList ++ c :: after.toList ∧ c ∉ before.toList := by
  unfold splitOnce
  rw [List.span_eq_takeWhile_dropWhile]
  constructor
  · intro h
    split at h
    · next taken rest heq =>
      obtain ⟨htake, hdrop⟩ := Prod.mk.inj heq
      obtain ⟨rfl, rfl⟩ := Prod.mk.inj (Option.some.inj h)
      -- the first character not taken is the `c` cut at
      have hhead : List.dropWhile (· != c) s.toList ≠ [] := by rw [hdrop]; simp
      have hx := List.head_dropWhile_not (· != c) hhead
      simp only [hdrop, List.head_cons, bne_eq_false_iff_eq] at hx
      subst hx
      refine ⟨?_, fun hmem => ?_⟩
      · rw [String.toList_ofList, String.toList_ofList, ← htake, ← hdrop,
          List.takeWhile_append_dropWhile]
      · rw [String.toList_ofList, ← htake] at hmem
        simpa using List.mem_takeWhile_imp hmem
    · next heq => simp at h
  · rintro ⟨hs, hc⟩
    have hnot : ∀ x ∈ before.toList, (x != c) = true := by
      intro x hx
      simp only [bne_iff_ne, ne_eq]
      rintro rfl
      exact hc hx
    have htake : List.takeWhile (· != c) s.toList = before.toList := by
      rw [hs, List.takeWhile_append_of_pos hnot, List.takeWhile_cons_of_neg (by simp), List.append_nil]
    have hdrop : List.dropWhile (· != c) s.toList = c :: after.toList := by
      rw [hs, List.dropWhile_append_of_pos hnot, List.dropWhile_cons_of_neg (by simp)]
    simp [htake, hdrop]

/-- Taking a prefix off text leaves the rest of it. -/
theorem stripPrefix?_eq_some_iff (s pre rest : String) :
    stripPrefix? s pre = some rest ↔ s = pre ++ rest := by
  unfold stripPrefix?
  constructor
  · intro h
    split at h
    · next hpre =>
      obtain ⟨t, ht⟩ := List.isPrefixOf_iff_prefix.mp hpre
      obtain rfl := Option.some.inj h
      rw [String.ext_iff, String.toList_append, String.toList_ofList, ← ht,
        List.drop_left' String.length_toList]
    · simp at h
  · rintro rfl
    rw [String.toList_append, if_pos (List.isPrefixOf_iff_prefix.mpr (List.prefix_append _ _)),
      List.drop_left' String.length_toList, String.ofList_toList]

/-- Cutting after the blanks in front: cut the text at the first `c` and drop the blanks in front
of the part before it, when `c` is not blank. -/
theorem splitOnce_trimBlankStart {c : Char} (hc : isBlank c = false) (s range tail : String) :
    splitOnce (trimBlankStart s) c = some (range, tail) ↔
      ∃ mid : String, s.toList = mid.toList ++ c :: tail.toList ∧ c ∉ mid.toList ∧
        range = trimBlankStart mid := by
  have hblanks : c ∉ s.toList.takeWhile isBlank := fun h => by
    simp [List.mem_takeWhile_imp h] at hc
  rw [splitOnce_eq_some_iff]
  constructor
  · rintro ⟨hcut, hnot⟩
    -- the cut text is the blanks in front, then the trimmed part before the cut
    have hcut' : s.toList.dropWhile isBlank = range.toList ++ c :: tail.toList := by
      rwa [trimBlankStart, String.toList_ofList] at hcut
    -- the trimmed part has no blank in front
    have hrange : range.toList.dropWhile isBlank = range.toList := by
      have h := dropWhile_blank_idem s.toList
      rwa [hcut', dropWhile_blank_append_cons _ _ hc, List.append_left_inj] at h
    refine ⟨String.ofList (s.toList.takeWhile isBlank ++ range.toList), ?_, ?_, ?_⟩
    · rw [String.toList_ofList, List.append_assoc, ← hcut', List.takeWhile_append_dropWhile]
    · rw [String.toList_ofList, List.mem_append]
      exact fun h => h.elim hblanks hnot
    · rw [trimBlankStart, String.toList_ofList,
        List.dropWhile_append_of_pos fun x hx => List.mem_takeWhile_imp hx, hrange,
        String.ofList_toList]
  · rintro ⟨mid, hs, hnot, rfl⟩
    refine ⟨?_, fun h => hnot ((List.dropWhile_suffix isBlank).subset ?_)⟩
    · rw [trimBlankStart, trimBlankStart, String.toList_ofList, String.toList_ofList, hs,
        dropWhile_blank_append_cons _ _ hc]
    · rwa [trimBlankStart, String.toList_ofList] at h

/-! ## The language of `Content-Range` values -/

/-- How the total field reads: `*` for an unknown total, otherwise a numeral of the total. -/
def TotalReading (text : String) : Option Nat → Prop
  | none => text = "*"
  | some n => WordNumeral text n

/-- No numeral is `*`. -/
theorem WordNumeral.ne_star {text : String} {n : Nat} (h : WordNumeral text n) : text ≠ "*" := by
  rintro rfl
  obtain ⟨-, zeros, hs | hs⟩ := h
  · have hstar : '*' ∈ List.replicate zeros '0' ++ Nat.toDigits 10 n := by
      rw [← hs]
      exact List.mem_singleton_self '*'
    exact absurd (isDigit_of_mem_zeros_append hstar) (by decide)
  · simp at hs

/-- `value` reads as a range from `start` of content of total `total`: trimmed, it is `bytes`,
then a range up to its first `/`, then the total's text; the range holds a `-`, the part of the
range before its first `-` trims to a numeral of `start`, and the total's text trims to `*` or
to a numeral of the total. -/
def RangeReading (value : String) (start : Nat) (total : Option Nat) : Prop :=
  ∃ range tail before after : String,
    trimBlank value = "bytes" ++ range ++ "/" ++ tail ∧ '/' ∉ range.toList ∧
      range = before ++ "-" ++ after ∧ '-' ∉ before.toList ∧
      WordNumeral (trimBlank before) start ∧ TotalReading (trimBlank tail) total

theorem isBlank_slash : isBlank '/' = false := by decide

theorem isBlank_dash : isBlank '-' = false := by decide

/-- The values that read as `(start, total)` are exactly the range readings of them. -/
theorem parseContentRange_eq_some_iff (value : String) (start : Nat) (total : Option Nat) :
    parseContentRange value = some (start, total) ↔ RangeReading value start total := by
  simp only [parseContentRange, Option.bind_eq_bind, Option.bind_eq_some_iff, Prod.exists,
    Option.pure_def]
  constructor
  · rintro ⟨rest, hrest, _, tail, hslash, _, after, hdash, s, hs, htotal⟩
    obtain ⟨range, hsplit, hnoslash, rfl⟩ :=
      (splitOnce_trimBlankStart isBlank_slash _ _ _).mp hslash
    obtain ⟨before, hrange, hnodash, rfl⟩ := (splitOnce_trimBlankStart isBlank_dash _ _ _).mp hdash
    rw [trimBlank_trimBlankStart, parseWord_eq_some_iff] at hs
    have hvalue : trimBlank value = "bytes" ++ range ++ "/" ++ tail := by
      rw [(stripPrefix?_eq_some_iff _ _ _).mp hrest, String.ext_iff]
      simp [String.toList_append, hsplit]
    have hrange' : range = before ++ "-" ++ after := by
      rw [String.ext_iff]
      simp [String.toList_append, hrange]
    refine ⟨range, tail, before, after, hvalue, hnoslash, hrange', hnodash, ?_⟩
    -- the total is `*` or a numeral, as the last match reads it
    split at htotal
    · next hstar =>
      obtain ⟨rfl, rfl⟩ := Prod.mk.inj (Option.some.inj htotal)
      exact ⟨hs, hstar⟩
    · next hstar =>
      simp only [Option.bind_eq_some_iff, Option.map_eq_some_iff, Option.some.injEq,
        Prod.mk.injEq] at htotal
      obtain ⟨_, ⟨n, hn, rfl⟩, rfl, rfl⟩ := htotal
      exact ⟨hs, (parseWord_eq_some_iff _ _).mp hn⟩
  · rintro ⟨range, tail, before, after, hvalue, hslash, hrange, hdash, hs, htotal⟩
    have hstrip : stripPrefix? (trimBlank value) "bytes" = some (range ++ "/" ++ tail) := by
      rw [stripPrefix?_eq_some_iff, hvalue]
      simp only [String.append_assoc]
    have hcut : splitOnce (trimBlankStart (range ++ "/" ++ tail)) '/' =
        some (trimBlankStart range, tail) :=
      (splitOnce_trimBlankStart isBlank_slash _ _ _).mpr
        ⟨range, by simp [String.toList_append], hslash, rfl⟩
    have hcut' : splitOnce (trimBlankStart range) '-' = some (trimBlankStart before, after) :=
      (splitOnce_trimBlankStart isBlank_dash _ _ _).mpr
        ⟨before, by simp [hrange, String.toList_append], hdash, rfl⟩
    have hword : parseWord (trimBlank (trimBlankStart before)) = some start := by
      rw [trimBlank_trimBlankStart, parseWord_eq_some_iff]
      exact hs
    refine ⟨_, hstrip, _, _, hcut, _, _, hcut', start, hword, ?_⟩
    -- the last match reads `*` as an unknown total and a numeral as its value
    generalize trimBlank tail = text at htotal ⊢
    cases total with
    | none =>
      subst htotal
      rfl
    | some n =>
      split
      · exact absurd rfl htotal.ne_star
      · rw [(parseWord_eq_some_iff _ _).mpr htotal]
        rfl

/-! ## Well-formed ranges read back -/

/-- The text of a total: `*` when it is unknown, else its decimal digits. -/
def totalText : Option Nat → String
  | none => "*"
  | some n => toString n

theorem toList_toString (n : Nat) : (toString n).toList = Nat.toDigits 10 n := by
  simp [Nat.repr]

theorem isBlank_of_isDigit {c : Char} (h : c.isDigit) : isBlank c = false := by
  rw [isDigit_iff_toNat] at h
  simp [isBlank]
  omega

/-- Text with no blank in it trims to itself. -/
theorem trimBlank_of_forall {s : String} (h : ∀ c ∈ s.toList, isBlank c = false) :
    trimBlank s = s := by
  have hfront : s.toList.dropWhile isBlank = s.toList :=
    @dropWhile_blank_append [] s.toList (by simp) fun x hx => h x (List.mem_of_mem_head? hx)
  have hback : s.toList.reverse.dropWhile isBlank = s.toList.reverse :=
    @dropWhile_blank_append [] s.toList.reverse (by simp) fun x hx =>
      h x (List.mem_reverse.mp (List.mem_of_mem_head? hx))
  unfold trimBlank
  rw [hfront, hback, List.reverse_reverse, String.ofList_toList]

theorem isBlank_of_mem_totalText {total : Option Nat} {c : Char}
    (h : c ∈ (totalText total).toList) : isBlank c = false := by
  cases total with
  | none =>
    obtain rfl : c = '*' := by simpa [totalText] using h
    decide
  | some n =>
    rw [totalText, toList_toString] at h
    exact isBlank_of_isDigit (isDigit_of_mem_toDigits h)

theorem totalText_ne_nil (total : Option Nat) : (totalText total).toList ≠ [] := by
  cases total with
  | none => simp [totalText]
  | some n => simp [totalText, Nat.toDigits_ne_nil]

/-- The text of a total that fits in 64 bits reads back as that total. -/
theorem totalReading_totalText {total : Option Nat} (h : ∀ n ∈ total, n < wordModulus) :
    TotalReading (trimBlank (totalText total)) total := by
  rw [trimBlank_of_forall fun c hc => isBlank_of_mem_totalText hc]
  cases total with
  | none => rfl
  | some n => exact ⟨h n rfl, 0, Or.inl (by simp [totalText])⟩

/-- Every `bytes <start>-<end>/<total>` with blanks around it, an end without `/`, and a start
and a total in 64 bits reads as that start and total, whatever the end holds. -/
theorem parseContentRange_bytes {ws₁ ws₂ : String} (h₁ : ∀ c ∈ ws₁.toList, isBlank c = true)
    (h₂ : ∀ c ∈ ws₂.toList, isBlank c = true) {start : Nat} (hstart : start < wordModulus)
    {stop : String} (hstop : '/' ∉ stop.toList) {total : Option Nat}
    (htotal : ∀ n ∈ total, n < wordModulus) :
    parseContentRange (ws₁ ++ "bytes " ++ toString start ++ "-" ++ stop ++ "/" ++
      totalText total ++ ws₂) = some (start, total) := by
  have hstartText : trimBlank (toString start) = toString start :=
    trimBlank_of_forall fun c hc =>
      isBlank_of_isDigit (isDigit_of_mem_toDigits ((toList_toString start) ▸ hc))
  rw [parseContentRange_eq_some_iff]
  refine ⟨" " ++ toString start ++ "-" ++ stop, totalText total, " " ++ toString start, stop,
    ?_, ?_, rfl, ?_, ?_, totalReading_totalText htotal⟩
  · -- trimming takes off the blanks around the value and nothing else
    let core := ("bytes" ++ (" " ++ toString start ++ "-" ++ stop) ++ "/" ++ totalText total).toList
    have hsplit : (ws₁ ++ "bytes " ++ toString start ++ "-" ++ stop ++ "/" ++ totalText total ++
        ws₂).toList = ws₁.toList ++ core ++ ws₂.toList := by
      simp [core, String.toList_append]
    have hlast : core.getLast? = (totalText total).toList.getLast? := by
      rw [show core = _ ++ (totalText total).toList from String.toList_append,
        List.getLast?_append_of_ne_nil _ (totalText_ne_nil total)]
    have hne : core ≠ [] := by simp [core, String.toList_append]
    have hhead : ∀ x ∈ core.head?, isBlank x = false := by
      simp only [core, String.toList_append]
      simp
      decide
    rw [@trimBlank_eq _ ws₁.toList core ws₂.toList hsplit h₁ h₂ hne hhead fun x hx =>
      isBlank_of_mem_totalText (List.mem_of_mem_getLast? (hlast ▸ hx)), String.ofList_toList]
  · simp only [String.toList_append, toList_toString]
    simp only [List.mem_append, not_or]
    exact ⟨⟨⟨by decide, fun h => absurd (isDigit_of_mem_toDigits h) (by decide)⟩, by decide⟩, hstop⟩
  · simp only [String.toList_append, toList_toString, List.mem_append, not_or]
    exact ⟨by decide, fun h => absurd (isDigit_of_mem_toDigits h) (by decide)⟩
  · have hblank : (" " : String) = String.ofList [' '] := rfl
    rw [hblank, trimBlank_blank_append (fun x hx => by rw [List.mem_singleton.mp hx]; rfl),
      hstartText]
    exact ⟨hstart, 0, Or.inl (by simp)⟩

/-! ## Opening a body -/

section OpenHead

variable (offset : Nat) (h : Head)

/-- A partial answer whose range reads starts at the range's start, with its total. -/
theorem openHead_ranged {value : String} {start : Nat} {total : Option Nat}
    (hs : h.status = 206) (hv : h.contentRange = some value) (hr : RangeReading value start total) :
    openHead offset h = .ok ⟨start, total⟩ := by
  rw [openHead, if_pos hs, hv, Option.bind_some, (parseContentRange_eq_some_iff _ _ _).mpr hr]

/-- A partial answer with no range that reads starts at the offset asked for; its total is the
body's length past the offset, counted in a 64-bit word. -/
theorem openHead_unranged (hs : h.status = 206)
    (hr : ∀ value ∈ h.contentRange, ∀ start total, ¬RangeReading value start total) :
    openHead offset h = .ok ⟨offset, h.contentLength.map fun len => (len + offset) % wordModulus⟩ := by
  have hnone : h.contentRange.bind parseContentRange = none := by
    cases hc : h.contentRange with
    | none => rfl
    | some value =>
      rw [Option.bind_some, Option.eq_none_iff_forall_ne_some]
      rintro ⟨start, total⟩ hp
      exact hr value hc start total ((parseContentRange_eq_some_iff _ _ _).mp hp)
  rw [openHead, if_pos hs, hnone]

/-- Any success other than a partial answer starts at zero, with the body's length as total. -/
theorem openHead_whole (hs : h.status ≠ 206) (hlo : 200 ≤ h.status) (hhi : h.status < 300) :
    openHead offset h = .ok ⟨0, h.contentLength⟩ := by
  rw [openHead, if_neg hs, if_pos ⟨hlo, hhi⟩]

/-- Every status outside the successes fails with that status, under its standard reason. -/
theorem openHead_failed (hst : ¬(200 ≤ h.status ∧ h.status < 300)) :
    openHead offset h =
      .error (.http h.status ((canonicalReason h.status).getD "unexpected status")) := by
  have hs : h.status ≠ 206 := fun h206 => hst (by omega)
  rw [openHead, if_neg hs, if_neg hst]

end OpenHead

/-- Opening a body reads a `Content-Range` value by its language: a value reads as a range
exactly when it is a range reading, and every well-formed `bytes` value reads back as its start
and total. A partial answer with a range that reads starts at the range's start with its total;
one without starts at the offset asked for, its total the body's length past the offset in a
64-bit word, which is the exact sum while that stays below `2 ^ 64`. Any other success starts at
zero with the body's length, and every other status fails with that status. -/
theorem openHead_reads_content_range (offset : Nat) (h : Head) :
    (∀ value start total,
      parseContentRange value = some (start, total) ↔ RangeReading value start total) ∧
    (∀ (ws₁ ws₂ stop : String) (start : Nat) (total : Option Nat),
      (∀ c ∈ ws₁.toList, isBlank c = true) → (∀ c ∈ ws₂.toList, isBlank c = true) →
      start < wordModulus → '/' ∉ stop.toList → (∀ n ∈ total, n < wordModulus) →
      parseContentRange (ws₁ ++ "bytes " ++ toString start ++ "-" ++ stop ++ "/" ++
        totalText total ++ ws₂) = some (start, total)) ∧
    (h.status = 206 → ∀ value start total, h.contentRange = some value →
      RangeReading value start total → openHead offset h = .ok ⟨start, total⟩) ∧
    (h.status = 206 → (∀ value ∈ h.contentRange, ∀ start total, ¬RangeReading value start total) →
      openHead offset h =
          .ok ⟨offset, h.contentLength.map fun len => (len + offset) % wordModulus⟩ ∧
        ∀ len, h.contentLength = some len → len + offset < wordModulus →
          openHead offset h = .ok ⟨offset, some (len + offset)⟩) ∧
    (h.status ≠ 206 → 200 ≤ h.status → h.status < 300 →
      openHead offset h = .ok ⟨0, h.contentLength⟩) ∧
    (¬(200 ≤ h.status ∧ h.status < 300) →
      openHead offset h =
        .error (.http h.status ((canonicalReason h.status).getD "unexpected status"))) := by
  refine ⟨parseContentRange_eq_some_iff, fun _ _ _ _ _ h₁ h₂ hs hstop ht =>
    parseContentRange_bytes h₁ h₂ hs hstop ht, fun hs _ _ _ hv hr =>
    openHead_ranged offset h hs hv hr, fun hs hr => ⟨openHead_unranged offset h hs hr,
    fun len hlen hfit => ?_⟩, openHead_whole offset h, openHead_failed offset h⟩
  -- the sum fits, so the word holds it exactly
  rw [openHead_unranged offset h hs hr, hlen, Option.map_some, Nat.mod_eq_of_lt hfit]

/-- A partial answer naming its range between blanks starts at that range; one naming none
starts at the offset with the exact total; a whole answer starts at zero; a missing resource
fails with its status. -/
theorem answers_open_as_read :
    openHead 0 ⟨206, some " bytes 4-9/10 ", some 6⟩ = .ok ⟨4, some 10⟩ ∧
      openHead 4 ⟨206, none, some 6⟩ = .ok ⟨4, some 10⟩ ∧
      openHead 4 ⟨200, none, some 10⟩ = .ok ⟨0, some 10⟩ ∧
      openHead 4 ⟨404, none, none⟩ = .error (.http 404 "Not Found") := by
  obtain ⟨hiff, hback, hranged, -, -, -⟩ :=
    openHead_reads_content_range 0 ⟨206, some " bytes 4-9/10 ", some 6⟩
  obtain ⟨-, -, -, hunranged, -, -⟩ := openHead_reads_content_range 4 ⟨206, none, some 6⟩
  obtain ⟨-, -, -, -, hwhole, -⟩ := openHead_reads_content_range 4 ⟨200, none, some 10⟩
  obtain ⟨-, -, -, -, -, hfailed⟩ := openHead_reads_content_range 4 ⟨404, none, none⟩
  have hblank : ∀ c ∈ (" " : String).toList, isBlank c = true := by
    intro c hc
    rw [show (" " : String).toList = [' '] from rfl, List.mem_singleton] at hc
    rw [hc]
    rfl
  have hread : parseContentRange " bytes 4-9/10 " = some (4, some 10) :=
    hback " " " " "9" 4 (some 10) hblank hblank (by decide) (by decide) (by simp [wordModulus])
  refine ⟨hranged rfl _ 4 (some 10) rfl ((hiff _ _ _).mp hread), ?_,
    hwhole (by decide) (by decide) (by decide), hfailed (by decide)⟩
  exact (hunranged rfl (by simp)).2 6 rfl (by decide)

/-- A partial answer without a range, for an offset six short of `2 ^ 64` and a body of ten
bytes, reports a total of 4 where the sum is `2 ^ 64 + 4`. -/
theorem unranged_total_past_word_wraps :
    openHead 18446744073709551610 ⟨206, none, some 10⟩ = .ok ⟨18446744073709551610, some 4⟩ ∧
      10 + 18446744073709551610 ≠ 4 := by
  refine ⟨rfl, by decide⟩

end PlaybackEngine.Http
