import Mathlib
import PlaybackEngine.Proofs.StorageCalls

set_option autoImplicit false

/-!
# The essence of a media type

The cache reads a media type only through its essence (`mimeEssence`): the text before the first
`;`, trimmed of blanks, with ASCII letters in lower case. The essence is a normal form: taking it
twice changes nothing (`mimeEssence_mimeEssence`), since an essence holds no `;`, starts and ends
with no blank, and lower-casing it again changes no letter.

Lower-casing one character keeps blanks blank and `;` a `;` (`lowerChar_isBlank`,
`lowerChar_eq_semicolon_iff`), so it commutes with the cut and the trim; parameters after a `;`
and blanks around a type drop out of the cut and the trim. Hence a media type has the extension
of its essence and gives a content the same file in the cache, parameters, blanks around it and
the case of its ASCII letters change neither, and it has an extension exactly when its essence is
a key of the table (`extension_follows_essence`).
-/

namespace PlaybackEngine.Text

/-! ## Lower-casing one character -/

/-- The character `lowerAscii` puts in place of `c`. -/
def lowerChar (c : Char) : Char := if 'A' ≤ c ∧ c ≤ 'Z' then Char.ofNat (c.toNat + 32) else c

theorem toNat_ofNat_of_lt {n : Nat} (h : n < 0xd800) : (Char.ofNat n).toNat = n := by
  have hv : n.isValidChar := Or.inl h
  rw [Char.ofNat, dif_pos hv]
  simp [Char.ofNatAux, Char.toNat]

theorem lowerChar_toNat (c : Char) :
    (lowerChar c).toNat = if 65 ≤ c.toNat ∧ c.toNat ≤ 90 then c.toNat + 32 else c.toNat := by
  unfold lowerChar
  by_cases h : 65 ≤ c.toNat ∧ c.toNat ≤ 90
  · have h' : 'A' ≤ c ∧ c ≤ 'Z' := h
    rw [if_pos h', if_pos h, toNat_ofNat_of_lt (by omega)]
  · have h' : ¬('A' ≤ c ∧ c ≤ 'Z') := h
    rw [if_neg h', if_neg h]

theorem lowerChar_of_not_capital {c : Char} (h : ¬(65 ≤ c.toNat ∧ c.toNat ≤ 90)) :
    lowerChar c = c := by
  unfold lowerChar
  exact if_neg h

/-- Capitals and small letters, and the few signs between them, are not blank. -/
theorem isBlank_of_capital {c : Char} (h : 65 ≤ c.toNat ∧ c.toNat ≤ 122) : isBlank c = false := by
  simp only [isBlank]
  grind

@[simp] theorem lowerChar_isBlank (c : Char) : isBlank (lowerChar c) = isBlank c := by
  by_cases h : 65 ≤ c.toNat ∧ c.toNat ≤ 90
  · have hl : (lowerChar c).toNat = c.toNat + 32 := by rw [lowerChar_toNat, if_pos h]
    rw [isBlank_of_capital (by omega), isBlank_of_capital (by omega)]
  · rw [lowerChar_of_not_capital h]

theorem lowerChar_eq_semicolon_iff (c : Char) : lowerChar c = ';' ↔ c = ';' := by
  rw [← Char.toNat_inj, ← Char.toNat_inj, lowerChar_toNat]
  have : (';' : Char).toNat = 59 := rfl
  split <;> omega

@[simp] theorem lowerChar_lowerChar (c : Char) : lowerChar (lowerChar c) = lowerChar c := by
  by_cases h : 65 ≤ c.toNat ∧ c.toNat ≤ 90
  · -- a lowered capital is a small letter, which stays as it is
    apply lowerChar_of_not_capital
    rw [lowerChar_toNat, if_pos h]
    omega
  · rw [lowerChar_of_not_capital h, lowerChar_of_not_capital h]

theorem lowerAscii_eq (s : String) : lowerAscii s = String.ofList (s.toList.map lowerChar) := rfl

theorem lowerAscii_toList (s : String) : (lowerAscii s).toList = s.toList.map lowerChar := by
  rw [lowerAscii_eq, String.toList_ofList]

theorem lowerAscii_lowerAscii (s : String) : lowerAscii (lowerAscii s) = lowerAscii s := by
  have hidem : lowerChar ∘ lowerChar = lowerChar := funext lowerChar_lowerChar
  rw [lowerAscii_eq (lowerAscii s), lowerAscii_toList, List.map_map, hidem, lowerAscii_eq]

/-! ## Trimming -/

theorem rdropWhile_map {α β : Type} (f : α → β) (p : β → Bool) (l : List α) :
    (l.map f).rdropWhile p = (l.rdropWhile (p ∘ f)).map f := by
  simp only [List.rdropWhile, ← List.map_reverse, List.dropWhile_map]

theorem rdropWhile_append_of_pos {α : Type} {p : α → Bool} (l : List α) {w : List α}
    (hw : ∀ x ∈ w, p x = true) : (l ++ w).rdropWhile p = l.rdropWhile p := by
  simp only [List.rdropWhile, List.reverse_append]
  rw [List.dropWhile_append_of_pos (by simpa using hw)]

/-- Dropping from the back of a list that starts with no dropped element leaves it starting
so. -/
theorem dropWhile_rdropWhile_dropWhile {α : Type} (p : α → Bool) (l : List α) :
    ((l.dropWhile p).rdropWhile p).dropWhile p = (l.dropWhile p).rdropWhile p := by
  rw [List.dropWhile_eq_self_iff]
  intro hl
  rw [(List.rdropWhile_prefix p (l.dropWhile p)).getElem]
  exact List.dropWhile_get_zero_not p l _

theorem trimBlank_eq_rdropWhile (s : String) :
    trimBlank s = String.ofList ((s.toList.dropWhile isBlank).rdropWhile isBlank) := rfl

theorem trimBlank_toList (s : String) :
    (trimBlank s).toList = (s.toList.dropWhile isBlank).rdropWhile isBlank := by
  rw [trimBlank_eq_rdropWhile, String.toList_ofList]

theorem trimBlank_trimBlank (s : String) : trimBlank (trimBlank s) = trimBlank s := by
  rw [trimBlank_eq_rdropWhile (trimBlank s), trimBlank_toList, dropWhile_rdropWhile_dropWhile,
    List.rdropWhile_idempotent, trimBlank_eq_rdropWhile]

/-- Lower-casing keeps every blank where it is, so it commutes with trimming. -/
theorem trimBlank_lowerAscii (s : String) : trimBlank (lowerAscii s) = lowerAscii (trimBlank s) := by
  have hblank : isBlank ∘ lowerChar = isBlank := funext lowerChar_isBlank
  rw [trimBlank_eq_rdropWhile, lowerAscii_toList, List.dropWhile_map, hblank, rdropWhile_map,
    hblank, lowerAscii_eq, trimBlank_toList]

theorem mem_of_mem_trimBlank {c : Char} {s : String} (h : c ∈ (trimBlank s).toList) :
    c ∈ s.toList := by
  rw [trimBlank_toList] at h
  exact (List.dropWhile_suffix isBlank).subset ((List.rdropWhile_prefix _ _).subset h)

/-- Blanks around text change nothing once it is trimmed. -/
theorem trimBlank_blanks_around {w₁ w₂ : List Char} (h₁ : ∀ c ∈ w₁, isBlank c = true)
    (h₂ : ∀ c ∈ w₂, isBlank c = true) (l : List Char) :
    trimBlank (String.ofList (w₁ ++ l ++ w₂)) = trimBlank (String.ofList l) := by
  rw [trimBlank_eq_rdropWhile, trimBlank_eq_rdropWhile, String.toList_ofList, String.toList_ofList,
    List.append_assoc, List.dropWhile_append_of_pos h₁, List.dropWhile_append]
  -- either `l` is blanks only and both sides trim to nothing, or the back blanks follow what
  -- is left of `l` and go with its own back blanks
  split
  · next hall =>
    rw [List.dropWhile_eq_nil_iff.mpr h₂, List.isEmpty_iff.mp hall]
  · rw [rdropWhile_append_of_pos _ h₂]

end PlaybackEngine.Text

namespace PlaybackEngine.Cache

open Text

/-! ## Cutting at the first semicolon -/

theorem takeWhile_append_cons_of_neg {α : Type} {p : α → Bool} {x : α} (hx : p x = false)
    (l r : List α) : (l ++ x :: r).takeWhile p = l.takeWhile p := by
  induction l with
  | nil => simp [hx]
  | cons c l ih => cases hc : p c <;> simp [hc, ih]

/-- Text with no `;` is left whole by the cut. -/
theorem takeWhile_semicolon_of_not_mem {l : List Char} (h : ';' ∉ l) :
    l.takeWhile (· ≠ ';') = l := by
  rw [List.takeWhile_eq_self_iff]
  intro c hc
  simp only [ne_eq, decide_eq_true_eq]
  rintro rfl
  exact h hc

theorem semicolon_not_mem_of_blanks {w : List Char} (h : ∀ c ∈ w, isBlank c = true) : ';' ∉ w := by
  intro hw
  have hblank := h ';' hw
  revert hblank
  decide

/-- Cutting text with blanks around it at its first `;` keeps the blanks in front, and at the
back either all of them or none. -/
theorem cut_blanks_around {w₁ w₂ : List Char} (h₁ : ∀ c ∈ w₁, isBlank c = true)
    (h₂ : ∀ c ∈ w₂, isBlank c = true) (l : List Char) :
    ∃ w, (∀ c ∈ w, isBlank c = true) ∧
      (w₁ ++ l ++ w₂).takeWhile (· ≠ ';') = w₁ ++ l.takeWhile (· ≠ ';') ++ w := by
  have hfront := takeWhile_semicolon_of_not_mem (semicolon_not_mem_of_blanks h₁)
  by_cases hsemi : ';' ∈ l
  · -- the cut falls inside `l`, and the back blanks are cut off with the rest
    obtain ⟨a, b, rfl⟩ := List.append_of_mem hsemi
    refine ⟨[], by simp, ?_⟩
    rw [List.append_assoc, List.takeWhile_append_of_pos (List.takeWhile_eq_self_iff.mp hfront),
      List.append_assoc, List.cons_append, takeWhile_append_cons_of_neg (by simp),
      takeWhile_append_cons_of_neg (by simp), List.append_nil]
  · -- nothing is cut, the back blanks included
    have hwhole : ';' ∉ w₁ ++ l ++ w₂ := by
      simp only [List.mem_append, not_or]
      exact ⟨⟨semicolon_not_mem_of_blanks h₁, hsemi⟩, semicolon_not_mem_of_blanks h₂⟩
    refine ⟨w₂, h₂, ?_⟩
    rw [takeWhile_semicolon_of_not_mem hwhole, takeWhile_semicolon_of_not_mem hsemi]

/-! ## The essence is a normal form -/

theorem mimeEssence_eq (m : String) :
    mimeEssence m = lowerAscii (trimBlank (String.ofList (m.toList.takeWhile (· ≠ ';')))) := rfl

/-- An essence holds no `;`: the cut leaves none, trimming keeps a part of the cut, and
lower-casing makes none. -/
theorem semicolon_not_mem_mimeEssence (m : String) : ';' ∉ (mimeEssence m).toList := by
  intro h
  rw [mimeEssence_eq, lowerAscii_toList, List.mem_map] at h
  obtain ⟨c, hc, hsemi⟩ := h
  have hcut := mem_of_mem_trimBlank hc
  rw [String.toList_ofList] at hcut
  have hne := List.mem_takeWhile_imp hcut
  simp [(lowerChar_eq_semicolon_iff c).mp hsemi] at hne

theorem mimeEssence_mimeEssence (m : String) : mimeEssence (mimeEssence m) = mimeEssence m := by
  have hcut := takeWhile_semicolon_of_not_mem (semicolon_not_mem_mimeEssence m)
  set t := String.ofList (m.toList.takeWhile (· ≠ ';'))
  calc mimeEssence (mimeEssence m)
      = lowerAscii (trimBlank (mimeEssence m)) := by
        rw [mimeEssence_eq (mimeEssence m), hcut, String.ofList_toList]
    _ = lowerAscii (lowerAscii (trimBlank (trimBlank t))) := by
        rw [mimeEssence_eq, trimBlank_lowerAscii]
    _ = mimeEssence m := by
        rw [lowerAscii_lowerAscii, trimBlank_trimBlank, mimeEssence_eq]

/-- Parameters after a `;` are no part of the essence. -/
theorem mimeEssence_params (m params : String) :
    mimeEssence (m ++ ";" ++ params) = mimeEssence m := by
  have hcut : (m ++ ";" ++ params).toList = m.toList ++ ';' :: params.toList := by
    simp
  rw [mimeEssence_eq, hcut, takeWhile_append_cons_of_neg (by simp), mimeEssence_eq]

/-- Blanks around a media type are no part of its essence. -/
theorem mimeEssence_blanks_around {w₁ w₂ : List Char} (h₁ : ∀ c ∈ w₁, isBlank c = true)
    (h₂ : ∀ c ∈ w₂, isBlank c = true) (m : String) :
    mimeEssence (String.ofList w₁ ++ m ++ String.ofList w₂) = mimeEssence m := by
  obtain ⟨w, hw, hcut⟩ := cut_blanks_around h₁ h₂ m.toList
  rw [mimeEssence_eq, String.toList_append, String.toList_append, String.toList_ofList,
    String.toList_ofList, hcut, trimBlank_blanks_around h₁ hw, mimeEssence_eq]

/-- Lower-casing keeps every `;` and every blank where it is, so a media type and its lower case
have one essence. -/
theorem mimeEssence_lowerAscii (m : String) : mimeEssence (lowerAscii m) = mimeEssence m := by
  have hsemi : (fun c => decide (c ≠ ';')) ∘ lowerChar = fun c => decide (c ≠ ';') := by
    funext c
    simp [lowerChar_eq_semicolon_iff]
  have hcut : String.ofList ((lowerAscii m).toList.takeWhile (· ≠ ';')) =
      lowerAscii (String.ofList (m.toList.takeWhile (· ≠ ';'))) := by
    rw [lowerAscii_toList, List.takeWhile_map, hsemi, lowerAscii_eq, String.toList_ofList]
  rw [mimeEssence_eq, hcut, trimBlank_lowerAscii, lowerAscii_lowerAscii, mimeEssence_eq]

/-! ## Extensions and paths -/

/-- The extension of a media type is read off its essence alone. -/
theorem extensionFor_congr {m m' : String} (h : mimeEssence m = mimeEssence m') :
    extensionFor m = extensionFor m' := by
  unfold extensionFor
  rw [h]

theorem extensionFor_isSome_iff (m : String) :
    (extensionFor m).isSome ↔ mimeEssence m ∈ extensionTable.map Prod.fst := by
  unfold extensionFor
  rw [Option.isSome_map, List.find?_isSome, List.mem_map]
  simp only [beq_iff_eq]

/-- Two media types with one extension give a content one path. -/
theorem pathFor_ok_iff_of_extensionFor {m m' : String} (h : extensionFor m = extensionFor m')
    (base : String) (k : CacheKey) (p : String) :
    pathFor base k m = .ok p ↔ pathFor base k m' = .ok p := by
  cases hx : extensionFor m with
  | none =>
    rw [pathFor_of_unknown base k hx, pathFor_of_unknown base k (h.symm.trans hx)]
    simp
  | some ext =>
    rw [pathFor_of_extension base k hx, pathFor_of_extension base k (h.symm.trans hx)]

/-- A media type has the extension of its essence, and a content of that type the path of its
essence: parameters after a `;`, blanks around the type and the case of its ASCII letters
change neither. It has an extension exactly when its essence is a key of the table. -/
theorem extension_follows_essence (m : String) :
    extensionFor m = extensionFor (mimeEssence m) ∧
    (∀ base k p, pathFor base k m = .ok p ↔ pathFor base k (mimeEssence m) = .ok p) ∧
    (∀ params, extensionFor (m ++ ";" ++ params) = extensionFor m) ∧
    (∀ w₁ w₂ : List Char, (∀ c ∈ w₁ ++ w₂, isBlank c = true) →
      extensionFor (String.ofList w₁ ++ m ++ String.ofList w₂) = extensionFor m) ∧
    (∀ m', lowerAscii m' = lowerAscii m → extensionFor m' = extensionFor m) ∧
    ((extensionFor m).isSome ↔ mimeEssence m ∈ extensionTable.map Prod.fst) := by
  have hess : extensionFor m = extensionFor (mimeEssence m) :=
    extensionFor_congr (mimeEssence_mimeEssence m).symm
  refine ⟨hess, pathFor_ok_iff_of_extensionFor hess, ?params, ?blanks, ?case,
    extensionFor_isSome_iff m⟩
  case params => exact fun params => extensionFor_congr (mimeEssence_params m params)
  case blanks =>
    intro w₁ w₂ hw
    rw [List.forall_mem_append] at hw
    exact extensionFor_congr (mimeEssence_blanks_around hw.1 hw.2 m)
  case case =>
    -- two types that lower to one text share the essence of that text
    intro m' hcase
    apply extensionFor_congr
    rw [← mimeEssence_lowerAscii m', hcase, mimeEssence_lowerAscii]

example : extensionFor "Audio/MPEG; charset=binary" = some ".mp3" := by decide

end PlaybackEngine.Cache
