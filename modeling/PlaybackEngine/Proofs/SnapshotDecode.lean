import PlaybackEngine.Proofs.SnapshotCodec

/-!
# Which bytes read as a snapshot

Reading checks, in order, that the version's four bytes are there, that they are the word `1`,
that the rest of the 18-byte header is there, and that the count at offset 14 is not negative
and announces exactly the eight-byte ids that follow; the first check that fails is the fault.
So reading succeeds on exactly those bytes (`decode_ok_iff`).

Reading is not one to one: a flag byte other than `0` reads as set, and the offset of a snapshot
that is not paused is read but written back as zero. Writing back what was read therefore gives
the bytes read exactly when they are canonical (`encode_eq_iff_canonical`). Both rest on a word
read from bytes being written back as those bytes (`bigEndian_readSigned`). The main statement
is `decode_checks_in_order`.
-/

set_option autoImplicit false

namespace PlaybackEngine

/-! ## Words read back -/

theorem foldl_bigEndianValue (l : List UInt8) (acc : Nat) :
    l.foldl (fun acc b => acc * 256 + b.toNat) acc = acc * 2 ^ (8 * l.length) + bigEndianValue l := by
  induction l generalizing acc with
  | nil => simp [bigEndianValue]
  | cons b l ih =>
    simp only [List.foldl_cons, bigEndianValue, Nat.zero_mul, Nat.zero_add, List.length_cons]
    rw [ih, ih b.toNat, show 8 * (l.length + 1) = 8 * l.length + 8 by omega, Nat.pow_add]
    ring

theorem bigEndianValue_cons (b : UInt8) (l : List UInt8) :
    bigEndianValue (b :: l) = b.toNat * 2 ^ (8 * l.length) + bigEndianValue l := by
  rw [bigEndianValue, List.foldl_cons, Nat.zero_mul, Nat.zero_add, foldl_bigEndianValue]

theorem bigEndianValue_lt (l : List UInt8) : bigEndianValue l < 2 ^ (8 * l.length) := by
  induction l with
  | nil => simp [bigEndianValue]
  | cons b l ih =>
    have hb : b.toNat < 256 := b.toNat_lt
    rw [bigEndianValue_cons, List.length_cons]
    calc b.toNat * 2 ^ (8 * l.length) + bigEndianValue l
        < b.toNat * 2 ^ (8 * l.length) + 2 ^ (8 * l.length) := by omega
      _ = (b.toNat + 1) * 2 ^ (8 * l.length) := by ring
      _ ≤ 2 ^ 8 * 2 ^ (8 * l.length) := Nat.mul_le_mul_right _ (by omega)
      _ = 2 ^ (8 * (l.length + 1)) := by ring

/-- Bytes of one length are told apart by their value. -/
theorem bigEndianValue_inj {l l' : List UInt8} (hlen : l.length = l'.length)
    (h : bigEndianValue l = bigEndianValue l') : l = l' := by
  induction l generalizing l' with
  | nil => exact (List.length_eq_zero_iff.mp hlen.symm).symm
  | cons b l ih =>
    obtain ⟨b', r', rfl⟩ := List.exists_cons_of_length_eq_add_one hlen.symm
    simp only [List.length_cons, Nat.add_right_cancel_iff] at hlen
    rw [bigEndianValue_cons, bigEndianValue_cons, hlen] at h
    have hr := bigEndianValue_lt l
    have hr' := bigEndianValue_lt r'
    rw [hlen] at hr
    -- the first byte is the quotient by the weight of the rest, the rest the remainder
    have hpos : 0 < 2 ^ (8 * r'.length) := Nat.two_pow_pos _
    have hq : b.toNat = b'.toNat := by
      have := congrArg (· / 2 ^ (8 * r'.length)) h
      simp only [Nat.add_comm (b.toNat * _), Nat.add_comm (b'.toNat * _),
        Nat.add_mul_div_right _ _ hpos, Nat.div_eq_of_lt hr, Nat.div_eq_of_lt hr',
        Nat.zero_add] at this
      exact this
    rw [hq] at h
    rw [UInt8.toNat_inj.mp hq, ih hlen (by omega)]

/-- A signed word read from bytes is stored as those bytes' value. -/
theorem readSigned_emod (l : List UInt8) :
    (readSigned l % 2 ^ (8 * l.length)).toNat = bigEndianValue l := by
  have hlt := bigEndianValue_lt l
  have hcast : (((2 : Nat) ^ (8 * l.length) : Nat) : Int) = 2 ^ (8 * l.length) := by
    push_cast
    rfl
  unfold readSigned signedOfBits
  simp only [Nat.mod_eq_of_lt hlt]
  split
  · rw [Int.emod_eq_of_lt (by omega) (by omega)]
    rfl
  · rw [Int.sub_emod_right, Int.emod_eq_of_lt (by omega) (by omega)]
    rfl

/-- Bytes read as a signed word are written back as themselves. -/
theorem bigEndian_readSigned (l : List UInt8) : bigEndian l.length (readSigned l) = l :=
  bigEndianValue_inj (length_bigEndian _ _)
    (by rw [bigEndianValue_bigEndian, readSigned_emod])

namespace Snapshot

/-! ## The checks, in order -/

/-- The track count the header announces: the signed word at offset 14. -/
def trackCount (bytes : List UInt8) : Int := readSigned ((bytes.drop 14).take 4)

/-- Bytes that do not start with eight bytes are fewer than eight. -/
theorem length_lt_of_short {bytes : List UInt8}
    (h : ∀ (a b c d e f g h : UInt8) (rest : List UInt8),
      bytes = a :: b :: c :: d :: e :: f :: g :: h :: rest → False) :
    bytes.length < 8 := by
  rcases bytes with _ | ⟨_, _ | ⟨_, _ | ⟨_, _ | ⟨_, _ | ⟨_, _ | ⟨_, _ | ⟨_, _ | ⟨_, _⟩⟩⟩⟩⟩⟩⟩⟩
  all_goals first | exact (h _ _ _ _ _ _ _ _ _ rfl).elim | simp

theorem length_readTracks (body : List UInt8) : (readTracks body).length = body.length / 8 := by
  fun_induction readTracks body with
  | case1 a b c d e f g h rest ih =>
    simp only [List.length_cons, ih]
    omega
  | case2 bytes hshort =>
    have := length_lt_of_short hshort
    simp only [List.length_nil]
    omega

/-- Track ids read eight bytes at a time are written back as those bytes. -/
theorem flatten_readTracks (body : List UInt8) (h : body.length % 8 = 0) :
    ((readTracks body).map (bigEndian 8)).flatten = body := by
  fun_induction readTracks body with
  | case1 a b c d e f g i rest ih =>
    simp only [List.length_cons] at h
    rw [List.map_cons, List.flatten_cons, ih (by omega)]
    exact congrArg (· ++ rest) (bigEndian_readSigned [a, b, c, d, e, f, g, i])
  | case2 bytes hshort =>
    have := length_lt_of_short hshort
    rw [List.length_eq_zero_iff.mp (show bytes.length = 0 by omega)]
    rfl

theorem readSigned_version : readSigned [0, 0, 0, 1] = formatVersion := by decide

/-- Four bytes read as the format version are exactly its word. -/
theorem readSigned_eq_version_iff {l : List UInt8} (hl : l.length = 4) :
    readSigned l = formatVersion ↔ l = [0, 0, 0, 1] := by
  constructor
  · intro h
    rw [← bigEndian_readSigned l, hl, h]
    decide
  · rintro rfl
    exact readSigned_version

theorem decode_short {b : List UInt8} (h : b.length < 4) : decode b = .error .missingHeader := by
  unfold decode
  rw [if_pos h]

theorem decode_unknown_version {b : List UInt8} (h : 4 ≤ b.length) (hv : b.take 4 ≠ [0, 0, 0, 1]) :
    decode b = .error (.unsupportedVersion (readSigned (b.take 4))) := by
  unfold decode
  rw [if_neg (by omega), if_pos]
  intro heq
  exact hv ((readSigned_eq_version_iff (by simp; omega)).mp heq)

theorem length_of_version {b : List UInt8} (hv : b.take 4 = [0, 0, 0, 1]) : 4 ≤ b.length := by
  have := congrArg List.length hv
  simp only [List.length_take, List.length_cons, List.length_nil] at this
  omega

theorem decode_truncated {b : List UInt8} (hv : b.take 4 = [0, 0, 0, 1]) (h : b.length < 18) :
    decode b = .error .truncatedHeader := by
  have h4 := length_of_version hv
  unfold decode
  rw [if_neg (by omega), hv, readSigned_version, if_neg (by simp), if_pos (by simp; omega)]

/-- Past the version and the whole header, only the count check is left. -/
theorem decode_of_header {b : List UInt8} (hv : b.take 4 = [0, 0, 0, 1]) (h : 18 ≤ b.length) :
    decode b = if trackCount b < 0 ∨ (b.length : Int) ≠ 18 + 8 * trackCount b
      then .error (.trackCountMismatch (trackCount b) (b.length - 18))
      else .ok ⟨readTracks (b.drop 18), readSigned ((b.drop 4).take 4), b[8]? != some 0,
        b[9]? != some 0, readSigned ((b.drop 10).take 4)⟩ := by
  unfold decode
  rw [if_neg (by omega), hv, readSigned_version, if_neg (by simp), if_neg (by simp; omega)]
  simp only [List.drop_drop, List.getElem?_drop, List.length_drop, trackCount, Nat.reduceAdd,
    Bool.or_eq_true, decide_eq_true_eq]
  -- the count check, said of the whole length
  exact if_congr (by omega) rfl rfl

/-- Reading succeeds exactly on bytes with the version word, a whole header, and as many track
ids after it as the header's count says. -/
theorem decode_ok_iff (b : List UInt8) :
    (∃ s, decode b = .ok s) ↔ 18 ≤ b.length ∧ b.take 4 = [0, 0, 0, 1] ∧ 0 ≤ trackCount b ∧
      (b.length : Int) = 18 + 8 * trackCount b := by
  constructor
  · rintro ⟨s, hs⟩
    by_cases h4 : b.length < 4
    · rw [decode_short h4] at hs
      cases hs
    by_cases hv : b.take 4 = [0, 0, 0, 1]
    · by_cases h18 : b.length < 18
      · rw [decode_truncated hv h18] at hs
        cases hs
      rw [decode_of_header hv (by omega)] at hs
      split at hs
      · cases hs
      · rename_i hc
        exact ⟨by omega, hv, by omega, by omega⟩
    · rw [decode_unknown_version (by omega) hv] at hs
      cases hs
  · rintro ⟨h18, hv, hc, hl⟩
    rw [decode_of_header hv h18, if_neg (by omega)]
    exact ⟨_, rfl⟩

/-! ## Writing back what was read -/

/-- Bytes that are what writing gives: each flag byte `0` or `1`, and the offset's word zero
unless the paused flag is set. -/
def Canonical (bytes : List UInt8) : Prop :=
  (bytes[8]? = some 0 ∨ bytes[8]? = some 1) ∧ (bytes[9]? = some 0 ∨ bytes[9]? = some 1) ∧
    (bytes[9]? = some 0 → (bytes.drop 10).take 4 = [0, 0, 0, 0])

instance (bytes : List UInt8) : Decidable (Canonical bytes) :=
  inferInstanceAs (Decidable (_ ∧ _ ∧ _))

/-- A flag byte read and written back is itself exactly when it is `0` or `1`. -/
theorem flagByte_read_eq_iff (x : UInt8) : flagByte (some x != some 0) = x ↔ x = 0 ∨ x = 1 := by
  by_cases hx : x = 0
  · subst hx
    decide
  · have hne : (some x != some 0) = true := by simpa using hx
    rw [hne]
    simp only [flagByte, if_true, hx, false_or]
    exact eq_comm

/-- Bytes from the fourteenth on, cut around the two flag bytes and the offset's word. -/
theorem split_flags {b : List UInt8} (h : 14 ≤ b.length) :
    ∃ x y, b[8]? = some x ∧ b[9]? = some y ∧
      b = b.take 8 ++ [x, y] ++ ((b.drop 10).take 4 ++ b.drop 14) := by
  refine ⟨b[8], b[9], List.getElem?_eq_getElem _, List.getElem?_eq_getElem _, ?_⟩
  have h8 : b.drop 8 = b[8] :: b[9] :: b.drop 10 := by
    rw [List.drop_eq_getElem_cons (by omega), List.drop_eq_getElem_cons (by omega)]
  have h10 : b.drop 10 = (b.drop 10).take 4 ++ b.drop 14 := by
    have := (List.take_append_drop 4 (b.drop 10)).symm
    rwa [List.drop_drop] at this
  calc b = b.take 8 ++ b.drop 8 := (List.take_append_drop 8 b).symm
    _ = _ := by
      rw [h8]
      nth_rewrite 1 [h10]
      simp only [List.append_assoc, List.cons_append, List.nil_append]

/-- Writing what was read from well-framed bytes gives the bytes back, except that the flag
bytes are written as `0` or `1` and the offset's word as zero unless paused. -/
theorem encode_framed {b : List UInt8} (hv : b.take 4 = [0, 0, 0, 1]) (h18 : 18 ≤ b.length)
    (hl : (b.length : Int) = 18 + 8 * trackCount b) :
    (⟨readTracks (b.drop 18), readSigned ((b.drop 4).take 4), b[8]? != some 0, b[9]? != some 0,
        readSigned ((b.drop 10).take 4)⟩ : Snapshot).encode =
      b.take 8 ++ [flagByte (b[8]? != some 0), flagByte (b[9]? != some 0)] ++
        ((if b[9]? != some 0 then (b.drop 10).take 4 else [0, 0, 0, 0]) ++ b.drop 14) := by
  -- each word of the header is written back as the bytes it was read from
  have hword : ∀ k, k + 4 ≤ b.length → bigEndian 4 (readSigned ((b.drop k).take 4)) =
      (b.drop k).take 4 := by
    intro k hk
    have := bigEndian_readSigned ((b.drop k).take 4)
    rwa [List.length_take, List.length_drop, show min 4 (b.length - k) = 4 by omega] at this
  have hoff : bigEndian 4 (if (b[9]? != some 0) = true then readSigned ((b.drop 10).take 4)
      else 0) = if b[9]? != some 0 then (b.drop 10).take 4 else [0, 0, 0, 0] := by
    split
    · exact hword 10 (by omega)
    · rfl
  have hcount : ((readTracks (b.drop 18)).length : Int) = trackCount b := by
    rw [length_readTracks, List.length_drop]
    omega
  have hbody : ((readTracks (b.drop 18)).map (bigEndian 8)).flatten = b.drop 18 :=
    flatten_readTracks _ (by rw [List.length_drop]; omega)
  have hversion : bigEndian 4 formatVersion = b.take 4 := by
    rw [hv]
    decide
  have htake : b.take 8 = b.take 4 ++ (b.drop 4).take 4 := @List.take_add _ b 4 4
  have hdrop : b.drop 14 = (b.drop 14).take 4 ++ b.drop 18 := by
    have := (List.take_append_drop 4 (b.drop 14)).symm
    rwa [List.drop_drop] at this
  unfold encode
  dsimp only
  rw [hdrop, htake, hversion, hword 4 (by omega), hoff, hcount, trackCount, hword 14 (by omega),
    hbody]
  simp only [List.append_assoc, List.cons_append, List.nil_append]

/-- Writing back what was read gives the same bytes exactly when they are canonical. -/
theorem encode_eq_iff_canonical {b : List UInt8} {s : Snapshot} (hs : decode b = .ok s) :
    s.encode = b ↔ Canonical b := by
  obtain ⟨h18, hv, hc, hl⟩ := (decode_ok_iff b).mp ⟨s, hs⟩
  rw [decode_of_header hv h18, if_neg (by omega)] at hs
  cases hs
  obtain ⟨x, y, hx, hy, hb⟩ := split_flags (b := b) (by omega)
  -- the written bytes agree with `b` outside the flags and the offset's word
  have hcut : ∀ u v : List UInt8, u.length = 2 →
      (b.take 8 ++ u ++ (v ++ b.drop 14) = b ↔ u = [x, y] ∧ v = (b.drop 10).take 4) := by
    intro u v hu
    constructor
    · intro heq
      have h2 := heq.trans hb
      rw [List.append_assoc, List.append_assoc] at h2
      obtain ⟨rfl, h4⟩ := List.append_inj (List.append_cancel_left h2) (by simp [hu])
      exact ⟨rfl, List.append_cancel_right h4⟩
    · rintro ⟨rfl, rfl⟩
      exact hb.symm
  rw [encode_framed hv h18 hl, hcut _ _ rfl]
  unfold Canonical
  rw [hx, hy]
  simp only [List.cons.injEq, and_true, flagByte_read_eq_iff, Option.some.injEq]
  by_cases hy0 : y = 0
  · subst hy0
    simp [eq_comm]
  · have hne : (some y != some 0) = true := by simpa using hy0
    simp [hne, hy0]

/-- Reading bytes as a snapshot makes its checks in order, and the first that fails names the
fault: fewer than four bytes miss the header; four bytes other than the word `1` are an
unsupported version, named by the word read; a version with fewer than 18 bytes is a truncated
header; a whole header whose count at offset 14 is negative or does not announce exactly the
bytes after the header is a count mismatch, naming the count and those bytes. Reading succeeds
exactly when none fails, and writing back what was read gives the same bytes exactly when they
are canonical. -/
theorem decode_checks_in_order (b : List UInt8) :
    (b.length < 4 → decode b = .error .missingHeader) ∧
    (4 ≤ b.length → b.take 4 ≠ [0, 0, 0, 1] →
      decode b = .error (.unsupportedVersion (readSigned (b.take 4)))) ∧
    (b.take 4 = [0, 0, 0, 1] → b.length < 18 → decode b = .error .truncatedHeader) ∧
    (b.take 4 = [0, 0, 0, 1] → 18 ≤ b.length →
      (trackCount b < 0 ∨ (b.length : Int) ≠ 18 + 8 * trackCount b) →
      decode b = .error (.trackCountMismatch (trackCount b) (b.length - 18))) ∧
    ((∃ s, decode b = .ok s) ↔ 18 ≤ b.length ∧ b.take 4 = [0, 0, 0, 1] ∧ 0 ≤ trackCount b ∧
      (b.length : Int) = 18 + 8 * trackCount b) ∧
    (∀ s, decode b = .ok s → (s.encode = b ↔ Canonical b)) := by
  refine ⟨decode_short, decode_unknown_version, decode_truncated, ?mismatch, decode_ok_iff b,
    fun _ hs => encode_eq_iff_canonical hs⟩
  intro hv h18 hc
  rw [decode_of_header hv h18, if_pos hc]

/-- The state file's own tests: a changed version byte, and a cut header. -/
example : decode [0, 0, 0, 9, 0, 0, 0, 2, 1, 1, 0, 0, 0, 0, 0, 0, 0, 0] =
    .error (.unsupportedVersion 9) := by decide

example : decode [0, 0, 0, 1, 0, 0, 0, 2, 1, 1] = .error .truncatedHeader := by decide

end Snapshot

end PlaybackEngine
