import PlaybackEngine.Snapshot
import Mathlib.Tactic.Ring
import Mathlib.Tactic.Positivity

/-!
# Reading back a saved snapshot

The bytes of a snapshot read back as the snapshot, except that a song that is not paused has its
offset written as `0`: the offset is the only field the format can lose. This holds of every
snapshot whose fields fit the words they are written in (the position and the offset in 32 bits,
each track id in 64) and whose track count fits the 32-bit count, and the bytes are always the
18 of the header and 8 per track.

A word is written most significant byte first, in two's complement, and `readSigned_bigEndian`
reads it back. The header's words stand at fixed places, and the track ids follow eight bytes at
a time (`readTracks_flatten`).
-/

set_option autoImplicit false

namespace PlaybackEngine

/-- `v` is a value of a signed word of `bits` bits. -/
def FitsSigned (bits : Nat) (v : Int) : Prop := -2 ^ (bits - 1) ≤ v ∧ v < 2 ^ (bits - 1)

instance (bits : Nat) (v : Int) : Decidable (FitsSigned bits v) :=
  inferInstanceAs (Decidable (_ ∧ _))

/-- Two's complement undoes the remainder a negative value is stored as. -/
theorem signedOfBits_toNat_emod {bits : Nat} {v : Int} (hb : 0 < bits) (h : FitsSigned bits v) :
    signedOfBits bits (v % 2 ^ bits).toNat = v := by
  obtain ⟨k, rfl⟩ : ∃ k, bits = k + 1 := ⟨bits - 1, by omega⟩
  obtain ⟨lo, hi⟩ := h
  simp only [Nat.add_sub_cancel] at lo hi
  have hB : (2 : Int) ^ (k + 1) = 2 * 2 ^ k := by rw [pow_succ]; ring
  have hH : (0 : Int) < 2 ^ k := by positivity
  have hcast : (((2 : Nat) ^ k : Nat) : Int) = 2 ^ k := by push_cast; rfl
  have hcast' : (((2 : Nat) ^ (k + 1) : Nat) : Int) = 2 ^ (k + 1) := by push_cast; rfl
  -- a value below zero is stored as itself plus the modulus
  have hr : v % 2 ^ (k + 1) = if 0 ≤ v then v else v + 2 ^ (k + 1) := by
    split
    · exact Int.emod_eq_of_lt ‹_› (by omega)
    · rw [← Int.add_mul_emod_self_right v 1 (2 ^ (k + 1)), Int.one_mul]
      exact Int.emod_eq_of_lt (by omega) (by omega)
  have hlt : (v % 2 ^ (k + 1)).toNat < 2 ^ (k + 1) := by
    rw [hr]
    split <;> omega
  unfold signedOfBits
  simp only [Nat.add_sub_cancel, Nat.mod_eq_of_lt hlt]
  rw [hr]
  split <;> split <;> omega

/-- Reading the bytes of a number's low `w` bytes, most significant first, after `acc`. -/
theorem foldl_bigEndianDigits (n w acc : Nat) :
    ((List.range w).reverse.map fun k => ((n / 2 ^ (8 * k)) % 256).toUInt8).foldl
      (fun acc b => acc * 256 + b.toNat) acc = acc * 2 ^ (8 * w) + n % 2 ^ (8 * w) := by
  induction w generalizing acc with
  | zero => simp [Nat.mod_one]
  | succ w ih =>
    -- the most significant byte comes first, then the `w` below it
    rw [List.range_succ, List.reverse_append, List.map_append, List.foldl_append]
    simp only [List.reverse_cons, List.reverse_nil, List.nil_append, List.map_cons, List.map_nil,
      List.foldl_cons, List.foldl_nil]
    rw [ih]
    have hd : (((n / 2 ^ (8 * w)) % 256).toUInt8).toNat = n / 2 ^ (8 * w) % 256 := by simp
    have hpow : 2 ^ (8 * (w + 1)) = 2 ^ (8 * w) * 256 := by rw [Nat.mul_succ, Nat.pow_add]
    rw [hd, hpow, Nat.mod_mul]
    ring

@[simp] theorem length_bigEndian (w : Nat) (v : Int) : (bigEndian w v).length = w := by
  simp [bigEndian]

theorem bigEndianValue_bigEndian (w : Nat) (v : Int) :
    bigEndianValue (bigEndian w v) = (v % 2 ^ (8 * w)).toNat := by
  have hpos : (0 : Int) < 2 ^ (8 * w) := by positivity
  have hcast : (((2 : Nat) ^ (8 * w) : Nat) : Int) = 2 ^ (8 * w) := by push_cast; rfl
  have hlt : (v % 2 ^ (8 * w)).toNat < 2 ^ (8 * w) := by
    have := Int.emod_lt_of_pos v hpos
    have := Int.emod_nonneg v hpos.ne'
    omega
  rw [bigEndianValue, bigEndian, foldl_bigEndianDigits, Nat.zero_mul, Nat.zero_add,
    Nat.mod_eq_of_lt hlt]

/-- A word written in `w` bytes reads back as itself when it fits them. -/
theorem readSigned_bigEndian {w : Nat} {v : Int} (hw : 0 < w) (h : FitsSigned (8 * w) v) :
    readSigned (bigEndian w v) = v := by
  rw [readSigned, bigEndianValue_bigEndian, length_bigEndian]
  exact signedOfBits_toNat_emod (by omega) h

namespace Snapshot

/-- Every field fits the word it is written in. -/
def Fits (s : Snapshot) : Prop :=
  FitsSigned 32 s.position ∧ FitsSigned 32 s.pausedOffsetMs ∧ ∀ t ∈ s.tracks, FitsSigned 64 t

instance (s : Snapshot) : Decidable s.Fits := inferInstanceAs (Decidable (_ ∧ _ ∧ _))

theorem readTracks_append {l : List UInt8} (r : List UInt8) (hl : l.length = 8) :
    readTracks (l ++ r) = readSigned l :: readTracks r := by
  match l, hl with
  | [_, _, _, _, _, _, _, _], _ => rfl

/-- Track ids written eight bytes each read back as the ids. -/
theorem readTracks_flatten (ts : List TrackId) (h : ∀ t ∈ ts, FitsSigned 64 t) :
    readTracks (ts.map (bigEndian 8)).flatten = ts := by
  induction ts with
  | nil => rfl
  | cons t ts ih =>
    rw [List.map_cons, List.flatten_cons, readTracks_append _ (length_bigEndian 8 t),
      @readSigned_bigEndian 8 t (by decide) (h t (List.mem_cons_self ..)),
      ih fun u hu => h u (List.mem_cons_of_mem t hu)]

theorem flagByte_ne_zero (b : Bool) : (some (flagByte b) != some 0) = b := by
  cases b <;> rfl

/-- The bytes are the header and eight per track. -/
theorem length_encode (s : Snapshot) : s.encode.length = headerLength + 8 * s.tracks.length := by
  simp [encode, headerLength, List.length_flatten, Function.comp_def]
  omega

/-- The bytes of a snapshot with fewer than `2 ^ 31` tracks pass every check of reading, whatever
its fields hold: each field reads back as the word it was written in. -/
theorem decode_encode_words (s : Snapshot) (hn : s.tracks.length < 2 ^ 31) :
    decode s.encode = .ok
      { tracks := readTracks (s.tracks.map (bigEndian 8)).flatten
        position := readSigned (bigEndian 4 s.position)
        playing := s.playing
        paused := s.paused
        pausedOffsetMs := readSigned (bigEndian 4 (if s.paused then s.pausedOffsetMs else 0)) } := by
  set off := if s.paused then s.pausedOffsetMs else 0 with hoffDef
  set tail := (s.tracks.map (bigEndian 8)).flatten with htailDef
  set rest := bigEndian 4 s.position ++ ([flagByte s.playing, flagByte s.paused] ++
    (bigEndian 4 off ++ (bigEndian 4 (s.tracks.length : Int) ++ tail))) with hrest
  have henc : s.encode = bigEndian 4 formatVersion ++ rest := by
    unfold encode
    simp only [List.append_assoc]
    rfl
  -- where each field of the header stands after the version
  have ht4 : rest.take 4 = bigEndian 4 s.position := List.take_left' (length_bigEndian 4 _)
  have hp : rest[4]? = some (flagByte s.playing) := by
    rw [hrest, List.getElem?_append_right (by simp)]
    rfl
  have hq : rest[5]? = some (flagByte s.paused) := by
    rw [hrest, List.getElem?_append_right (by simp)]
    rfl
  have h6 : rest.drop 6 = bigEndian 4 off ++ (bigEndian 4 (s.tracks.length : Int) ++ tail) := by
    rw [show 6 = 4 + 2 from rfl, ← List.drop_drop, hrest, List.drop_left' (length_bigEndian 4 _)]
    rfl
  have h10 : rest.drop 10 = bigEndian 4 (s.tracks.length : Int) ++ tail := by
    rw [show 10 = 6 + 4 from rfl, ← List.drop_drop, h6]
    exact List.drop_left' (length_bigEndian 4 _)
  have h14 : rest.drop 14 = tail := by
    rw [show 14 = 10 + 4 from rfl, ← List.drop_drop, h10]
    exact List.drop_left' (length_bigEndian 4 _)
  have hlen : rest.length = 14 + tail.length := by
    simp only [hrest, List.length_append, length_bigEndian, List.length_cons, List.length_nil]
    omega
  have htail : tail.length = 8 * s.tracks.length := by
    simp [htailDef, List.length_flatten, Function.comp_def, Nat.mul_comm]
  -- the version and the count read back; the count is what the checks look at
  have hv : readSigned (bigEndian 4 formatVersion) = formatVersion :=
    readSigned_bigEndian (by decide) (by decide)
  have hc : readSigned (bigEndian 4 (s.tracks.length : Int)) = s.tracks.length :=
    readSigned_bigEndian (by decide) ⟨by omega, by simp only [Nat.reduceMul, Nat.reduceSub]; omega⟩
  unfold decode
  rw [henc, List.take_left' (length_bigEndian 4 _), List.drop_left' (length_bigEndian 4 _)]
  simp only [List.length_append, length_bigEndian, hlen, h6, h10, h14, hp, hq, flagByte_ne_zero,
    ht4, List.take_left' (length_bigEndian 4 _), hv, hc, htail]
  -- every check passes: bytes are there, the version is known, the header is whole and the
  -- count matches the ids that follow
  have hcount : ¬((decide ((s.tracks.length : Int) < 0) ||
      decide (((8 * s.tracks.length : Nat) : Int) ≠ (s.tracks.length : Int) * 8)) = true) := by
    simp only [Bool.or_eq_true, decide_eq_true_eq]
    omega
  have hsome : ¬(4 + (14 + 8 * s.tracks.length) < 4) := by omega
  have hwhole : ¬(14 + 8 * s.tracks.length < 14) := by omega
  rw [if_neg hsome, if_neg (not_ne_iff.mpr rfl), if_neg hwhole, if_neg hcount]

/-- Reading a snapshot's bytes gives the snapshot, its offset kept only while paused. -/
theorem decode_encode (s : Snapshot) (hs : s.Fits) (hn : s.tracks.length < 2 ^ 31) :
    decode s.encode = .ok { s with pausedOffsetMs := if s.paused then s.pausedOffsetMs else 0 } := by
  obtain ⟨hpos, hoff, htracks⟩ := hs
  have ho : readSigned (bigEndian 4 (if s.paused then s.pausedOffsetMs else 0)) =
      if s.paused then s.pausedOffsetMs else 0 := by
    refine readSigned_bigEndian (by decide) ?_
    split
    · exact hoff
    · decide
  rw [decode_encode_words s hn, readTracks_flatten s.tracks htracks,
    @readSigned_bigEndian 4 s.position (by decide) hpos, ho]

/-- A snapshot that is paused, or whose offset is `0`, reads back whole. -/
theorem decode_encode_of_offsetKept (s : Snapshot) (hs : s.Fits) (hn : s.tracks.length < 2 ^ 31)
    (hk : s.paused ∨ s.pausedOffsetMs = 0) : decode s.encode = .ok s := by
  have hoff : (if s.paused then s.pausedOffsetMs else 0) = s.pausedOffsetMs := by
    rcases hk with hk | hk <;> simp [hk]
  rw [decode_encode s hs hn, hoff]

/-- Every snapshot whose fields fit their words and that has fewer than `2 ^ 31` tracks reads
back from its bytes as itself, except that its offset is `0` when it is not paused; so it reads
back whole when paused or at offset `0`; and its bytes are 18 plus 8 per track. -/
theorem decode_encode_round_trip (s : Snapshot) (hs : s.Fits) (hn : s.tracks.length < 2 ^ 31) :
    decode s.encode = .ok { s with pausedOffsetMs := if s.paused then s.pausedOffsetMs else 0 } ∧
      (s.paused ∨ s.pausedOffsetMs = 0 → decode s.encode = .ok s) ∧
      s.encode.length = 18 + 8 * s.tracks.length :=
  ⟨decode_encode s hs hn, decode_encode_of_offsetKept s hs hn, length_encode s⟩

/-- A paused snapshot with the largest and a negative track id. -/
theorem extreme_ids_round_trip :
    let s : Snapshot := ⟨[10, 20, 9223372036854775807, -4], 2, true, true, 93500⟩
    s.Fits ∧ s.tracks.length < 2 ^ 31 ∧
      (decode s.encode = .ok { s with pausedOffsetMs := if s.paused then s.pausedOffsetMs else 0 } ∧
        (s.paused ∨ s.pausedOffsetMs = 0 → decode s.encode = .ok s) ∧
        s.encode.length = 18 + 8 * s.tracks.length) := by
  intro s
  have hs : s.Fits := by decide
  have hn : s.tracks.length < 2 ^ 31 := by decide
  exact ⟨hs, hn, decode_encode_round_trip s hs hn⟩

end Snapshot

end PlaybackEngine
