import PlaybackEngine.Download.State

set_option autoImplicit false

/-!
# The percent of a transfer

A transfer reports how far it got as a whole percent of its expected length (`progressPercent`):
the record of a download, the share a resumed download opens with, and the share announced when a
download progresses all compute it so. The bytes counted are capped at the expected length and
multiplied by 100 in a 64-bit word before the division.

The percent never exceeds 100, even when that product wraps: the wrapped product is no greater
than the true one. It is the exact share `⌊min B L * 100 / L⌋` while the product fits the word,
that is while `min B L ≤ (2 ^ 64 - 1) / 100` (`wordModulus` is `2 ^ 64`); past that bound a
finished transfer no longer reads 100 (`progressPercent_exact_without_wrap`). A transfer of
2·10¹⁷ bytes, all written, reads 7 (`finished_transfer_past_word_reads_seven`).
-/

namespace PlaybackEngine

section Share

variable {expected written : Nat}

/-- The wrapped product is at most the product, which is at most `expected * 100`. -/
theorem wrappedShare_le_hundred :
    min written expected * 100 % wordModulus / expected ≤ 100 := by
  have hmod := Nat.mod_le (min written expected * 100) wordModulus
  have hcap : min written expected ≤ expected := Nat.min_le_right written expected
  exact Nat.div_le_of_le_mul (by omega)

/-- The wrapped product of the capped count, divided by the expected length: the final
narrowing to a byte changes nothing. -/
theorem progressPercent_eq_share (h : 0 < expected) :
    progressPercent expected written = min written expected * 100 % wordModulus / expected := by
  have hbyte : min written expected * 100 % wordModulus / expected < 256 :=
    Nat.lt_of_le_of_lt wrappedShare_le_hundred (by decide)
  rw [progressPercent, if_neg (Nat.pos_iff_ne_zero.mp h), Nat.mod_eq_of_lt hbyte]

theorem progressPercent_le_hundred (expected written : Nat) :
    progressPercent expected written ≤ 100 := by
  rcases Nat.eq_zero_or_pos expected with h | h
  · simp [progressPercent, h]
  · rw [progressPercent_eq_share h]
    exact wrappedShare_le_hundred

/-- While the product fits the word the share is exact. -/
theorem progressPercent_eq_div (h : 0 < expected)
    (hfit : min written expected ≤ (wordModulus - 1) / 100) :
    progressPercent expected written = min written expected * 100 / expected := by
  have hlt : min written expected * 100 < wordModulus := by
    unfold wordModulus at hfit ⊢
    omega
  rw [progressPercent_eq_share h, Nat.mod_eq_of_lt hlt]

/-- A product past the word wraps to less than the word, which is at most the product: its
share of the expected length falls short of 100. -/
theorem progressPercent_lt_hundred_of_wrap (h : 0 < expected) (hfin : expected ≤ written)
    (hwrap : (wordModulus - 1) / 100 < expected) : progressPercent expected written < 100 := by
  have hmod : expected * 100 % wordModulus < wordModulus := Nat.mod_lt _ (by decide)
  have hword : wordModulus ≤ expected * 100 := by
    unfold wordModulus at hwrap ⊢
    omega
  rw [progressPercent_eq_share h, Nat.min_eq_right hfin, Nat.div_lt_iff_lt_mul h]
  omega

end Share

/-- The percent of a transfer never exceeds 100. It is the exact share of the expected length
that the written bytes make, capped at the whole, as long as `100` times the capped count fits
a 64-bit word; a finished transfer reads 100 exactly when its length is within that bound. -/
theorem progressPercent_exact_without_wrap (expected written : Nat) (h : 0 < expected) :
    progressPercent expected written ≤ 100 ∧
    (min written expected ≤ (wordModulus - 1) / 100 →
      progressPercent expected written = min written expected * 100 / expected) ∧
    (expected ≤ written →
      (progressPercent expected written = 100 ↔ expected ≤ (wordModulus - 1) / 100)) := by
  refine ⟨progressPercent_le_hundred expected written, progressPercent_eq_div h,
    fun hfin => ⟨fun hread => ?_, fun hfit => ?_⟩⟩
  · -- a length past the bound reads less than 100
    rcases Nat.lt_or_ge ((wordModulus - 1) / 100) expected with hwrap | hfit
    · have := progressPercent_lt_hundred_of_wrap h hfin hwrap
      omega
    · exact hfit
  · have hcap : min written expected = expected := Nat.min_eq_right hfin
    rw [progressPercent_eq_div h (by rw [hcap]; exact hfit), hcap, Nat.mul_div_cancel_left 100 h]

/-- The longest transfer that reads 100 once finished. -/
theorem longest_finished_transfer_reads_hundred :
    0 < 184467440737095516 ∧
    (progressPercent 184467440737095516 184467440737095516 ≤ 100 ∧
    (min 184467440737095516 184467440737095516 ≤ (wordModulus - 1) / 100 →
      progressPercent 184467440737095516 184467440737095516 =
        min 184467440737095516 184467440737095516 * 100 / 184467440737095516) ∧
    (184467440737095516 ≤ 184467440737095516 →
      (progressPercent 184467440737095516 184467440737095516 = 100 ↔
        184467440737095516 ≤ (wordModulus - 1) / 100))) :=
  ⟨by decide,
    progressPercent_exact_without_wrap 184467440737095516 184467440737095516 (by decide)⟩

/-- All `2 · 10¹⁷` bytes of a transfer written make the whole of it, yet its product by 100
wraps and the transfer reads 7. -/
theorem finished_transfer_past_word_reads_seven :
    min 200000000000000000 200000000000000000 * 100 / 200000000000000000 = 100 ∧
      progressPercent 200000000000000000 200000000000000000 = 7 := by
  decide

end PlaybackEngine
