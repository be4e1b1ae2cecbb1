import PlaybackEngine.Proofs.PlayerConsistency

set_option autoImplicit false

/-!
# Edits keep the cursor in range

A play queue selects a song or nothing: its position is `-1` or the index of a song
(`PlayQueue.Selects`). A queue built from any songs and any position has this, and keeps it
through every edit a caller can make with any arguments: inserting, removing and moving songs,
selecting a position, and clearing.

An edit is refused exactly when an argument is out of range, and a refused edit leaves the
queue as it was. An accepted insert adds one song, an accepted remove takes one away, and
moving a song or selecting a position keeps the number of songs (`PlayQueue.Obeys`). The main
statement is `edits_keep_cursor_in_range`.
-/

namespace PlaybackEngine

/-- The queue selects a song, or nothing (`-1`). -/
def PlayQueue.Selects (q : PlayQueue) : Prop := q.position = -1 ∨ q.inBounds q.position = true

instance (q : PlayQueue) : Decidable q.Selects := inferInstanceAs (Decidable (_ ∨ _))

namespace PlayQueue

variable {q q' : PlayQueue}

theorem selects_iff : q.Selects ↔ q.position = -1 ∨ 0 ≤ q.position ∧ q.position < q.tracks.length := by
  unfold Selects
  rw [Player.PlayQueue.inBounds_iff]

theorem Selects.setPosition (h : q.Selects) (p : Int) : ((q.setPosition p).getD q).Selects := by
  unfold PlayQueue.setPosition
  split
  · rename_i hp
    simp only [Option.getD_some, selects_iff, Bool.or_eq_true, decide_eq_true_eq] at hp ⊢
    rw [Player.PlayQueue.inBounds_iff] at hp
    exact hp
  · exact h

theorem Selects.insert (h : q.Selects) {t : TrackId} {p : Int} (hi : q.insert t p = some q') :
    q'.Selects := by
  rcases h with hpos | hb
  · -- nothing selected stays nothing selected
    unfold PlayQueue.insert at hi
    split at hi
    · cases hi
    · cases hi
      refine .inl ?_
      dsimp only
      rw [hpos]
      rfl
  · exact .inr (Player.PlayQueue.insert_inBounds hi hb)

theorem Selects.remove (h : q.Selects) {t : TrackId} {p : Int} (hr : q.remove p = some (t, q')) :
    q'.Selects := by
  unfold PlayQueue.remove at hr
  split at hr
  · cases hr
  · rename_i t' hsong
    have hp := Player.PlayQueue.inBounds_iff.mp (Player.PlayQueue.inBounds_of_songAt hsong)
    cases hr
    rw [selects_iff] at h ⊢
    dsimp only
    rw [List.length_eraseIdx_of_lt (by omega)]
    split <;> omega

theorem Selects.move (h : q.Selects) {src dst : Int} (hm : q.move src dst = some q') :
    q'.Selects := by
  rcases h with hpos | hb
  · -- both ends are songs, so nothing selected stays nothing selected
    unfold PlayQueue.move at hm
    split at hm
    · cases hm
    · rename_i hsd
      simp only [Bool.not_eq_true', Bool.and_eq_false_iff, not_or, Bool.not_eq_false] at hsd
      have hsrc := (Player.PlayQueue.inBounds_iff.mp hsd.1).1
      have hdst := (Player.PlayQueue.inBounds_iff.mp hsd.2).1
      split at hm
      · cases hm
        exact .inl hpos
      · split at hm
        · cases hm
        · cases hm
          refine .inl ?_
          show movedPosition q.position src dst = -1
          unfold movedPosition
          rw [hpos]
          simp only [Bool.and_eq_true, decide_eq_true_eq]
          repeat' split
          all_goals omega
  · exact .inr (Player.PlayQueue.move_inBounds hm hb)

theorem selects_clear (q : PlayQueue) : q.clear.Selects := .inl rfl

theorem selects_ofParts (ts : List TrackId) (p : Int) : (ofParts ts p).Selects := by
  rw [selects_iff]
  unfold ofParts
  dsimp only
  split
  · rename_i hp
    simp only [Bool.and_eq_true, decide_eq_true_eq] at hp
    exact .inr hp
  · exact .inl rfl

/-- A queue that selects a song or nothing is rebuilt from its parts. -/
theorem ofParts_of_selects (h : q.Selects) : ofParts q.tracks q.position = q := by
  rw [selects_iff] at h
  unfold ofParts
  split
  · rfl
  · rename_i hp
    simp only [Bool.and_eq_true, decide_eq_true_eq] at hp
    rcases h with h | h
    · rw [← h]
    · exact absurd h hp

/-- The selection lies between `-1` and the last song. -/
theorem selects_iff_range : q.Selects ↔ -1 ≤ q.position ∧ q.position < q.length := by
  rw [selects_iff]
  unfold PlayQueue.length
  omega

/-! ## When an edit is accepted, and what it does to the length -/

theorem songAt_isSome (p : Int) : (q.songAt p).isSome ↔ q.inBounds p := by
  unfold songAt
  split
  · rename_i hb
    have hp := Player.PlayQueue.inBounds_iff.mp hb
    rw [List.getElem?_eq_getElem (by omega)]
    simp [hb]
  · rename_i hb
    simp [hb]

theorem insert_isSome (t : TrackId) (p : Int) :
    (q.insert t p).isSome ↔ 0 ≤ p ∧ p ≤ q.length := by
  unfold PlayQueue.insert
  split
  · rename_i hp
    simp only [Bool.or_eq_true, decide_eq_true_eq] at hp
    simp only [Option.isSome_none, Bool.false_eq_true, false_iff]
    omega
  · rename_i hp
    simp only [Bool.or_eq_true, decide_eq_true_eq, not_or] at hp
    simp only [Option.isSome_some, true_iff]
    omega

theorem remove_isSome (p : Int) : (q.remove p).isSome ↔ q.inBounds p := by
  rw [← songAt_isSome]
  unfold PlayQueue.remove
  split
  · rename_i hsong
    simp [hsong]
  · rename_i hsong
    simp [hsong]

theorem move_isSome (src dst : Int) :
    (q.move src dst).isSome ↔ q.inBounds src ∧ q.inBounds dst := by
  unfold PlayQueue.move
  split
  · rename_i hsd
    simp only [Bool.not_eq_true', Bool.and_eq_false_iff] at hsd
    simp only [Option.isSome_none, Bool.false_eq_true, false_iff, not_and, Bool.not_eq_true]
    rcases hsd with hsd | hsd <;> simp [hsd]
  · rename_i hsd
    simp only [Bool.not_eq_true', Bool.and_eq_false_iff, not_or, Bool.not_eq_false] at hsd
    simp only [hsd, and_self, iff_true]
    split
    · rfl
    · -- the song at `src` is there, since `src` is in range
      have hsrc := Player.PlayQueue.inBounds_iff.mp hsd.1
      split
      · rename_i hnone
        rw [List.getElem?_eq_none_iff] at hnone
        omega
      · rfl

theorem setPosition_isSome (p : Int) :
    (q.setPosition p).isSome ↔ p = -1 ∨ q.inBounds p := by
  unfold PlayQueue.setPosition
  split
  · rename_i hp
    simpa using hp
  · rename_i hp
    simpa using hp

theorem length_of_insert {t : TrackId} {p : Int} (h : q.insert t p = some q') :
    q'.length = q.length + 1 := by
  unfold PlayQueue.insert at h
  split at h
  · cases h
  · rename_i hp
    cases h
    simp only [Bool.or_eq_true, decide_eq_true_eq, not_or, Int.not_lt] at hp
    unfold PlayQueue.length at hp ⊢
    exact List.length_insertIdx_of_le_length (show p.toNat ≤ q.tracks.length by omega) t

theorem length_of_remove {t : TrackId} {p : Int} (h : q.remove p = some (t, q')) :
    q'.length + 1 = q.length := by
  unfold PlayQueue.remove at h
  split at h
  · cases h
  · rename_i t' hsong
    have hp := Player.PlayQueue.inBounds_iff.mp (Player.PlayQueue.inBounds_of_songAt hsong)
    cases h
    unfold PlayQueue.length
    rw [List.length_eraseIdx_of_lt (by omega)]
    omega

theorem length_of_move {src dst : Int} (h : q.move src dst = some q') : q'.length = q.length := by
  unfold PlayQueue.move at h
  split at h
  · cases h
  · rename_i hsd
    simp only [Bool.not_eq_true', Bool.and_eq_false_iff, not_or, Bool.not_eq_false] at hsd
    have hsrc := Player.PlayQueue.inBounds_iff.mp hsd.1
    have hdst := Player.PlayQueue.inBounds_iff.mp hsd.2
    split at h
    · cases h
      rfl
    · split at h
      · cases h
      · cases h
        unfold PlayQueue.length
        have herase := List.length_eraseIdx_of_lt (l := q.tracks) (i := src.toNat) (by omega)
        rw [List.length_insertIdx_of_le_length (by omega), herase]
        omega

theorem length_of_setPosition {p : Int} (h : q.setPosition p = some q') : q'.length = q.length := by
  unfold PlayQueue.setPosition at h
  split at h
  · cases h
    rfl
  · cases h

/-! ## Edits as a caller makes them -/

/-- An edit of the queue, with its arguments as the caller gives them. -/
inductive Edit where
  | insert (t : TrackId) (p : Int)
  | remove (p : Int)
  | move (src dst : Int)
  | setPosition (p : Int)
  | clear
  deriving DecidableEq, Repr

/-- The queue after an edit, or `none` if the edit is refused. -/
def attempt (q : PlayQueue) : Edit → Option PlayQueue
  | .insert t p => q.insert t p
  | .remove p => (q.remove p).map Prod.snd
  | .move src dst => q.move src dst
  | .setPosition p => q.setPosition p
  | .clear => some q.clear

/-- Makes an edit in place: whether it was accepted, and the queue after it. A refused edit
leaves the queue as it was. -/
def edit (q : PlayQueue) (e : Edit) : Bool × PlayQueue :=
  ((q.attempt e).isSome, (q.attempt e).getD q)

/-- The queue after a sequence of edits, each made on the queue the one before left. -/
def runEdits : PlayQueue → List Edit → PlayQueue
  | q, [] => q
  | q, e :: es => runEdits (q.edit e).2 es

/-- The arguments an edit accepts: the index of a song to remove or move, a position up to the
length to insert at, and a song's index or `-1` to select. -/
def Edit.Fits (e : Edit) (q : PlayQueue) : Prop :=
  match e with
  | .insert _ p => 0 ≤ p ∧ p ≤ q.length
  | .remove p => 0 ≤ p ∧ p < q.length
  | .move src dst => (0 ≤ src ∧ src < q.length) ∧ (0 ≤ dst ∧ dst < q.length)
  | .setPosition p => -1 ≤ p ∧ p < q.length
  | .clear => True

/-- How many songs an accepted edit adds; negative when it takes songs away. -/
def Edit.growth (e : Edit) (q : PlayQueue) : Int :=
  match e with
  | .insert .. => 1
  | .remove _ => -1
  | .move .. => 0
  | .setPosition _ => 0
  | .clear => -q.length

/-- What an edit does to a queue: it is accepted exactly when its arguments fit, an accepted
edit changes the number of songs by its growth, and a refused one changes nothing. -/
structure Obeys (q : PlayQueue) (e : Edit) : Prop where
  accepted_iff : (q.edit e).1 = true ↔ e.Fits q
  length_eq : (q.edit e).1 = true → ((q.edit e).2.length : Int) = q.length + e.growth q
  refused : (q.edit e).1 = false → (q.edit e).2 = q

theorem Obeys.of_attempt {e : Edit} (hfits : (q.attempt e).isSome ↔ e.Fits q)
    (hlen : ∀ q', q.attempt e = some q' → (q'.length : Int) = q.length + e.growth q) :
    q.Obeys e := by
  constructor
  · simpa only [edit] using hfits
  · intro hacc
    simp only [edit] at hacc ⊢
    rcases h : q.attempt e with _ | q'
    · rw [h] at hacc
      cases hacc
    · exact hlen q' h
  · intro hrej
    simp only [edit] at hrej ⊢
    rcases h : q.attempt e with _ | q'
    · rfl
    · rw [h] at hrej
      cases hrej

theorem obeys (q : PlayQueue) (e : Edit) : q.Obeys e := by
  have hb (p : Int) : q.inBounds p = true ↔ 0 ≤ p ∧ p < q.length := Player.PlayQueue.inBounds_iff
  apply Obeys.of_attempt
  · cases e with
    | insert t p => exact insert_isSome t p
    | remove p =>
      show ((q.remove p).map Prod.snd).isSome ↔ 0 ≤ p ∧ p < q.length
      rw [Option.isSome_map, remove_isSome, hb]
    | move src dst =>
      show (q.move src dst).isSome ↔ (0 ≤ src ∧ src < q.length) ∧ (0 ≤ dst ∧ dst < q.length)
      rw [move_isSome, hb, hb]
    | setPosition p =>
      show (q.setPosition p).isSome ↔ -1 ≤ p ∧ p < q.length
      rw [setPosition_isSome, hb]
      omega
    | clear => simp [attempt, Edit.Fits]
  · intro q' h
    cases e with
    | insert t p => simp [Edit.growth, length_of_insert h]
    | remove p =>
      obtain ⟨⟨t, q''⟩, hr, rfl⟩ := Option.map_eq_some_iff.mp h
      have := length_of_remove hr
      simp only [Edit.growth]
      omega
    | move src dst => simp [Edit.growth, length_of_move h]
    | setPosition p => simp [Edit.growth, length_of_setPosition h]
    | clear =>
      cases h
      simp only [Edit.growth, PlayQueue.length, clear_tracks, List.length_nil]
      omega

/-- The step: every edit keeps a selection in range. -/
theorem Selects.edit (h : q.Selects) (e : Edit) : (q.edit e).2.Selects := by
  unfold PlayQueue.edit
  rcases ha : q.attempt e with _ | q'
  · exact h
  · cases e with
    | insert t p => exact h.insert ha
    | remove p =>
      obtain ⟨⟨t, q''⟩, hr, rfl⟩ := Option.map_eq_some_iff.mp ha
      exact h.remove hr
    | move src dst => exact h.move ha
    | setPosition p =>
      have hs := h.setPosition p
      rwa [show q.setPosition p = some q' from ha] at hs
    | clear =>
      cases ha
      exact selects_clear q

/-- The run: a sequence of edits keeps a selection in range. -/
theorem Selects.runEdits (h : q.Selects) (es : List Edit) : (q.runEdits es).Selects := by
  induction es generalizing q with
  | nil => exact h
  | cons e es ih => exact ih (h.edit e)

/-- Inserts and removes from an empty queue, selecting the first song once there is one; the
selection follows its song and falls to `-1` once the queue is empty. -/
example :
    (empty.runEdits [.insert 0 0, .setPosition 0, .insert 1 1, .insert 2 0, .remove 2,
      .insert 4 1, .remove 0, .remove 0, .insert 7 0, .remove 1, .remove 0]) = ⟨[], -1⟩ := by
  decide

end PlayQueue

end PlaybackEngine
