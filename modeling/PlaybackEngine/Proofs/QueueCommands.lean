import PlaybackEngine.Proofs.Loading
import PlaybackEngine.Proofs.Jumps

set_option autoImplicit false

/-!
# Queue commands edit the queue as the queue does

Each command that edits the queue makes the queue's own edit and announces it once on the
queue-change channel; an edit the queue refuses leaves the world as it was. Prepending,
appending and inserting after the selection are inserts at the front, at the end and after the
selected position.

Around the edit the player keeps playing what it plays, with two exceptions. Removing the
selected song while it is in output stops it first, and clearing the queue always stops. A song
inserted into a stopped player is selected and played, exactly as a play command would from
there.
-/

namespace PlaybackEngine.Player

open PlaybackEngine.World

/-- Playing a stopped player keeps the songs queued and announces no queue change. -/
theorem play_stopped_keeps_tracks (w : World) (hs : w.controller.state = .stopped) :
    Holds play (fun _ w' =>
      w'.controller.queue.tracks = w.controller.queue.tracks ∧ w'.hub.changes = w.hub.changes) w := by
  -- what follows the selection of a song, from a world that kept the songs and queue changes
  have hload : ∀ w₁ : World, w₁.controller.queue.tracks = w.controller.queue.tracks →
      w₁.hub.changes = w.hub.changes →
      Holds (do if ← startPlayback false then emitPlay) (fun _ w' =>
        w'.controller.queue.tracks = w.controller.queue.tracks ∧
          w'.hub.changes = w.hub.changes) w₁ := by
    intro w₁ ht₁ hc₁
    simp only [holds_bind]
    refine (startPlayback_keeps_tracks false w₁).mono ?_
    rintro loaded w₂ ⟨ht₂, hc₂⟩
    split
    · refine (emitPlay_announces w₂).mono ?_
      rintro _ w₃ ⟨hctl, han⟩
      exact ⟨by rw [hctl, ht₂, ht₁], by rw [han.2, Channel.broadcastAll_nil, hc₂, hc₁]⟩
    · exact ⟨ht₂.trans ht₁, hc₂.trans hc₁⟩
  simp only [play, holds_bind, holds_controller, hs, holds_queue]
  split
  · split
    · exact ⟨rfl, rfl⟩
    · simp only [holds_bind, holds_selectPosition]
      exact hload _ (PlayQueue.setPosition_getD_tracks _ _) rfl
  · exact hload w rfl rfl

/-! ## Inserting -/

/-- The inserted position names a song of the queue after the insert. -/
theorem PlayQueue.inBounds_of_insert {q q' : PlayQueue} {t : TrackId} {p : Int}
    (h : q.insert t p = some q') : q'.inBounds p := by
  have hp := (PlayQueue.insert_isSome t p).mp (by rw [h]; rfl)
  have hlen := PlayQueue.length_of_insert h
  rw [PlayQueue.inBounds_iff]
  simp only [PlayQueue.length] at hp hlen
  omega

/-- Where an insert into a stopped player stands before it plays: the edited queue with the
inserted song selected, and the insert announced. -/
def insertSelected (t : TrackId) (p : Int) (q' : PlayQueue) (w : World) : World :=
  { w with controller := { w.controller with queue := { q' with position := p }, dirty := true },
           hub := (w.hub.emitChange (.insert p t)).2 }

theorem insert_refused {t : TrackId} {p : Int} (w : World)
    (h : w.controller.queue.insert t p = none) : (insert t p).run w = ((), w) := by
  have hrun : Holds (insert t p) (fun r w' => (r, w') = ((), w)) w := by
    simp only [insert, holds_bind, holds_queue, h]
    rfl
  exact hrun

/-- A song inserted into a stopped player is selected and played as a play command would. -/
theorem insert_stopped_plays {t : TrackId} {p : Int} {q' : PlayQueue} (w : World)
    (h : w.controller.queue.insert t p = some q') (hs : w.controller.state = .stopped) :
    (insert t p).run w = play.run (insertSelected t p q' w) := by
  have hsel : (q'.setPosition p).getD q' = { q' with position := p } := by
    simp [PlayQueue.setPosition, PlayQueue.inBounds_of_insert h]
  have hrun : Holds (insert t p) (fun r w' => (r, w') = play.run (insertSelected t p q' w)) w := by
    simp only [insert, holds_bind, holds_queue, h, holds_setQueue, holds_emitChange,
      holds_controller]
    rw [if_pos hs]
    simp only [holds_bind, holds_selectPosition, hsel]
    rfl
  exact hrun

/-- A song inserted into a player in output keeps it playing what it plays; only the insert is
announced. -/
theorem insert_outputting {t : TrackId} {p : Int} {q' : PlayQueue} (w : World)
    (h : w.controller.queue.insert t p = some q') (hs : w.controller.state ≠ .stopped) :
    ((insert t p).run w).2.controller.queue = q' ∧
      ((insert t p).run w).2.controller.state = w.controller.state ∧
      Announced [] [.insert p t] w ((insert t p).run w).2 := by
  have hrun : Holds (insert t p) (fun _ w' => w'.controller.queue = q' ∧
      w'.controller.state = w.controller.state ∧ Announced [] [.insert p t] w w') w := by
    simp only [insert, holds_bind, holds_queue, h, holds_setQueue, holds_emitChange,
      holds_controller, hs, ↓reduceIte]
    split
    · refine (prefetch_frame _).mono ?_
      rintro _ w' ⟨hhub, hc⟩
      exact ⟨by rw [hc], by rw [hc], by simp [Announced, hhub]⟩
    · simp only [holds_pure]
      exact ⟨trivial, trivial, by simp [Announced]⟩
  exact hrun

/-- An accepted insert leaves the queue's own edit of the songs and announces it once. -/
theorem insert_accepted {t : TrackId} {p : Int} {q' : PlayQueue} (w : World)
    (h : w.controller.queue.insert t p = some q') :
    ((insert t p).run w).2.controller.queue.tracks = q'.tracks ∧
      ((insert t p).run w).2.hub.changes = w.hub.changes.broadcastAll [.insert p t] := by
  by_cases hs : w.controller.state = .stopped
  · rw [insert_stopped_plays w h hs]
    obtain ⟨ht, hc⟩ := play_stopped_keeps_tracks (insertSelected t p q' w) hs
    exact ⟨ht, by rw [hc]; simp [insertSelected]⟩
  · obtain ⟨hq, -, han⟩ := insert_outputting w h hs
    exact ⟨by rw [hq], han.2⟩

/-! ## Removing, moving and clearing -/

theorem remove_refused {p : Int} (w : World) (h : w.controller.queue.songAt p = none) :
    (remove p).run w = ((), w) := by
  have hrun : Holds (remove p) (fun r w' => (r, w') = ((), w)) w := by
    simp only [remove, holds_bind, holds_queue, h]
    rfl
  exact hrun

/-- Removing a song leaves the queue's own edit, cursor included, and announces it once; when
it was the selected song, the player stops first. -/
theorem remove_edits {p : Int} {t : TrackId} {q' : PlayQueue} (w : World)
    (h : w.controller.queue.remove p = some (t, q')) :
    ((remove p).run w).2.controller.queue = q' ∧
      ((remove p).run w).2.controller.state =
        (if p = w.controller.queue.position then .stopped else w.controller.state) ∧
      Announced (if p = w.controller.queue.position then stopMoves w.controller.state else [])
        [.remove p t q'.position] w ((remove p).run w).2 := by
  have hsong : w.controller.queue.songAt p = some t := by
    unfold PlayQueue.remove at h
    split at h
    · cases h
    · cases h
      assumption
  have hrun : Holds (remove p) (fun _ w' => w'.controller.queue = q' ∧
      w'.controller.state =
        (if p = w.controller.queue.position then .stopped else w.controller.state) ∧
      Announced (if p = w.controller.queue.position then stopMoves w.controller.state else [])
        [.remove p t q'.position] w w') w := by
    simp -zeta only [remove, holds_bind, holds_queue, hsong, holds_controller]
    split
    · -- the selected song in output: stop, then edit the queue the stop kept
      rename_i hstop
      simp only [Bool.and_eq_true, decide_eq_true_eq] at hstop
      simp only [holds_bind]
      refine (stop_announces w).mono ?_
      rintro _ w₁ ⟨han₁, hs₁, hq₁⟩
      simp only [holds_queue, hq₁, h, holds_bind, holds_setQueue, holds_emitChange]
      refine ⟨trivial, by simp [hs₁, hstop.1], ?_⟩
      constructor <;> simp [han₁.1, han₁.2, hstop.1]
    · -- otherwise the edit alone; a selected song not in output is stopped already
      rename_i hkeep
      simp only [holds_queue, h, holds_bind, holds_setQueue, holds_emitChange]
      by_cases hp : p = w.controller.queue.position
      · have hidle : w.controller.state = .stopped := by
          simpa [hp, PlayState.isOutputting_iff] using hkeep
        refine ⟨trivial, by simp [hp, hidle], ?_⟩
        constructor <;> simp [hp, hidle, stopMoves]
      · refine ⟨trivial, by simp [hp], ?_⟩
        constructor <;> simp [hp]
  exact hrun

theorem moveSong_refused {src dst : Int} (w : World) (h : w.controller.queue.move src dst = none) :
    (moveSong src dst).run w = ((), w) := by
  have hrun : Holds (moveSong src dst) (fun r w' => (r, w') = ((), w)) w := by
    simp only [moveSong, holds_bind, holds_queue, h]
    rfl
  exact hrun

/-- Moving a song leaves the queue's own edit and announces it once; the player keeps playing
what it plays. -/
theorem moveSong_edits {src dst : Int} {q' : PlayQueue} (w : World)
    (h : w.controller.queue.move src dst = some q') :
    ((moveSong src dst).run w).2.controller.queue = q' ∧
      ((moveSong src dst).run w).2.controller.state = w.controller.state ∧
      Announced [] [.move src dst] w ((moveSong src dst).run w).2 := by
  have hrun : Holds (moveSong src dst) (fun _ w' => w'.controller.queue = q' ∧
      w'.controller.state = w.controller.state ∧ Announced [] [.move src dst] w w') w := by
    simp only [moveSong, holds_bind, holds_queue, h, holds_setQueue, holds_emitChange]
    split
    · refine (prefetch_frame _).mono ?_
      rintro _ w' ⟨hhub, hc⟩
      exact ⟨by rw [hc], by rw [hc], by simp [Announced, hhub]⟩
    · simp only [holds_pure]
      exact ⟨trivial, trivial, by simp [Announced]⟩
  exact hrun

/-- Clearing stops and empties the queue, announcing the stop of a player in output and the
clear. -/
theorem clear_empties (w : World) :
    (clear.run w).2.controller.queue = PlayQueue.empty ∧
      (clear.run w).2.controller.state = .stopped ∧
      Announced (stopMoves w.controller.state) [.clear] w (clear.run w).2 := by
  have hrun : Holds clear (fun _ w' => w'.controller.queue = PlayQueue.empty ∧
      w'.controller.state = .stopped ∧ Announced (stopMoves w.controller.state) [.clear] w w') w := by
    simp only [clear, holds_bind]
    refine (stop_announces w).mono ?_
    rintro _ w₁ ⟨han₁, hs₁, _⟩
    simp only [holds_queue, holds_setQueue, holds_emitChange]
    refine ⟨rfl, hs₁, ?_⟩
    constructor <;> simp [han₁.1, han₁.2]
  exact hrun

/-! ## The queue commands -/

end PlaybackEngine.Player
