import Mathlib
import PlaybackEngine.Proofs.Loading
import PlaybackEngine.Script.Host

set_option autoImplicit false

/-!
# Jumping through the queue

A jump to a song of the queue selects it, announces the jump and loads from there: the search
of `FirstOpened` runs from the world the jump selected, and the jump ends where the search ends.
When no song opened, exactly one stop is announced after the jump, by the search for a player
that was not stopped and by the jump itself for one that was. A jump outside the queue does
nothing at all.

Moving to the next song is a jump to it while one is left, and otherwise a stop with nothing
selected. Moving back restarts the song in output while it has played for less than the
restart threshold, an elapsed time below zero counting as zero, and otherwise jumps to the song
before, from the first song to the last.
-/

namespace PlaybackEngine.Player

open PlaybackEngine.World

theorem World.hub_of_outsideDownloads {w w' : World}
    (h : w'.outsideDownloads = w.outsideDownloads) : w'.hub = w.hub ∧ w'.controller = w.controller := by
  simp only [World.outsideDownloads, Prod.mk.injEq] at h
  exact ⟨h.1, h.2.1⟩

/-- Prefetching leaves the player's state and the hub. -/
theorem prefetch_frame (w : World) :
    Holds prefetch (fun _ w' => w'.hub = w.hub ∧ w'.controller = w.controller) w :=
  prefetch_outside.holds fun _ _ h => World.hub_of_outsideDownloads h

/-! ## A jump -/

/-- A jump outside the queue leaves the world as it was. -/
theorem jump_outside {p : Int} (w : World) (hp : p < -1 ∨ w.controller.queue.length ≤ p) :
    (jump p).run w = ((), w) := by
  have h : Holds (jump p) (fun _ w' => w' = w) w := by
    simp only [jump, holds_inSpan, holds_bind, holds_queue]
    rw [if_pos (by simp only [Bool.or_eq_true, decide_eq_true_eq]; omega)]
    simp only [holds_pure, List.drop_succ_cons, List.drop_zero]
  exact Prod.ext rfl h

/-- Where a jump to the song `t` at `i` stands before it loads: in the jump's span, with `i`
selected and the jump announced. -/
def jumpSelected (i : Int) (t : TrackId) (w : World) : World :=
  { w with spans := "jump" :: w.spans,
           controller := { w.controller with
             queue := { w.controller.queue with position := i }, dirty := true },
           hub := (w.hub.emitMove (.jump i t)).2 }

/-- A jump to a song of the queue announces the jump and runs the search from the song, paused
if the player was paused; it ends where the search ends, with a stop announced when no song
opened. -/
theorem jump_searches (w : World) {i : Int} {t : TrackId}
    (ht : w.controller.queue.songAt i = some t) :
    Holds (jump i) (fun _ w' => ∃ o w₁,
      FirstOpened (decide (w.controller.state = .paused)) (teardown.run (jumpSelected i t w)).2 o w₁ ∧
      w'.controller = w₁.controller ∧
      Announced (.jump i t :: if o.isSome then [] else [.stop]) [] w w') w := by
  obtain ⟨h0, hlt⟩ := PlayQueue.inBounds_iff.mp (PlayQueue.inBounds_of_songAt ht)
  have hsel : (w.controller.queue.setPosition i).getD w.controller.queue =
      { w.controller.queue with position := i } := by
    simp [PlayQueue.setPosition, PlayQueue.inBounds_of_songAt ht]
  have hcur : ({ w.controller.queue with position := i } : PlayQueue).current = some t := ht
  have hguard : (decide (i < -1) || decide (i ≥ (w.controller.queue.length : Int))) = false := by
    have hlen : (w.controller.queue.length : Int) = w.controller.queue.tracks.length := rfl
    simp only [Bool.or_eq_false_iff, decide_eq_false_iff_not]
    omega
  simp -zeta only [jump, holds_inSpan, holds_bind, holds_queue, hguard, Bool.false_eq_true,
    ↓reduceIte]
  rw [if_neg (show ¬i = -1 by omega)]
  simp only [holds_bind, holds_selectPosition, holds_queue, holds_controller, hsel, hcur,
    holds_emitMove]
  refine (startPlayback_firstOpened _ _).mono ?_
  rintro loaded w₃ ⟨o, ho, hl⟩
  replace ho : FirstOpened _ (teardown.run (jumpSelected i t w)).2 o w₃ := ho
  -- the search starts in the state the jump found, once the jump was announced
  obtain ⟨hhub₀, hc₀⟩ := teardown_frame (jumpSelected i t w)
  have hstate₀ : (teardown.run (jumpSelected i t w)).2.controller.state = w.controller.state := by
    rw [hc₀]
    rfl
  have han₀ : Announced [.jump i t] [] w (teardown.run (jumpSelected i t w)).2 := by
    constructor <;> rw [hhub₀] <;> simp [jumpSelected]
  have han := ho.announced
  rw [hstate₀] at han
  split
  · -- a stopped player that loaded nothing announces the stop itself
    rename_i hstop
    simp only [Bool.and_eq_true, Bool.not_eq_eq_eq_not, Bool.not_true, decide_eq_true_eq] at hstop
    have hnone : o = none := Option.not_isSome_iff_eq_none.mp (by rw [← hl, hstop.1]; decide)
    subst hnone
    simp only [holds_bind, holds_emitMove]
    refine (prefetch_frame _).mono ?_
    rintro _ w₅ ⟨hhub₅, hc₅⟩
    refine ⟨none, w₃, ho, hc₅, ?_, ?_⟩
    · simp [hhub₅, han.1, han₀.1, stopMoves, hstop.2]
    · simp [hhub₅, han.2, han₀.2]
  · rename_i hgo
    refine (prefetch_frame _).mono ?_
    rintro _ w₅ ⟨hhub₅, hc₅⟩
    refine ⟨o, w₃, ho, hc₅, ?_, ?_⟩
    · cases o with
      | some p => simp [hhub₅, han.1, han₀.1]
      | none =>
        have hwas : w.controller.state ≠ .stopped := by
          intro hs
          rw [hl, hs] at hgo
          simp at hgo
        simp [hhub₅, han.1, han₀.1, stopMoves, hwas]
    · simp [hhub₅, han.2, han₀.2]

/-- Where a jump to a song of the queue ends: in the state asked for with the song that opened
selected, the first at or after the one jumped to; or stopped with nothing selected when none
opened. The jump and, when nothing opened, one stop are all it announces. -/
theorem jump_song (w : World) {i : Int} {t : TrackId} (ht : w.controller.queue.songAt i = some t) :
    ∃ o w₁, FirstOpened (decide (w.controller.state = .paused)) (teardown.run (jumpSelected i t w)).2 o w₁ ∧
      ((jump i).run w).2.controller = w₁.controller ∧
      Announced (.jump i t :: if o.isSome then [] else [.stop]) [] w ((jump i).run w).2 ∧
      (∀ p, o = some p →
        ((jump i).run w).2.controller.state =
          (if w.controller.state = .paused then .paused else .preparing) ∧
        ((jump i).run w).2.controller.queue.position = p ∧ i ≤ p ∧ p < w.controller.queue.length) ∧
      (o = none → ((jump i).run w).2.controller.state = .stopped ∧
        ((jump i).run w).2.controller.queue.position = -1) := by
  obtain ⟨o, w₁, ho, hc, han⟩ := jump_searches w ht
  -- the search starts from `i`, selected, in the state the jump found
  obtain ⟨-, hc₀⟩ := teardown_frame (jumpSelected i t w)
  have hq₀ : (teardown.run (jumpSelected i t w)).2.controller.queue =
      { w.controller.queue with position := i } := by
    rw [hc₀]
    rfl
  refine ⟨o, w₁, ho, hc, han, fun p hp => ?_, fun hnone => ?_⟩
  · obtain ⟨hstate, hpos, hle, hlt⟩ := ho.of_some p hp
    rw [hq₀] at hle hlt
    refine ⟨by rw [hc, hstate]; simp, by rw [hc, hpos], hle, hlt⟩
  · have hsel : ((teardown.run (jumpSelected i t w)).2.controller.queue.current).isSome := by
      rw [hq₀]
      exact Option.isSome_iff_exists.mpr ⟨t, ht⟩
    obtain ⟨hstate, hpos⟩ := ho.of_none hnone
    exact ⟨by rw [hc, hstate], by rw [hc, hpos hsel]⟩

/-! ## The next song and the one before -/

/-- Moving to the next song is a jump to it while one is left. -/
theorem next_jumps (w : World) (hsel : w.controller.queue.Selects)
    (hnext : w.controller.queue.position + 1 < w.controller.queue.length) :
    next.run w = (jump (w.controller.queue.position + 1)).run w := by
  have hfrom : -1 ≤ w.controller.queue.position := by
    rcases hsel with h | h
    · omega
    · exact Int.le_trans (by decide) (PlayQueue.inBounds_iff.mp h).1
  have hb : w.controller.queue.inBounds (w.controller.queue.position + 1) := by
    rw [PlayQueue.inBounds_iff]
    simp only [PlayQueue.length] at hnext
    omega
  have hpeek : w.controller.queue.peekNext = w.controller.queue.position + 1 := by
    simp [PlayQueue.peekNext, hb]
  have hrun : next.run w = (if w.controller.queue.peekNext ≥ 0 then jump w.controller.queue.peekNext
      else do stop; selectPosition (-1)).run w := rfl
  rw [hrun, hpeek, if_pos (show w.controller.queue.position + 1 ≥ 0 by omega)]

/-- At the last song, moving to the next one stops with nothing selected. -/
theorem next_stops (w : World)
    (hend : w.controller.queue.length ≤ w.controller.queue.position + 1) :
    (next.run w).2.controller.state = .stopped ∧ (next.run w).2.controller.queue.position = -1 ∧
      Announced (stopMoves w.controller.state) [] w (next.run w).2 := by
  have hpeek : w.controller.queue.peekNext = -1 := by
    have hout : w.controller.queue.inBounds (w.controller.queue.position + 1) = false := by
      simp only [PlayQueue.inBounds, Bool.and_eq_false_iff, decide_eq_false_iff_not]
      omega
    simp [PlayQueue.peekNext, hout]
  have h : Holds next (fun _ w' => w'.controller.state = .stopped ∧
      w'.controller.queue.position = -1 ∧ Announced (stopMoves w.controller.state) [] w w') w := by
    simp only [next, holds_bind, holds_queue, hpeek]
    rw [if_neg (by decide)]
    simp only [holds_bind]
    refine (stop_announces w).mono ?_
    rintro _ w₁ ⟨han, hs, _⟩
    simp only [holds_selectPosition]
    exact ⟨hs, by simp [PlayQueue.setPosition], han⟩
  exact h

/-- What moving back does to a player that is not in its first moments: it jumps to the song
before, or to the last one from the first. -/
def previousTarget (q : PlayQueue) : Int :=
  if q.position ≤ 0 then (q.length : Int) - 1 else q.position - 1

/-- Moving back restarts the song in output while it has played for less than the restart
threshold, an elapsed time below zero counting as zero: it seeks to the start when the song is
prepared, and otherwise does nothing. -/
theorem previous_restarts (w : World) (hne : w.controller.queue.tracks ≠ [])
    (hplay : w.controller.state.isPlaying = true)
    (hearly : max (tell.run w).1 0 < w.controller.settings.restartThresholdMs) :
    previous.run w = (if w.controller.prepared then seek 0 else pure ()).run w := by
  have htell : tell.run w = ((tell.run w).1, w) := Prod.ext rfl (tell_keeps w)
  have h : Holds previous (fun r w' =>
      (r, w') = (if w.controller.prepared then seek 0 else pure ()).run w) w := by
    simp only [previous, holds_bind, holds_queue, holds_controller, List.isEmpty_iff, hne,
      ↓reduceIte, hplay]
    rw [holds_of_run_eq htell, if_pos hearly]
    split <;> rfl
  exact h

/-- Otherwise, moving back through a queue of songs jumps to the song before, from the first
song to the last. -/
theorem previous_jumps (w : World) (hne : w.controller.queue.tracks ≠ [])
    (hlate : ¬(w.controller.state.isPlaying = true ∧
      max (tell.run w).1 0 < w.controller.settings.restartThresholdMs)) :
    previous.run w = (jump (previousTarget w.controller.queue)).run w := by
  have htell : tell.run w = ((tell.run w).1, w) := Prod.ext rfl (tell_keeps w)
  have h : Holds previous (fun r w' =>
      (r, w') = (jump (previousTarget w.controller.queue)).run w) w := by
    simp only [previous, holds_bind, holds_queue, holds_controller, List.isEmpty_iff, hne,
      ↓reduceIte]
    by_cases hplay : w.controller.state.isPlaying = true
    · have hlong : ¬max (tell.run w).1 0 < w.controller.settings.restartThresholdMs :=
        fun h => hlate ⟨hplay, h⟩
      simp only [hplay, ↓reduceIte, holds_bind]
      rw [holds_of_run_eq htell, if_neg hlong]
      rfl
    · simp only [hplay, Bool.false_eq_true, ↓reduceIte]
      rfl
  exact h

/-- A restart leaves the player's state and selection as they were. -/
theorem previous_restart_controller (w : World) (hne : w.controller.queue.tracks ≠ [])
    (hplay : w.controller.state.isPlaying = true)
    (hearly : max (tell.run w).1 0 < w.controller.settings.restartThresholdMs) :
    (previous.run w).2.controller = w.controller := by
  rw [previous_restarts w hne hplay hearly]
  split
  · exact congrArg (·.1.1) (seek_keeps 0 w)
  · rfl

/-! ## Moving through the queue -/

/-- Two committed songs of 4096 bytes. -/
def committedSong (id : TrackId) (content path : String) : TrackInfo :=
  { id, sourceId := 1, contentId := content, mime := "audio/mpeg", url := Script.defaultUrl id,
    size := 4096, cachedPath := some path, cachedAt := some 5 }

/-- A host holding both songs' files. -/
def twoSongHost : World :=
  { volume := (({ capacity := 1024 * 1024 * 1024 } : Volume).putFile "/cache/1/c1.mp3" (.sized 4096)).putFile
      "/cache/1/c2.mp3" (.sized 4096),
    catalog := [(1, committedSong 1 "c1" "/cache/1/c1.mp3"), (2, committedSong 2 "c2" "/cache/1/c2.mp3")] }

/-- A player that restarts nothing: its restart threshold is zero. -/
def eagerSetup : Setup :=
  ⟨{ restartThresholdMs := 0, prefetch := false }, {}, { baseDir := "/cache", leaveFreeBytes := 0 },
    "/state/player.state"⟩

/-- The player on that host with both songs appended and the second one jumped to. -/
def jumpedSecond : World :=
  let w₁ := ((spawn eagerSetup).run twoSongHost).2
  let w₂ := ((command (.append 1)).run w₁).2
  let w₃ := ((command (.append 2)).run w₂).2
  ((command (.jump 1)).run w₃).2

/-- The host then reports a decoder position of 2^63 ms, which reads as a negative time, and
the decoder's prepared callback for the second song. -/
def wrappedClockQueued : World :=
  { jumpedSecond with
    decoder := { jumpedSecond.decoder with positionMs := 2 ^ 63 },
    decoderEvents := jumpedSecond.decoderEvents ++
      (jumpedSecond.decoder.session.map fun s => (⟨s, .prepared⟩ : DecoderEvent)).toList }

/-- The player playing the second song once the callback is handled. -/
def wrappedClock : World := (settleOnce.run wrappedClockQueued).2

/-- The scenario run once: the player takes each command, and once the clock has wrapped it plays
the second song with a time below the threshold, where moving back jumps. -/
theorem jumpScenario_run :
    ((spawn eagerSetup).run twoSongHost).2.controller.recovered = none ∧
      ((command (.append 1)).run ((spawn eagerSetup).run twoSongHost).2).2.controller.recovered =
        none ∧
      ((command (.append 2)).run ((command (.append 1)).run
        ((spawn eagerSetup).run twoSongHost).2).2).2.controller.recovered = none ∧
      wrappedClock.controller.state = .playing ∧ wrappedClock.controller.queue.tracks ≠ [] ∧
      (tell.run wrappedClock).1 < wrappedClock.controller.settings.restartThresholdMs ∧
      (previous.run wrappedClock).2.controller.queue.position ≠
        wrappedClock.controller.queue.position := by
  -- one evaluation, so that the kernel shares the worlds the facts have in common
  decide +kernel

theorem jumpedSecond_run : PlayerRun jumpedSecond := by
  obtain ⟨hlive₀, hlive₁, hlive₂, -⟩ := jumpScenario_run
  exact .step (.step (.step (.start twoSongHost eagerSetup rfl) (.command _ hlive₀))
    (.command _ hlive₁)) (.command _ hlive₂)

theorem wrappedClock_run : PlayerRun wrappedClock :=
  .step (.step jumpedSecond_run (@PlayerStep.host _ wrappedClockQueued rfl rfl)) .work

end PlaybackEngine.Player
