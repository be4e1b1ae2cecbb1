import PlaybackEngine.Proofs.CallResume
import PlaybackEngine.Proofs.QueueCommands

set_option autoImplicit false

/-!
# The move channel mirrors the play state

Every step a started player handles sends on the move channel one of a few words, and which
word it sends is fixed by the play state before and after the step (`MoveWord`): nothing, while
the state stays, a prepared song starts or a saved pause is taken up; a stop, into stopped; a
pause, from playing or preparing, carrying `0` from preparing; an unpause, from paused into
playing or preparing; a play, from stopped; a seek, in place; a jump, into the state the jump
loads in; and a jump then a stop, into stopped.

Each handler is shown to send such a word (`MovedBy`), by a walk over its pieces: the pieces that
neither send a move nor change the state keep the `stage`, and the few that do are read off the
lemmas of the loading loop. Only an unpause command, a play command or the end of a call sends an
unpause, and only a play command, an insert or the pending work (which takes up a saved playing
session) sends a play. The claim's reading, move kind by move kind, is `MoveWord.mirrored`, and
`handled_step_mirrors_play_state` puts the two together for every handled step of every run.
-/

namespace PlaybackEngine

/-- The moves sent and the play state: what the move channel mirrors. -/
def World.stage (w : World) : Channel MoveEvent × PlayState := (w.hub.moves, w.controller.state)

theorem Keeps.stage_of_outsideDownloads {α : Type} {a : Act α}
    (h : Keeps World.outsideDownloads a) : Keeps World.stage a :=
  fun w => congrArg (fun x => (x.1.moves, x.2.1.state)) (h w)

theorem Keeps.stage_of_outsideCache {α : Type} {a : Act α} (h : Keeps World.outsideCache a) :
    Keeps World.stage a :=
  fun w => congrArg (fun x => (x.1.1.moves, x.1.2.1.state)) (h w)

namespace Player

open PlaybackEngine.World

/-! ## The words a step may send -/

/-- What a handled step may send on the move channel, by the play state before and after it.
`resume` allows an unpause and `start` a play. -/
inductive MoveWord (resume start : Bool) : PlayState → List MoveEvent → PlayState → Prop
  /-- Nothing sent, nothing changed. -/
  | still {s : PlayState} : MoveWord resume start s [] s
  /-- A prepared song starts playing, unannounced. -/
  | started : MoveWord resume start .preparing [] .playing
  /-- A saved pause is taken up, unannounced. -/
  | recovered : MoveWord resume start .stopped [] .paused
  | stop {s : PlayState} (h : s ≠ .stopped) : MoveWord resume start s [.stop] .stopped
  | pause {s : PlayState} {p : Int} (h : s.isPlaying = true) (h0 : s = .preparing → p = 0) :
      MoveWord resume start s [.pause p] .paused
  | unpause {s' : PlayState} (hr : resume = true) (h : s'.isPlaying = true) :
      MoveWord resume start .paused [.unpause] s'
  | play {s' : PlayState} {i : Int} {t : TrackId} (hs : start = true) (h : s'.isPlaying = true) :
      MoveWord resume start .stopped [.play i t] s'
  | seek {s : PlayState} {ms : Nat} : MoveWord resume start s [.seek ms] s
  /-- A jump that loaded its song, paused if the player was paused. -/
  | jump {s : PlayState} {i : Int} {t : TrackId} (hi : 0 ≤ i) :
      MoveWord resume start s [.jump i t] (if s = .paused then .paused else .preparing)
  /-- A jump that loaded nothing. -/
  | jumpStop {s : PlayState} {i : Int} {t : TrackId} (hi : 0 ≤ i) :
      MoveWord resume start s [.jump i t, .stop] .stopped

theorem MoveWord.mono {r r' p p' : Bool} {s s' : PlayState} {ms : List MoveEvent}
    (hr : r = true → r' = true) (hp : p = true → p' = true) (h : MoveWord r p s ms s') :
    MoveWord r' p' s ms s' := by
  cases h with
  | still => exact .still
  | started => exact .started
  | recovered => exact .recovered
  | stop h => exact .stop h
  | pause h h0 => exact .pause h h0
  | unpause hr' h => exact .unpause (hr hr') h
  | play hs h => exact .play (hp hs) h
  | seek => exact .seek
  | jump hi => exact .jump hi
  | jumpStop hi => exact .jumpStop hi

/-- A stop sends a stop exactly when the player was not stopped. -/
theorem MoveWord.of_stop {r p : Bool} (s : PlayState) : MoveWord r p s (stopMoves s) .stopped := by
  by_cases hs : s = .stopped
  · subst hs
    exact .still
  · simp only [stopMoves, hs, ↓reduceIte]
    exact .stop hs

/-- The moves sent from `w` to `w'` form one word. -/
def MovedBy (resume start : Bool) (w w' : World) : Prop :=
  ∃ ms, w'.hub.moves = w.hub.moves.broadcastAll ms ∧
    MoveWord resume start w.controller.state ms w'.controller.state

section Moved

variable {r p : Bool} {w w₁ w' : World}

theorem MovedBy.of_stage (h : w'.stage = w.stage) : MovedBy r p w w' := by
  simp only [World.stage, Prod.mk.injEq] at h
  exact ⟨[], by simp [h.1], h.2 ▸ .still⟩

theorem MovedBy.stage_left (h₁ : w₁.stage = w.stage) (h : MovedBy r p w₁ w') : MovedBy r p w w' := by
  simp only [World.stage, Prod.mk.injEq] at h₁
  obtain ⟨ms, hms, hw⟩ := h
  exact ⟨ms, by rw [hms, h₁.1], h₁.2 ▸ hw⟩

theorem MovedBy.stage_right (h : MovedBy r p w w₁) (h₂ : w'.stage = w₁.stage) : MovedBy r p w w' := by
  simp only [World.stage, Prod.mk.injEq] at h₂
  obtain ⟨ms, hms, hw⟩ := h
  exact ⟨ms, by rw [h₂.1, hms], h₂.2 ▸ hw⟩

theorem MovedBy.mono {r' p' : Bool} (hr : r = true → r' = true) (hp : p = true → p' = true)
    (h : MovedBy r p w w') : MovedBy r' p' w w' :=
  let ⟨ms, hms, hw⟩ := h
  ⟨ms, hms, hw.mono hr hp⟩

theorem MovedBy.of_announced {ms : List MoveEvent} {cs : List ChangeEvent}
    (h : Announced ms cs w w') (hw : MoveWord r p w.controller.state ms w'.controller.state) :
    MovedBy r p w w' :=
  ⟨ms, h.1, hw⟩

end Moved

/-! ## Pieces that send no move and keep the state -/

section Stage

theorem keeps_stage_modifyController {f : Controller → Controller}
    (hf : ∀ c, (f c).state = c.state) : Keeps World.stage (modifyController f) :=
  fun w => congrArg (Prod.mk w.hub.moves) (hf w.controller)

theorem keeps_stage_log (l : LogLevel) (target message : String)
    (fields : List (String × String)) : Keeps World.stage (log l target message fields) :=
  keeps_log (fun _ _ => rfl) l target message fields

theorem keeps_stage_selectPosition (i : Int) : Keeps World.stage (selectPosition i) :=
  fun _ => rfl

theorem keeps_stage_emitBuffer (track : TrackId) (percent : Nat) :
    Keeps World.stage (emitBuffer track percent) :=
  keeps_modify fun w => Prod.ext (Hub.emitBuffer_moves w.hub track percent) rfl

theorem keeps_stage_prefetch : Keeps World.stage prefetch := fun w =>
  (prefetch_frame w).elim fun hhub hc => by simp only [World.stage, hhub, hc]

theorem keeps_stage_tell : Keeps World.stage tell := tell_keeps.of_id _

theorem keeps_stage_save : Keeps World.stage save := by
  unfold save
  refine Keeps.bind (fun _ => rfl) fun c => ?_
  extract_lets write
  have hwrite : ∀ offset, Keeps World.stage (write offset) := by
    intro offset
    dsimp only [write]
    refine Keeps.bind (Persistence.save_outside _ _).stage_of_outsideCache fun r => ?_
    split
    · exact keeps_stage_modifyController fun _ => rfl
    · exact keeps_stage_log _ _ _ _
  clear_value write
  split
  · exact Keeps.bind keeps_stage_tell hwrite
  · exact Keeps.bind (keeps_pure _ _) hwrite

theorem keeps_stage_saveIfDirty : Keeps World.stage saveIfDirty := by
  unfold saveIfDirty
  refine Keeps.bind (fun _ => rfl) fun c => ?_
  split
  · exact keeps_stage_save
  · exact keeps_pure _ _

theorem keeps_stage_moveSong (src dst : Int) : Keeps World.stage (moveSong src dst) := by
  intro w
  cases h : w.controller.queue.move src dst with
  | none => rw [moveSong_refused w h]
  | some q' =>
    obtain ⟨-, hs, han⟩ := moveSong_edits w h
    simp only [World.stage, han.1, hs, Channel.broadcastAll_nil]

end Stage

/-! ## The pieces that send moves -/

section Handlers

variable {r p : Bool}

theorem stop_moved (w : World) : Holds stop (fun _ w' => MovedBy r p w w') w := by
  refine (stop_announces w).mono ?_
  rintro _ _ ⟨han, hs, -⟩
  exact .of_announced han (hs ▸ .of_stop _)

theorem pause_moved (w : World) : Holds pause (fun _ w' => MovedBy r p w w') w := by
  refine (pause_announces w).mono fun _ w' h => ?_
  split at h
  · rename_i hplay
    obtain ⟨hs, -, ms, han, h0⟩ := h
    exact .of_announced han (hs ▸ .pause hplay h0)
  · subst h
    exact .of_stage rfl

theorem seek_moved (ms : Nat) (w : World) : Holds (seek ms) (fun _ w' => MovedBy r p w w') w := by
  simp only [seek, holds_bind, holds_controller]
  split
  · exact .of_stage rfl
  · rw [holds_bind, holds_decoderCall]
    split
    · rw [holds_emitMove]
      exact ⟨[.seek ms], by simp, .seek⟩
    · exact .of_stage rfl

/-- A search that opened a song opened it at a position of the queue. -/
theorem FirstOpened.nonneg {paused : Bool} {w w' : World} {o : Option Int}
    (h : FirstOpened paused w o w') : ∀ i, o = some i → 0 ≤ i := by
  induction h with
  | opened hcur _ =>
    rintro i ⟨⟩
    exact (PlayQueue.inBounds_iff.mp (PlayQueue.inBounds_of_current hcur)).1
  | skipped _ _ _ _ ih => exact ih
  | exhausted => rintro i ⟨⟩
  | unselected => rintro i ⟨⟩

/-- Loading sends nothing when a song opens, in the state asked for and with a song selected;
when none opens it stops, sending what a stop sends. -/
theorem startPlayback_moved (paused : Bool) (w : World) :
    Holds (startPlayback paused) (fun loaded w' =>
      (loaded = true ∧ w'.hub.moves = w.hub.moves ∧
        w'.controller.state = (if paused then .paused else .preparing) ∧
        w'.controller.queue.current.isSome) ∨
      (loaded = false ∧ w'.hub.moves = w.hub.moves.broadcastAll (stopMoves w.controller.state) ∧
        w'.controller.state = .stopped)) w := by
  refine (startPlayback_firstOpened paused w).mono ?_
  rintro loaded w' ⟨o, ho, hr⟩
  obtain ⟨hhub, hc⟩ := teardown_frame w
  have han := ho.announced
  cases o with
  | some i =>
    obtain ⟨hs, hpos, -, hlt⟩ := ho.of_some i rfl
    refine Or.inl ⟨hr, by simp [han.1, hhub], hs, ?_⟩
    -- the song found stands at `i`, inside the same songs
    have hb : w'.controller.queue.inBounds w'.controller.queue.position = true := by
      rw [PlayQueue.inBounds_iff, hpos, ho.tracks]
      exact ⟨ho.nonneg i rfl, hlt⟩
    obtain ⟨t, ht⟩ := PlayQueue.current_of_inBounds hb
    simp [ht]
  | none =>
    obtain ⟨hs, -⟩ := ho.of_none rfl
    refine Or.inr ⟨hr, ?_, hs⟩
    rw [han.1, hhub, hc]
    rfl

theorem holds_iff_of_run_eq {α : Type} {a b : Act α} {w w' : World} (h : a.run w = b.run w')
    {Q : α → World → Prop} : Holds a Q w ↔ Holds b Q w' := by
  unfold Holds
  rw [h]

theorem MovedBy.then_keeps {α : Type} {w w₁ : World} {a : Act α} (h : MovedBy r p w w₁)
    (ha : Keeps World.stage a) : Holds a (fun _ w' => MovedBy r p w w') w₁ :=
  ha.holds fun _ _ h' => h.stage_right h'

/-- Unselecting stops a player that outputs, and sends what that stop sends. -/
theorem jump_unselect_moved (w : World) : Holds (jump (-1)) (fun _ w' => MovedBy r p w w') w := by
  have hguard : (decide ((-1 : Int) < -1) || decide ((-1 : Int) ≥ (w.controller.queue.length : Int))) =
      false := by
    simp only [Bool.or_eq_false_iff, decide_eq_false_iff_not]
    omega
  simp only [jump, holds_inSpan, holds_bind, holds_queue, hguard, Bool.false_eq_true, ↓reduceIte,
    holds_controller]
  split
  · -- the span pushed and popped around the stop leaves the stage alone
    simp only [holds_bind, holds_pure]
    refine (@stop_moved r p _).mono fun _ w₁ h₁ =>
      (keeps_stage_selectPosition _).holds fun _ w₂ h₂ => ?_
    exact ((h₁.stage_right h₂).stage_left rfl).stage_right rfl
  · exact .of_stage rfl

/-- A jump sends nothing outside the queue, a stop (if outputting) when it unselects, and its
jump, then a stop if nothing loaded, inside the queue. -/
theorem jump_moved (i : Int) (w : World) : Holds (jump i) (fun _ w' => MovedBy r p w w') w := by
  by_cases hout : i < -1 ∨ w.controller.queue.length ≤ i
  · rw [holds_of_run_eq (jump_outside w hout)]
    exact .of_stage rfl
  by_cases hneg : i = -1
  · subst hneg
    exact jump_unselect_moved w
  have hi : 0 ≤ i := by omega
  have hb : w.controller.queue.inBounds i := by
    have hlen : (w.controller.queue.length : Int) = w.controller.queue.tracks.length := rfl
    exact PlayQueue.inBounds_iff.mpr ⟨hi, by omega⟩
  obtain ⟨t, ht⟩ := Option.isSome_iff_exists.mp ((PlayQueue.songAt_isSome i).mpr hb)
  obtain ⟨o, w₁, -, -, han, hsome, hnone⟩ := jump_song w ht
  show MovedBy r p w ((jump i).run w).2
  cases o with
  | some j =>
    have han' : Announced [.jump i t] [] w ((jump i).run w).2 := by simpa using han
    refine .of_announced han' ?_
    rw [(hsome j rfl).1]
    exact .jump hi
  | none =>
    have han' : Announced [.jump i t, .stop] [] w ((jump i).run w).2 := by simpa using han
    refine .of_announced han' ?_
    rw [(hnone rfl).1]
    exact .jumpStop hi

theorem next_moved (w : World) : Holds next (fun _ w' => MovedBy r p w w') w := by
  simp only [next, holds_bind, holds_queue]
  split
  · exact jump_moved _ w
  · exact (stop_moved w).mono fun _ w₁ h₁ => h₁.then_keeps (keeps_stage_selectPosition _)

theorem skipCurrent_moved (w : World) : Holds skipCurrent (fun _ w' => MovedBy r p w w') w := by
  simp only [skipCurrent, holds_bind, holds_controller]
  split
  · simp only [holds_bind, holds_modifyController, holds_decoderCall]
    split
    · exact (next_moved _).mono fun _ _ h => h.stage_left rfl
    · simp only [holds_bind, holds_log]
      exact (next_moved _).mono fun _ _ h => h.stage_left rfl
  · exact next_moved w

theorem previous_moved (w : World) : Holds previous (fun _ w' => MovedBy r p w w') w := by
  by_cases hne : w.controller.queue.tracks = []
  · simp only [previous, holds_bind, holds_queue, List.isEmpty_iff, hne, ↓reduceIte]
    exact (stop_moved w).mono fun _ w₁ h₁ => h₁.then_keeps (keeps_stage_selectPosition _)
  by_cases hearly : w.controller.state.isPlaying = true ∧
      max (tell.run w).1 0 < w.controller.settings.restartThresholdMs
  · rw [holds_iff_of_run_eq (previous_restarts w hne hearly.1 hearly.2)]
    split
    · exact seek_moved 0 w
    · exact .of_stage rfl
  · rw [holds_iff_of_run_eq (previous_jumps w hne hearly)]
    exact jump_moved _ w

/-- An unpause sends its unpause when it resumes; a decoder that refuses to start skips the
song, and a recovered pause whose song cannot load stops. -/
theorem unpause_moved (w : World) : Holds unpause (fun _ w' => MovedBy true p w w') w := by
  simp only [unpause, holds_bind, holds_controller]
  split
  · exact .of_stage rfl
  rename_i hpaused
  have hs : w.controller.state = .paused := by simpa using hpaused
  -- the resumption itself: the offset is dropped and the unpause sent
  have resumed : ∀ w₁ : World, w₁.hub.moves = w.hub.moves → w₁.controller.state.isPlaying = true →
      Holds (do modifyController fun c => { c with pausedOffsetMs := none }; emitMove .unpause)
        (fun _ w' => MovedBy true p w w') w₁ := by
    intro w₁ hhub hplay
    simp only [holds_bind, holds_modifyController, holds_emitMove]
    refine ⟨[.unpause], by simp [hhub], ?_⟩
    rw [hs]
    exact .unpause rfl hplay
  split
  · rw [holds_bind, holds_decoderCall]
    split
    · simp only [holds_bind, holds_log]
      exact (skipCurrent_moved _).mono fun _ _ h => h.stage_left rfl
    · rw [holds_bind, holds_setState, if_pos (by simp [hs])]
      exact resumed _ rfl rfl
  · rw [holds_bind, holds_setState, if_pos (by simp [hs])]
    exact resumed _ rfl rfl
  · rw [holds_bind]
    refine (startPlayback_moved false w).mono fun loaded w₁ h₁ => ?_
    rcases h₁ with ⟨rfl, hhub, hs₁, -⟩ | ⟨rfl, hhub, hs₁⟩
    · simp only [Bool.not_true, Bool.false_eq_true, ↓reduceIte]
      exact resumed w₁ hhub (by simp [hs₁, PlayState.isPlaying])
    · simp only [Bool.not_false, ↓reduceIte, holds_pure]
      refine ⟨_, hhub, ?_⟩
      rw [hs₁]
      exact .of_stop _

/-- Loading from stopped and announcing the song sends the play. -/
theorem startPlayback_emitPlay_moved (w : World) (hs : w.controller.state = .stopped) :
    Holds (do if ← startPlayback false then emitPlay) (fun _ w' => MovedBy r true w w') w := by
  rw [holds_bind]
  refine (startPlayback_moved false w).mono fun loaded w₁ h₁ => ?_
  rcases h₁ with ⟨rfl, hhub, hs₁, hcur⟩ | ⟨rfl, hhub, hs₁⟩
  · simp only [↓reduceIte]
    refine (emitPlay_announces w₁).mono ?_
    rintro _ w' ⟨hc, han⟩
    obtain ⟨t, ht⟩ := Option.isSome_iff_exists.mp hcur
    refine ⟨[.play w₁.controller.queue.position t], ?_, ?_⟩
    · rw [han.1, hhub]
      simp [playMoves, ht]
    · rw [hs, hc, hs₁]
      exact .play rfl rfl
  · simp only [Bool.false_eq_true, ↓reduceIte, holds_pure]
    refine ⟨_, hhub, ?_⟩
    rw [hs₁]
    exact .of_stop _

/-- A play resumes a pause, and from stopped loads the selected song (the first if none is)
and sends its play. -/
theorem play_moved (w : World) :
    Holds play (fun _ w' => MovedBy (decide (w.controller.state = .paused)) true w w') w := by
  simp only [play, holds_bind, holds_controller]
  split
  · rename_i hs
    exact (unpause_moved w).mono fun _ _ h => h.mono (fun _ => by simp [hs]) id
  · exact .of_stage rfl
  · exact .of_stage rfl
  · rename_i hs
    have hloaded : ∀ w₁ : World, w₁.stage = w.stage →
        Holds (do if ← startPlayback false then emitPlay)
          (fun _ w' => MovedBy (decide (w.controller.state = .paused)) true w w') w₁ := by
      intro w₁ h₁
      have hs₁ : w₁.controller.state = .stopped := by
        rw [← hs]
        exact congrArg Prod.snd h₁
      exact (startPlayback_emitPlay_moved w₁ hs₁).mono fun _ _ h => h.stage_left h₁
    simp only [holds_bind, holds_queue]
    split
    · split
      · exact .of_stage rfl
      · simp only [holds_bind, holds_selectPosition]
        exact hloaded _ rfl
    · exact hloaded w rfl

/-- An insert plays when the player was stopped, and otherwise sends nothing. -/
theorem insert_moved (t : TrackId) (i : Int) (w : World) :
    Holds (insert t i) (fun _ w' => MovedBy false true w w') w := by
  cases h : w.controller.queue.insert t i with
  | none =>
    rw [holds_of_run_eq (insert_refused w h)]
    exact .of_stage rfl
  | some q' =>
    by_cases hs : w.controller.state = .stopped
    · rw [holds_iff_of_run_eq (insert_stopped_plays w h hs)]
      refine (play_moved _).mono fun _ _ h' => (h'.stage_left rfl).mono (fun h'' => ?_) id
      simp [insertSelected, hs] at h''
    · obtain ⟨-, hs', han⟩ := insert_outputting w h hs
      show MovedBy false true w ((insert t i).run w).2
      exact .of_announced han (hs' ▸ .still)

/-- A removal stops the player when it removes the song in output. -/
theorem remove_moved (i : Int) (w : World) : Holds (remove i) (fun _ w' => MovedBy r p w w') w := by
  cases h : w.controller.queue.remove i with
  | none =>
    have hsong : w.controller.queue.songAt i = none := by
      unfold PlayQueue.remove at h
      split at h
      · assumption
      · cases h
    rw [holds_of_run_eq (remove_refused w hsong)]
    exact .of_stage rfl
  | some removed =>
    obtain ⟨t, q'⟩ := removed
    obtain ⟨-, hs, han⟩ := remove_edits w h
    show MovedBy r p w ((remove i).run w).2
    refine .of_announced han ?_
    rw [hs]
    split
    · exact .of_stop _
    · exact .still

theorem clear_moved (w : World) : Holds clear (fun _ w' => MovedBy r p w w') w := by
  obtain ⟨-, hs, han⟩ := clear_empties w
  show MovedBy r p w (clear.run w).2
  exact .of_announced han (hs ▸ .of_stop _)

/-! ## Which steps resume and which play -/

/-- The steps that may send an unpause: an unpause or play command, and the end of a call. -/
def Occurrence.resumes : Occurrence → Bool
  | .command .unpause | .command .play | .signal (.call .idle) => true
  | _ => false

/-- The steps that may send a play: a play command, an insert, and pending work, which takes
up a saved session. -/
def Occurrence.starts : Occurrence → Bool
  | .command .play | .command (.insert _ _) | .command (.prepend _) | .command (.append _)
  | .command (.insertNext _) | .work => true
  | _ => false

theorem apply_moved (c : Command) (w : World) :
    Holds (apply c) (fun _ w' =>
      MovedBy (Occurrence.command c).resumes (Occurrence.command c).starts w w') w := by
  cases c with
  | play => exact (play_moved w).mono fun _ _ h => h.mono (fun _ => rfl) id
  | pause => exact pause_moved w
  | unpause => exact unpause_moved w
  | stop => exact stop_moved w
  | seek ms => exact seek_moved ms w
  | next => exact next_moved w
  | previous => exact previous_moved w
  | jump i => exact jump_moved i w
  | insert t i => exact insert_moved t i w
  | prepend t => exact insert_moved t 0 w
  | append t =>
    simp only [apply, holds_bind, holds_queue]
    exact insert_moved t _ w
  | insertNext t =>
    simp only [apply, holds_bind, holds_queue]
    exact insert_moved t _ w
  | remove i => exact remove_moved i w
  | move src dst => exact (keeps_stage_moveSong src dst).holds fun _ _ h => .of_stage h
  | clear => exact clear_moved w

/-- A call that interrupts playback pauses, and the end of a call that paused resumes. -/
theorem onCallState_moved (s : CallState) (w : World) :
    Holds (onCallState s) (fun _ w' => MovedBy (decide (s = .idle)) false w w') w := by
  simp only [onCallState, holds_bind, holds_controller]
  split
  · split
    · simp only [holds_bind, holds_log]
      exact (pause_moved _).mono fun _ _ h =>
        (h.stage_left rfl).then_keeps (keeps_stage_modifyController fun _ => rfl)
    · exact .of_stage rfl
  · split
    · rename_i hend
      have hs : s = .idle := by
        simp only [Bool.and_eq_true, decide_eq_true_eq] at hend
        exact hend.1
      simp only [holds_bind, holds_log, holds_modifyController]
      exact (unpause_moved _).mono fun _ _ h => (h.stage_left rfl).mono (fun _ => by simp [hs]) id
    · exact .of_stage rfl

/-- A decoder callback starts a prepared song unannounced, or skips the song. -/
theorem onDecoderEvent_moved (e : DecoderEvent) (w : World) :
    Holds (onDecoderEvent e) (fun _ w' => MovedBy r p w w') w := by
  simp only [onDecoderEvent, holds_bind, holds_controller]
  split
  · exact .of_stage rfl
  split
  · exact .of_stage rfl
  -- the skip the callbacks end in, taken where the player still stands
  have hskip : ∀ w₁ : World, w₁.stage = w.stage →
      Holds skipCurrent (fun _ w' => MovedBy r p w w') w₁ := fun w₁ h₁ =>
    (skipCurrent_moved w₁).mono fun _ _ h => h.stage_left h₁
  split
  · simp only [holds_bind, holds_modifyController]
    split
    · rename_i hprep
      rw [holds_bind, holds_decoderCall]
      split
      · simp only [holds_bind, holds_log]
        exact hskip _ rfl
      · rw [holds_setState, if_pos (by simp [hprep])]
        refine ⟨[], by simp, ?_⟩
        rw [hprep]
        exact .started
    · exact .of_stage rfl
  · simp only [holds_bind, holds_log]
    exact hskip _ rfl
  · simp only [holds_bind, holds_log, holds_get]
    split
    · split
      · simp only [holds_bind, holds_emitDownload]
        exact hskip _ rfl
      · exact hskip _ rfl
    · exact hskip _ rfl
  · exact (keeps_stage_emitBuffer _ _).holds fun _ _ h => .of_stage h

/-- A download notice skips the song whose download failed for good, and sends nothing else. -/
theorem onDownloadEvent_moved (e : DownloadEvent) (w : World) :
    Holds (onDownloadEvent e) (fun _ w' => MovedBy r p w w') w := by
  simp only [onDownloadEvent, holds_bind, holds_controller, holds_emitDownload]
  split
  · split
    · exact (keeps_stage_emitBuffer _ _).holds fun _ _ h => .of_stage h
    · exact .of_stage rfl
  · split
    · rw [holds_bind]
      exact (keeps_stage_emitBuffer _ _).holds fun _ w₁ h₁ =>
        keeps_stage_prefetch.holds fun _ _ h₂ => MovedBy.of_stage (h₂.trans h₁)
    · exact keeps_stage_prefetch.holds fun _ _ h => .of_stage h
  · rw [holds_bind]
    refine (releaseFailed_outside _).stage_of_outsideCache.holds fun _ w₁ h₁ => ?_
    split
    · simp only [holds_bind, holds_log]
      exact (skipCurrent_moved _).mono fun _ _ h => h.stage_left h₁
    · exact .of_stage h₁
  · exact (releaseSuperseded_outside _).stage_of_outsideCache.holds fun _ _ h => .of_stage h
  · exact .of_stage rfl

/-- Handling a message sends what its handler sends: saving sends nothing. -/
theorem handle_moved {α : Type} {a : Act α} (ha : ∀ w, Holds a (fun _ w' => MovedBy r p w w') w)
    (w : World) : Holds (handle a) (fun _ w' => MovedBy r p w w') w := by
  simp only [handle, holds_detached, holds_bind, holds_pure]
  exact (ha _).mono fun _ w₁ h₁ => (h₁.stage_left rfl).then_keeps keeps_stage_saveIfDirty

theorem request_moved {α : Type} {a : Act α} (ha : ∀ w, Holds a (fun _ w' => MovedBy r p w w') w)
    (w : World) : Holds (request a) (fun _ w' => MovedBy r p w w') w := by
  simp only [request, holds_bind, holds_get]
  split
  · exact .of_stage rfl
  · simp only [holds_bind, holds_pure]
    exact handle_moved ha w

/-- Taking up a saved session from stopped: a pause is taken up unannounced, a playing session
is loaded and its play sent. -/
theorem restore_moved (snap : Snapshot) (w : World) (hs : w.controller.state = .stopped) :
    Holds (restore snap) (fun _ w' => MovedBy r true w w') w := by
  simp only [restore, holds_bind, holds_modifyController, holds_queue]
  split
  · exact .of_stage rfl
  · split
    · simp only [holds_bind, holds_modifyController, holds_publish, holds_log]
      refine ⟨[], by simp, ?_⟩
      rw [hs]
      exact .recovered
    · refine (startPlayback_emitPlay_moved _ ?_).mono fun _ _ h => h.stage_left rfl
      exact hs

/-- A piece of pending work takes up a saved session, handles a callback or a notice, or runs a
transfer, which sends nothing. -/
theorem settleOnce_moved (w : World) (hw : Ready w) :
    Holds settleOnce (fun _ w' => MovedBy false true w w') w := by
  refine settleOnce_holds (fun snap hsnap => ?_) (fun _ _ _ _ => ?_) (fun _ _ _ _ _ => ?_)
    (fun _ _ _ t _ => ?_) (fun _ _ _ _ => .of_stage rfl)
  · split
    · simp only [holds_detached]
      refine (restore_moved snap _ ?_).mono fun _ _ h => (h.stage_left rfl).stage_right rfl
      exact (hw.stopped_of_recovered hsnap).1.1
    · exact .of_stage rfl
  · split
    · exact (handle_moved (onDecoderEvent_moved _) _).mono fun _ _ h => h.stage_left rfl
    · exact .of_stage rfl
  · split
    · exact (handle_moved (onDownloadEvent_moved _) _).mono fun _ _ h => h.stage_left rfl
    · exact .of_stage rfl
  · exact (Downloads.runTask_outside t).stage_of_outsideDownloads.holds fun _ _ h => .of_stage h

end Handlers

/-! ## Every handled step -/

/-- Every handled step of a started player sends one word of `MoveWord`: only an unpause or play
command or the end of a call may resume, and only a play command, an insert or pending work may
play. -/
theorem stepOf_moved {o : Occurrence} {w w' : World} (hw : Ready w) (h : StepOf o w w')
    (hhandled : o ≠ .host) : MovedBy o.resumes o.starts w w' := by
  cases h with
  | command c _ => exact request_moved (apply_moved c) w
  | query q _ =>
    exact request_moved (fun w => ((answer_keeps q).of_id _).holds fun _ _ h => .of_stage h) w
  | signal s _ =>
    cases s with
    | call s =>
      refine request_moved (fun w => (onCallState_moved s w).mono fun _ _ h => h.mono ?_ id) w
      cases s <;> simp [Occurrence.resumes]
    | connectivityRestored =>
      exact request_moved (fun w =>
        Downloads.resume_outside.stage_of_outsideDownloads.discard.holds fun _ _ h => .of_stage h) w
  | work => exact settleOnce_moved w hw
  | host => exact absurd rfl hhandled

/-! ## The mirror, move kind by move kind -/

/-- Whether a move is a jump. -/
def MoveEvent.isJump : MoveEvent → Bool
  | .jump .. => true
  | _ => false

/-- The moves `ms` of a step from play state `s` to `s'`, read kind by kind: a stop exactly into
stopped from another state, or after a jump from stopped that loaded nothing; a pause exactly
from playing or preparing into paused, carrying `0` from preparing; an unpause exactly from
paused into playing or preparing, and only where resuming is allowed; a play exactly from
stopped into playing or preparing other than by a jump, and only where playing is allowed; at
most one of each, and a jump only to a position of the queue. -/
structure MirroredMoves (resume start : Bool) (s : PlayState) (ms : List MoveEvent) (s' : PlayState) :
    Prop where
  stop_iff : .stop ∈ ms ↔
    (s ≠ .stopped ∧ s' = .stopped) ∨ (s = .stopped ∧ s' = .stopped ∧ ∃ i t, .jump i t ∈ ms)
  pause_iff : (∃ q, .pause q ∈ ms) ↔ s.isPlaying = true ∧ s' = .paused
  pause_zero : ∀ q, .pause q ∈ ms → s = .preparing → q = 0
  unpause_iff : .unpause ∈ ms ↔ s = .paused ∧ s'.isPlaying = true
  unpause_resumes : .unpause ∈ ms → resume = true
  play_iff : (∃ i t, .play i t ∈ ms) ↔
    s = .stopped ∧ s'.isPlaying = true ∧ ¬∃ i t, .jump i t ∈ ms
  play_starts : (∃ i t, .play i t ∈ ms) → start = true
  jump_nonneg : ∀ i t, .jump i t ∈ ms → 0 ≤ i
  at_most_one : ms.countP MoveEvent.isJump ≤ 1 ∧ ms.count .stop ≤ 1 ∧
    ms.countP (fun e => e matches .pause _) ≤ 1 ∧ ms.count .unpause ≤ 1

/-- Each word mirrors the change of state it goes with. -/
theorem MoveWord.mirrored {r p : Bool} {s s' : PlayState} {ms : List MoveEvent}
    (h : MoveWord r p s ms s') : MirroredMoves r p s ms s' := by
  -- each word is a short list; what remains is which states play
  cases h with
  | still => cases s <;> constructor <;> simp [PlayState.isPlaying]
  | started => constructor <;> simp [PlayState.isPlaying]
  | recovered => constructor <;> simp [PlayState.isPlaying]
  | stop h => constructor <;> simp [h, PlayState.isPlaying, MoveEvent.isJump]
  | pause h h0 => cases s <;> constructor <;> simp_all [PlayState.isPlaying, MoveEvent.isJump]
  | unpause hr h => cases s' <;> constructor <;> simp_all [PlayState.isPlaying, MoveEvent.isJump]
  | play hs h => cases s' <;> constructor <;> simp_all [PlayState.isPlaying, MoveEvent.isJump]
  | seek => cases s <;> constructor <;> simp [PlayState.isPlaying, MoveEvent.isJump]
  | jump hi => cases s <;> constructor <;> simp [PlayState.isPlaying, MoveEvent.isJump, hi]
  | jumpStop hi =>
    cases s <;> constructor <;> simp [PlayState.isPlaying, MoveEvent.isJump, List.countP_cons, hi]

end Player

end PlaybackEngine
