import PlaybackEngine.Proofs.MoveMirror

set_option autoImplicit false

/-!
# The buffered share follows the song in output

The hub keeps the last buffered share it announced, to give it to a buffer listener that joins
late. The player announces a share when it opens a song (all of a committed file, or what the
file of its download holds), when the download of the song in output progresses or finishes, and
when the decoder reports buffering of the loaded session; it forgets the share when it stops.

`Tied` says that a share the hub holds is at most 100 and is the share of the song in output.
Loading breaks it for a while: the old session is unloaded first, and a song that opens announces
its share before a later fault skips it. But the search for a song that opens ends with that song
loaded and its share announced last, or stopped with the share forgotten (`FirstOpened.tied`), so
loading, stopping and skipping a song end tied from any world. Every other piece of a handler
keeps the share and the track in output, or announces the share of the song in output. So every
handled message keeps `Tied` (`stepOf_tied`), and a player started on a hub that holds no share
is tied at every message boundary, where a stopped player has no session and so no share
(`BufferRun.buffer_follows_session`).

A progress notice of another track, and a decoder callback about a session that is not the one
loaded, leave the buffer channel alone: the share the hub holds and the listeners' mailboxes.
-/

namespace PlaybackEngine

/-- The buffered share the hub holds, and the track of the song in output. -/
def World.tie (w : World) : Option BufferEvent × Option TrackId :=
  (w.hub.buffer, w.controller.session.map (·.track))

/-- The buffer channel: the share the hub holds and its listeners' mailboxes. -/
def World.bufferChannel (w : World) : Option BufferEvent × Channel BufferEvent :=
  (w.hub.buffer, w.hub.buffers)

@[simp] theorem Hub.emitBuffer_buffer (h : Hub) (track : TrackId) (percent : Nat) :
    (h.emitBuffer track percent).2.buffer = some ⟨track, min percent 100⟩ := by
  simp only [Hub.emitBuffer]
  split
  · assumption
  · rfl

/-- What the songs the player loads stand on: the buffered share and its listeners, the session
in output, the download manager and the session counter. -/
def World.loadState (w : World) :
    Option BufferEvent × Channel BufferEvent × Option Session × Manager × Nat :=
  (w.hub.buffer, w.hub.buffers, w.controller.session, w.manager, w.nextSession)

section Views

variable {α : Type} {a : Act α}

theorem Keeps.tie_of_outsideDownloads (h : Keeps World.outsideDownloads a) : Keeps World.tie a :=
  fun w => by
    have hw := h w
    simp only [World.outsideDownloads, Prod.mk.injEq] at hw
    simp only [World.tie, hw.1, hw.2.1]

theorem Keeps.tie_of_loadState (h : Keeps World.loadState a) : Keeps World.tie a :=
  fun w => by
    have hw := h w
    simp only [World.loadState, Prod.mk.injEq] at hw
    simp only [World.tie, hw.1, hw.2.2.1]

theorem Keeps.bufferChannel_of_loadState (h : Keeps World.loadState a) :
    Keeps World.bufferChannel a :=
  fun w => by
    have hw := h w
    simp only [World.loadState, Prod.mk.injEq] at hw
    simp only [World.bufferChannel, hw.1, hw.2.1]

end Views

namespace Player

open PlaybackEngine.World

/-- A buffered share the hub holds is at most 100 and is the share of the song in output. -/
def Tied (w : World) : Prop :=
  ∀ e, w.hub.buffer = some e → e.percent ≤ 100 ∧ w.controller.session.map (·.track) = some e.track

section Tie

variable {w w' : World}

theorem Tied.of_tie (hw : Tied w) (h : w'.tie = w.tie) : Tied w' := by
  simp only [World.tie, Prod.mk.injEq] at h
  intro e he
  rw [h.2]
  exact hw e (h.1 ▸ he)

theorem Tied.of_cleared (h : w.hub.buffer = none) : Tied w := by
  intro e he
  rw [h] at he
  cases he

/-- Announcing the share of the song in output ties the hub's share to it. -/
theorem Tied.announce {track : TrackId} (h : w.controller.session.map (·.track) = some track)
    (percent : Nat) : Tied { w with hub := (w.hub.emitBuffer track percent).2 } := by
  intro e he
  simp only [Hub.emitBuffer_buffer, Option.some.injEq] at he
  subst he
  exact ⟨Nat.min_le_right _ _, h⟩

theorem Tied.then_keeps {α : Type} {a : Act α} (hw : Tied w) (ha : Keeps World.tie a) :
    Holds a (fun _ => Tied) w :=
  ha.holds fun _ _ h => hw.of_tie h

end Tie

/-- `a` keeps the hub's share tied to the song in output. -/
def KeepsTied {α : Type} (a : Act α) : Prop := Triple Tied a fun _ => Tied

section Rules

variable {α : Type} {a : Act α}

theorem KeepsTied.of_keeps (h : Keeps World.tie a) : KeepsTied a := fun _ hw => hw.then_keeps h

theorem KeepsTied.of_ties (h : ∀ w, Holds a (fun _ => Tied) w) : KeepsTied a := fun w _ => h w

end Rules

/-! ## Pieces that keep the share and the track in output -/

section Keeping

theorem keeps_tie_prefetch : Keeps World.tie prefetch := prefetch_outside.tie_of_outsideDownloads

theorem keeps_loadState_emitPlay : Keeps World.loadState emitPlay := by
  unfold emitPlay
  refine Keeps.bind (keeps_get _) fun q => ?_
  split
  · exact fun _ => rfl
  · exact keeps_pure _ _

theorem keeps_loadState_seek (ms : Nat) : Keeps World.loadState (seek ms) := by
  unfold seek
  refine Keeps.bind (keeps_get _) fun c => ?_
  split
  · exact keeps_pure _ _
  · refine Keeps.bind (fun _ => rfl) fun r => ?_
    split
    · exact fun _ => rfl
    · exact keeps_log (fun _ _ => rfl) _ _ _ _

theorem keeps_loadState_pause : Keeps World.loadState pause := by
  rw [keeps_iff]
  intro w
  simp only [pause, holds_bind, holds_controller]
  -- whatever the decoder answered, the pause goes on from the same share, session and transfers
  have tail : ∀ w₁ : World, w₁.loadState = w.loadState →
      Holds (do let p ← tell; setState .paused; emitMove (.pause p))
        (fun _ w' => w'.loadState = w.loadState) w₁ := by
    intro w₁ h₁
    rw [holds_bind]
    refine tell_keeps.holds fun p w₂ h₂ => ?_
    change w₂ = w₁ at h₂
    subst h₂
    simp only [holds_bind, holds_setState, holds_emitMove]
    split <;> exact h₁
  split
  · rw [holds_bind, holds_decoderCall]
    split
    · rw [holds_bind, holds_log]
      exact tail _ rfl
    · exact tail _ rfl
  · simp only [holds_bind, holds_setState, holds_emitMove]
    split <;> rfl
  · rfl
  · rfl

/-- Saving touches the state file, the player's dirty mark and the log only. -/
theorem keeps_loadState_save : Keeps World.loadState save := by
  unfold save
  refine Keeps.bind (fun _ => rfl) fun c => ?_
  extract_lets write
  have hwrite : ∀ offset, Keeps World.loadState (write offset) := by
    intro offset
    dsimp only [write]
    refine Keeps.bind ((Persistence.save_outside _ _).map
      fun v => (v.1.1.buffer, v.1.1.buffers, v.1.2.1.session, v.2.1, v.1.2.2.2.2.2.2.2)) fun r => ?_
    split
    · exact fun _ => rfl
    · exact keeps_log (fun _ _ => rfl) _ _ _ _
  clear_value write
  split
  · exact Keeps.bind (tell_keeps.of_id _) hwrite
  · exact Keeps.bind (keeps_pure _ _) hwrite

theorem keeps_loadState_saveIfDirty : Keeps World.loadState saveIfDirty := by
  unfold saveIfDirty
  refine Keeps.bind (fun _ => rfl) fun c => ?_
  split
  · exact keeps_loadState_save
  · exact keeps_pure _ _

theorem keeps_tie_moveSong (src dst : Int) : Keeps World.tie (moveSong src dst) := by
  rw [keeps_iff]
  intro w
  simp only [moveSong, holds_bind, holds_queue]
  split
  · rfl
  · simp only [holds_bind, holds_setQueue, holds_emitChange]
    split
    · exact keeps_tie_prefetch.holds fun _ _ h => h
    · rfl

end Keeping

/-! ## Stopping and loading end tied from any world -/

section Loading

/-- Stopping forgets the share. -/
theorem stop_clears (w : World) : Holds stop (fun _ w' => w'.hub.buffer = none) w := by
  simp only [stop, holds_bind]
  refine holds_of_forall fun _ w₁ => ?_
  simp only [holds_controller, holds_setState]
  split <;> simp only [holds_modifyController, holds_modify] <;> rfl

/-- Opening a track that opens announces its share last. -/
theorem materialize_announces (track : TrackId) (w : World) :
    Holds (materialize track).run (fun r w' => ∀ x, r = .ok x →
      ∃ p ≤ 100, w'.hub.buffer = some ⟨track, p⟩) w := by
  have announced : ∀ (w₁ : World) (p : Nat),
      ∃ p' ≤ 100, (Hub.emitBuffer w₁.hub track p).2.buffer = some ⟨track, p'⟩ :=
    fun w₁ p => ⟨_, Nat.min_le_right p 100, Hub.emitBuffer_buffer _ _ _⟩
  -- a step that fails ends the attempt with nothing to show; each success announces last
  unfold materialize
  refine Holds.attemptBind (P := fun _ _ => True) trivial (fun t w₁ _ => ?_)
    fun _ _ _ _ h => (by cases h)
  refine Holds.attemptBind (P := fun _ _ => True) trivial (fun cached w₂ _ => ?_)
    fun _ _ _ _ h => (by cases h)
  cases cached with
  | some path =>
    simp only [holds_attempt_bind, holds_liftM, holds_emitBuffer, holds_attempt_pure]
    exact fun _ _ => announced w₂ 100
  | none =>
    dsimp only
    rw [holds_attempt_bind, holds_attempt_get]
    dsimp only
    split
    · simp only [holds_attempt_bind, holds_attempt_pure, holds_liftM, holds_emitBuffer]
      exact fun _ _ => announced w₂ _
    · refine Holds.attemptBind (P := fun _ _ => True) trivial (fun path w₃ _ => ?_)
        fun _ _ _ _ h => (by cases h)
      refine Holds.attemptBind (P := fun _ _ => True) trivial (fun offset w₄ _ => ?_)
        fun _ _ _ _ h => (by cases h)
      simp only [holds_attempt_bind, holds_attempt_discard, holds_liftM, holds_attempt_pure,
        holds_emitBuffer]
      exact holds_of_forall fun _ w₅ _ _ => announced w₅ _

/-- A session that opened is of the track asked for, whose share the hub then holds. -/
theorem openTrack_announces (track : TrackId) (w : World) :
    Holds (openTrack track).run (fun r w' => ∀ s, r = .ok s →
      s.track = track ∧ ∃ p ≤ 100, w'.hub.buffer = some ⟨track, p⟩) w := by
  refine openTrack_holds ((materialize_announces track w).mono fun r w₁ h₁ =>
    ⟨fun _ _ _ h => (by cases h), fun t src hr _ => ?_⟩)
  obtain ⟨p, hp, hbuf⟩ := h₁ _ hr
  exact ⟨fun s hs => by cases hs; exact ⟨rfl, p, hp, hbuf⟩, fun _ _ h => (by cases h)⟩

/-- Taking up a session that opened makes it the song in output, and leaves the hub. -/
theorem adoptSession_loads (paused : Bool) (q : PlayQueue) (track : TrackId) (s : Session)
    (w : World) :
    Holds (adoptSession paused q track s) (fun _ w' => w'.hub = w.hub ∧
      w'.controller.session = some s) w := by
  simp only [adoptSession, holds_log, holds_bind, holds_modifyController, holds_setState, and_self,
    ite_self]

/-- Giving up a song with none left after it stops, forgetting the share. -/
theorem skipUnopenable_clears (q : PlayQueue) (track : TrackId) (e : PlaybackError) (w : World) :
    Holds (skipUnopenable q track e) (fun more w' => more = false → w'.hub.buffer = none) w := by
  simp -zeta only [skipUnopenable, holds_log, holds_bind]
  extract_lets next skip
  have hskip : ∀ u w₂,
      Holds (skip u) (fun more w' => more = false → w'.hub.buffer = none) w₂ := by
    intro u w₂
    simp only [skip]
    split
    · simp only [holds_bind]
      refine (stop_clears w₂).mono fun _ w₃ h₃ => ?_
      simp only [holds_selectPosition, holds_pure]
      exact fun _ => h₃
    · simp only [holds_bind, holds_selectPosition, holds_pure]
      rintro ⟨⟩
  clear_value skip
  split
  · simp only [holds_bind, holds_emitDownload]
    exact hskip () _
  · exact hskip () _

/-- The search for a song that opens ends tied, whatever world it started from: with the song
that opened in output and its share the last announced, or stopped with no share. -/
theorem FirstOpened.tied {paused : Bool} {w w' : World} {o : Option Int}
    (h : FirstOpened paused w o w') : Tied w' := by
  induction h with
  | @opened w w₁ t s hcur hopen =>
    obtain ⟨htrack, p, hp, hbuf⟩ := (holds_of_run_eq hopen).mp (openTrack_announces t w) s rfl
    obtain ⟨hhub, hsession⟩ := adoptSession_loads paused w.controller.queue t s w₁
    intro e he
    rw [hhub, hbuf, Option.some.injEq] at he
    subst he
    exact ⟨hp, by rw [hsession, Option.map_some, htrack]⟩
  | skipped _ _ _ _ ih => exact ih
  | @exhausted w w₁ w' t e hcur hopen hskip =>
    exact .of_cleared ((holds_of_run_eq hskip).mp (skipUnopenable_clears _ t e w₁) rfl)
  | @unselected w _ => exact .of_cleared (stop_clears w)

theorem startPlayback_tied (paused : Bool) (w : World) :
    Holds (startPlayback paused) (fun _ => Tied) w :=
  by
    refine (startPlayback_firstOpened paused w).mono ?_
    rintro _ _ ⟨_, ho, -⟩
    exact ho.tied

theorem startPlayback_emitPlay_tied (w : World) :
    Holds (do if ← startPlayback false then emitPlay) (fun _ => Tied) w := by
  rw [holds_bind]
  refine (startPlayback_tied false w).mono fun loaded w₁ h₁ => ?_
  split
  · exact h₁.then_keeps keeps_loadState_emitPlay.tie_of_loadState
  · exact h₁

/-- Unselecting stops a player in output; a stopped player it leaves as it was. -/
theorem jump_unselect_tied (w : World) (hw : Tied w) : Holds (jump (-1)) (fun _ => Tied) w := by
  have hguard :
      (decide ((-1 : Int) < -1) || decide ((-1 : Int) ≥ (w.controller.queue.length : Int))) =
        false := by
    simp only [Bool.or_eq_false_iff, decide_eq_false_iff_not]
    omega
  simp only [jump, holds_inSpan, holds_bind, holds_queue, hguard, Bool.false_eq_true, ↓reduceIte,
    holds_controller]
  split
  · simp only [holds_bind, holds_pure]
    refine (stop_clears _).mono fun _ w₁ h₁ => ?_
    simp only [holds_selectPosition]
    exact .of_cleared h₁
  · exact hw.of_tie rfl

/-- A jump inside the queue loads the song there, which ties the share from any world. A jump
outside the queue changes nothing, and unselecting stops or changes nothing. -/
theorem jump_tied (i : Int) (w : World)
    (hw : Tied w ∨ 0 ≤ i ∧ i < w.controller.queue.length) :
    Holds (jump i) (fun _ => Tied) w := by
  by_cases hout : i < -1 ∨ w.controller.queue.length ≤ i
  · rw [holds_of_run_eq (jump_outside w hout)]
    exact hw.resolve_right (by omega)
  by_cases hneg : i = -1
  · subst hneg
    exact jump_unselect_tied w (hw.resolve_right (by omega))
  have hguard : (decide (i < -1) || decide (i ≥ (w.controller.queue.length : Int))) = false := by
    simp only [Bool.or_eq_false_iff, decide_eq_false_iff_not]
    omega
  simp -zeta only [jump, holds_inSpan, holds_bind, holds_queue, hguard, Bool.false_eq_true,
    ↓reduceIte]
  rw [if_neg hneg]
  simp only [holds_bind, holds_selectPosition, holds_queue]
  -- the song selected is announced or not; either way the search runs next, and what follows it
  -- (a stop the jump announces itself, the prefetch) keeps the tie the search left
  split
  all_goals
    simp only [holds_bind, holds_emitMove, holds_controller]
    refine (startPlayback_tied _ _).mono fun loaded w₂ h₂ => ?_
    split
    · rw [holds_bind, holds_emitMove]
      exact keeps_tie_prefetch.holds fun _ _ h => (h₂.of_tie h).of_tie rfl
    · exact keeps_tie_prefetch.holds fun _ _ h => (h₂.of_tie h).of_tie rfl

/-- Moving to the next song ties the share from any world: the next song is inside the queue. -/
theorem next_tied (w : World) : Holds next (fun _ => Tied) w := by
  simp only [next, holds_bind, holds_queue]
  split
  · rename_i hn
    exact jump_tied _ w (.inr ⟨hn, PlayQueue.peekNext_lt hn⟩)
  · rw [holds_bind]
    refine (stop_clears w).mono fun _ w₁ h₁ => ?_
    simp only [holds_selectPosition]
    exact .of_cleared h₁

theorem skipCurrent_tied (w : World) : Holds skipCurrent (fun _ => Tied) w := by
  simp only [skipCurrent, holds_bind, holds_controller]
  split
  · simp only [holds_bind, holds_modifyController, holds_decoderCall]
    split
    · exact next_tied _
    · simp only [holds_bind, holds_log]
      exact next_tied _
  · exact next_tied w

theorem clear_tied (w : World) : Holds clear (fun _ => Tied) w := by
  simp only [clear, holds_bind]
  refine (stop_clears w).mono fun _ w₁ h₁ => ?_
  simp only [holds_queue, holds_setQueue, holds_emitChange]
  exact .of_cleared h₁

end Loading

/-! ## Every handler keeps the tie -/

section Handlers

theorem unpause_tied : KeepsTied unpause := by
  intro w hw
  simp only [unpause, holds_bind, holds_controller]
  split
  · exact hw
  -- the resumption itself drops the offset and announces the unpause
  have resumed : ∀ w₁ : World, Tied w₁ →
      Holds (do modifyController fun c => { c with pausedOffsetMs := none }; emitMove .unpause)
        (fun _ => Tied) w₁ := by
    intro w₁ h₁
    simp only [holds_bind, holds_modifyController, holds_emitMove]
    exact h₁.of_tie rfl
  split
  · rw [holds_bind, holds_decoderCall]
    split
    · simp only [holds_bind, holds_log]
      exact skipCurrent_tied _
    · rw [holds_bind, holds_setState]
      split <;> exact resumed _ (hw.of_tie rfl)
  · rw [holds_bind, holds_setState]
    split <;> exact resumed _ (hw.of_tie rfl)
  · rw [holds_bind]
    refine (startPlayback_tied false w).mono fun loaded w₁ h₁ => ?_
    cases loaded
    · simp only [Bool.not_false, ↓reduceIte, holds_pure]
      exact h₁
    · simp only [Bool.not_true, Bool.false_eq_true, ↓reduceIte]
      exact resumed w₁ h₁

theorem play_tied : KeepsTied play := by
  intro w hw
  simp only [play, holds_bind, holds_controller]
  split
  · exact unpause_tied w hw
  · exact hw
  · exact hw
  · simp only [holds_bind, holds_queue]
    split
    · split
      · exact hw
      · simp only [holds_bind, holds_selectPosition]
        exact startPlayback_emitPlay_tied _
    · exact startPlayback_emitPlay_tied w

theorem previous_tied : KeepsTied previous := by
  intro w hw
  by_cases hne : w.controller.queue.tracks = []
  · simp only [previous, holds_bind, holds_queue, List.isEmpty_iff, hne, ↓reduceIte]
    refine (stop_clears w).mono fun _ w₁ h₁ => ?_
    simp only [holds_selectPosition]
    exact .of_cleared h₁
  by_cases hearly : w.controller.state.isPlaying = true ∧
      max (tell.run w).1 0 < w.controller.settings.restartThresholdMs
  · rw [holds_iff_of_run_eq (previous_restarts w hne hearly.1 hearly.2)]
    split
    · exact hw.then_keeps (keeps_loadState_seek 0 |>.tie_of_loadState)
    · exact hw
  · rw [holds_iff_of_run_eq (previous_jumps w hne hearly)]
    exact jump_tied _ w (.inl hw)

theorem insert_tied (t : TrackId) (i : Int) : KeepsTied (insert t i) := by
  intro w hw
  cases h : w.controller.queue.insert t i with
  | none =>
    rw [holds_of_run_eq (insert_refused w h)]
    exact hw
  | some q' =>
    by_cases hs : w.controller.state = .stopped
    · rw [holds_iff_of_run_eq (insert_stopped_plays w h hs)]
      exact play_tied _ (hw.of_tie rfl)
    · simp only [insert, holds_bind, holds_queue, h, holds_setQueue, holds_emitChange,
        holds_controller, hs, ↓reduceIte]
      split
      · refine Tied.then_keeps ?_ keeps_tie_prefetch
        exact hw.of_tie rfl
      · exact hw.of_tie rfl

theorem remove_tied (i : Int) : KeepsTied (remove i) := by
  intro w hw
  simp only [remove, holds_bind, holds_queue]
  split
  · exact hw
  · simp only [holds_bind, holds_controller]
    split
    · rw [holds_bind]
      refine (stop_clears w).mono fun _ w₁ h₁ => ?_
      simp only [holds_bind, holds_queue]
      split
      · simp only [holds_bind, holds_setQueue, holds_emitChange]
        exact .of_cleared h₁
      · exact .of_cleared h₁
    · simp only [holds_bind, holds_queue]
      split
      · simp only [holds_bind, holds_setQueue, holds_emitChange]
        exact hw.of_tie rfl
      · exact hw

theorem apply_tied (c : Command) : KeepsTied (apply c) := by
  cases c with
  | play => exact play_tied
  | pause => exact .of_keeps keeps_loadState_pause.tie_of_loadState
  | unpause => exact unpause_tied
  | stop => exact .of_ties fun w => (stop_clears w).mono fun _ _ h => .of_cleared h
  | seek ms => exact .of_keeps (keeps_loadState_seek ms).tie_of_loadState
  | next => exact .of_ties next_tied
  | previous => exact previous_tied
  | jump i => exact fun w hw => jump_tied i w (.inl hw)
  | insert t i => exact insert_tied t i
  | prepend t => exact insert_tied t 0
  | append t =>
    intro w hw
    simp only [apply, holds_bind, holds_queue]
    exact insert_tied t _ w hw
  | insertNext t =>
    intro w hw
    simp only [apply, holds_bind, holds_queue]
    exact insert_tied t _ w hw
  | remove i => exact remove_tied i
  | move src dst => exact .of_keeps (keeps_tie_moveSong src dst)
  | clear => exact .of_ties clear_tied

theorem onCallState_tied (s : CallState) : KeepsTied (onCallState s) := by
  intro w hw
  simp only [onCallState, holds_bind, holds_controller]
  split
  · split
    · simp only [holds_bind, holds_log]
      refine keeps_loadState_pause.tie_of_loadState.holds fun _ w₁ h₁ => ?_
      simp only [holds_modifyController]
      exact hw.of_tie h₁
    · exact hw
  · split
    · simp only [holds_bind, holds_log, holds_modifyController]
      exact unpause_tied _ (hw.of_tie rfl)
    · exact hw

/-- A decoder callback about the loaded session keeps its track, announces its share or skips
it; one about any other session is ignored. -/
theorem onDecoderEvent_tied (e : DecoderEvent) : KeepsTied (onDecoderEvent e) := by
  intro w hw
  simp only [onDecoderEvent, holds_bind, holds_controller]
  split
  · exact hw
  rename_i s hs
  split
  · exact hw
  split
  · simp only [holds_bind, holds_modifyController]
    -- marking the session prepared keeps its track
    have hw₁ : Tied { w with controller := { w.controller with
        session := some { s with prepared := true } } } :=
      hw.of_tie (by simp [World.tie, hs])
    split
    · rw [holds_bind, holds_decoderCall]
      split
      · simp only [holds_bind, holds_log]
        exact skipCurrent_tied _
      · rw [holds_setState]
        split <;> exact hw₁.of_tie rfl
    · exact hw₁
  · simp only [holds_bind, holds_log]
    exact skipCurrent_tied _
  · simp only [holds_bind, holds_log, holds_get]
    split
    · split
      · simp only [holds_bind, holds_emitDownload]
        exact skipCurrent_tied _
      · exact skipCurrent_tied _
    · exact skipCurrent_tied _
  · rw [holds_emitBuffer]
    exact Tied.announce (by rw [hs]; rfl) _

/-- A download notice announces the share of the song in output only, and skips that song when
its download failed for good. -/
theorem onDownloadEvent_tied (e : DownloadEvent) : KeepsTied (onDownloadEvent e) := by
  intro w hw
  have hw₁ : Tied { w with hub := (w.hub.emitDownload e).2 } := hw.of_tie rfl
  simp only [onDownloadEvent, holds_bind, holds_controller, holds_emitDownload]
  split
  · split
    · rename_i hcur
      simp only [Bool.and_eq_true, decide_eq_true_eq] at hcur
      rw [holds_emitBuffer]
      exact Tied.announce (w := { w with hub := (w.hub.emitDownload _).2 }) hcur.1 _
    · exact hw₁
  · split
    · rename_i hcur
      rw [holds_bind, holds_emitBuffer]
      exact (Tied.announce (w := { w with hub := (w.hub.emitDownload _).2 }) hcur _).then_keeps
        keeps_tie_prefetch
    · exact hw₁.then_keeps keeps_tie_prefetch
  · rw [holds_bind]
    refine (releaseFailed_outside _).outsideDownloads.tie_of_outsideDownloads.holds
      fun _ w₂ h₂ => ?_
    split
    · simp only [holds_bind, holds_log]
      exact skipCurrent_tied _
    · exact hw₁.of_tie h₂
  · exact hw₁.then_keeps (releaseSuperseded_outside _).outsideDownloads.tie_of_outsideDownloads
  · exact hw₁

theorem onSignal_tied (s : Signal) : KeepsTied (onSignal s) := by
  cases s with
  | call s => exact onCallState_tied s
  | connectivityRestored =>
    exact .of_keeps (Keeps.discard Downloads.resume_outside.tie_of_outsideDownloads)

theorem KeepsTied.handle {α : Type} {a : Act α} (h : KeepsTied a) : KeepsTied (handle a) := by
  intro w hw
  simp only [Player.handle, holds_detached, holds_bind, holds_pure]
  refine (h _ ?_).mono fun _ w₁ h₁ => ?_
  · exact hw.of_tie rfl
  · exact keeps_loadState_saveIfDirty.tie_of_loadState.holds fun _ _ h =>
      (h₁.of_tie h).of_tie rfl

theorem KeepsTied.request {α : Type} {a : Act α} (h : KeepsTied a) : KeepsTied (request a) := by
  intro w hw
  simp only [Player.request, holds_bind, holds_get]
  split
  · exact hw
  · simp only [holds_bind, holds_pure]
    exact h.handle w hw

theorem restore_tied (snap : Snapshot) : KeepsTied (restore snap) := by
  intro w hw
  simp only [restore, holds_bind, holds_modifyController, holds_queue]
  split
  · exact hw.of_tie rfl
  · split
    · simp only [holds_bind, holds_modifyController, holds_publish, holds_log]
      exact hw.of_tie rfl
    · exact startPlayback_emitPlay_tied _

theorem settleOnce_tied : KeepsTied settleOnce := by
  intro w hw
  refine settleOnce_holds (fun _ _ => ?_) (fun _ _ _ _ => ?_) (fun _ _ _ _ _ => ?_)
    (fun _ _ _ t _ => hw.then_keeps (Downloads.runTask_outside t).tie_of_outsideDownloads)
    (fun _ _ _ _ => hw)
  · split
    · simp only [holds_detached]
      refine (restore_tied _ _ ?_).mono fun _ _ h => h.of_tie rfl
      exact hw.of_tie rfl
    · exact hw.of_tie rfl
  · split
    · exact (onDecoderEvent_tied _).handle _ (hw.of_tie rfl)
    · exact hw.of_tie rfl
  · split
    · exact (onDownloadEvent_tied _).handle _ (hw.of_tie rfl)
    · exact hw.of_tie rfl

/-- Starting on a hub that holds no share leaves it holding none. -/
theorem spawn_tied (s : Setup) (w : World) (hb : w.hub.buffer = none) :
    Holds (spawn s) (fun _ => Tied) w := by
  simp only [spawn, holds_bind, holds_modify]
  refine (Persistence.recover_outside s.stateFile).holds fun r w₁ h₁ => ?_
  have hb₁ : w₁.hub.buffer = none := by
    simp only [World.outsideCache, World.outsideDownloads, Prod.mk.injEq] at h₁
    rw [h₁.1.1]
    exact hb
  cases r with
  | error e => exact .of_cleared hb₁
  | ok recovered =>
    simp only [holds_bind, holds_modify, holds_log, holds_modifyController, holds_pure]
    exact .of_cleared hb₁

end Handlers

/-! ## Every message boundary -/

/-- Each handled step keeps the share tied, and so does a change of the host that leaves the
share alone. -/
theorem stepOf_tied {o : Occurrence} {w w' : World} (hw : Tied w) (h : StepOf o w w')
    (hhost : o = .host → w'.hub.buffer = w.hub.buffer) : Tied w' := by
  cases h with
  | command c _ => exact (apply_tied c).request w hw
  | query q _ => exact (KeepsTied.of_keeps ((answer_keeps q).of_id _)).request w hw
  | signal s _ => exact (onSignal_tied s).request w hw
  | work => exact settleOnce_tied w hw
  | host hc _ => exact hw.of_tie (by simp only [World.tie, hhost rfl, hc])

/-- The worlds a player reaches when started on a hub that holds no buffered share, the host
leaving the share alone: only the player announces or forgets it. -/
inductive BufferRun : World → Prop
  | start (w : World) (s : Setup) (hb : w.hub.buffer = none) (h : ((spawn s).run w).1 = .ok ()) :
      BufferRun ((spawn s).run w).2
  | step {o : Occurrence} {w w' : World} (h : BufferRun w) (hs : StepOf o w w')
      (hhost : o = .host → w'.hub.buffer = w.hub.buffer) : BufferRun w'

theorem BufferRun.run {w : World} (h : BufferRun w) : PlayerRun w := by
  induction h with
  | start w s _ h => exact .start w s h
  | step _ hs _ ih => exact .step ih hs.step

theorem BufferRun.tied {w : World} (h : BufferRun w) : Tied w := by
  induction h with
  | start w s hb _ => exact spawn_tied s w hb
  | step _ hs hhost ih => exact stepOf_tied ih hs hhost

/-- A started player that is stopped has no session. -/
theorem Ready.session_of_stopped {w : World} (hw : Ready w) (hs : w.controller.state = .stopped) :
    w.controller.session = none := by
  rcases hw with ⟨-, hc⟩ | ⟨-, hst, -⟩
  · simpa only [Consistent, hs] using hc
  · exact hst.2

/-! ## Notices and callbacks about other songs -/

/-- A decoder callback about a session other than the one loaded changes nothing. -/
theorem onDecoderEvent_stale (w : World) (e : DecoderEvent)
    (h : w.controller.session.map (·.id) ≠ some e.session) :
    (onDecoderEvent e).run w = ((), w) := by
  have hrun : Holds (onDecoderEvent e) (fun r w' => (r, w') = ((), w)) w := by
    simp only [onDecoderEvent, holds_bind, holds_controller]
    split
    · rfl
    rename_i s hs
    split
    · rfl
    rename_i hsame
    exact absurd (by rw [hs, Option.map_some, Decidable.of_not_not hsame]) h
  exact hrun

/-- Handling a message whose handler leaves the buffer channel leaves it: saving does too. -/
theorem handle_keeps_bufferChannel {α : Type} {a : Act α} (w : World)
    (ha : Holds a (fun _ w' => w'.bufferChannel = w.bufferChannel) { w with spans := [] }) :
    ((handle a).run w).2.bufferChannel = w.bufferChannel := by
  show Holds (handle a) (fun _ w' => w'.bufferChannel = w.bufferChannel) w
  simp only [Player.handle, holds_detached, holds_bind, holds_pure]
  exact ha.mono fun _ _ h₁ =>
    keeps_loadState_saveIfDirty.bufferChannel_of_loadState.holds fun _ _ h => h.trans h₁

/-- The progress of a download that is not the song in output's leaves the buffer channel. -/
theorem progress_elsewhere_keeps_bufferChannel (w : World) {track : TrackId}
    (downloaded total : Nat) (h : w.controller.session.map (·.track) ≠ some track) :
    ((handle (onDownloadEvent (.progress track downloaded total))).run w).2.bufferChannel =
      w.bufferChannel := by
  refine handle_keeps_bufferChannel w ?_
  simp only [onDownloadEvent, holds_bind, holds_controller, holds_emitDownload]
  rw [if_neg (by simp only [Bool.and_eq_true, decide_eq_true_eq]; exact fun hc => h hc.1)]
  rfl

/-- A callback about a session other than the one loaded leaves the buffer channel. -/
theorem stale_callback_keeps_bufferChannel (w : World) (e : DecoderEvent)
    (h : w.controller.session.map (·.id) ≠ some e.session) :
    ((handle (onDecoderEvent e)).run w).2.bufferChannel = w.bufferChannel := by
  refine handle_keeps_bufferChannel w ?_
  rw [holds_of_run_eq (onDecoderEvent_stale { w with spans := [] } e h)]
  rfl

/-! ## The buffered share at every message boundary -/

/-- What the buffered share is at a message boundary: none while stopped; otherwise, if the hub
holds one, at most 100 and the share of the track of the loaded session. A progress notice of
another track and a callback about another session leave the buffer channel alone. -/
structure BufferFollowsSession (w : World) : Prop where
  stopped_none : w.controller.state = .stopped → w.hub.buffer = none
  of_session : ∀ e, w.hub.buffer = some e →
    e.percent ≤ 100 ∧ ∃ s, w.controller.session = some s ∧ s.track = e.track
  progress_elsewhere : ∀ track downloaded total,
    w.controller.session.map (·.track) ≠ some track →
    ((handle (onDownloadEvent (.progress track downloaded total))).run w).2.bufferChannel =
      w.bufferChannel
  stale_callback : ∀ e : DecoderEvent, w.controller.session.map (·.id) ≠ some e.session →
    ((handle (onDecoderEvent e)).run w).2.bufferChannel = w.bufferChannel

theorem BufferRun.buffer_follows_session {w : World} (h : BufferRun w) :
    BufferFollowsSession w where
  stopped_none hs := by
    cases hb : w.hub.buffer with
    | none => rfl
    | some e =>
      have hmap := (h.tied e hb).2
      rw [h.run.ready.session_of_stopped hs] at hmap
      cases hmap
  of_session e he := by
    obtain ⟨hp, hmap⟩ := h.tied e he
    obtain ⟨s, hs, htrack⟩ := Option.map_eq_some_iff.mp hmap
    exact ⟨hp, s, hs, htrack⟩
  progress_elsewhere _ downloaded total hother :=
    progress_elsewhere_keeps_bufferChannel w downloaded total hother
  stale_callback e hstale := stale_callback_keeps_bufferChannel w e hstale

/-- The player with one song appended to its empty queue, which plays it. -/
theorem appended_song_buffer_follows_session :
    BufferRun firstQueued ∧ BufferFollowsSession firstQueued :=
  have h : BufferRun firstQueued :=
    .step (.start twoSongHost eagerSetup rfl rfl) (.command (.append 1) jumpScenario_run.1)
      (by rintro ⟨⟩)
  ⟨h, h.buffer_follows_session⟩

end Player

end PlaybackEngine
