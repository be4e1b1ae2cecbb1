import PlaybackEngine.Proofs.Course
import PlaybackEngine.Proofs.Jumps
import PlaybackEngine.Proofs.Restart

set_option autoImplicit false

/-!
# A call's end resumes only a pause a call made

The player remembers one thing of calls: whether a call's end should resume it. A call that
rings audibly or is answered sets it when it finds the player playing, and pauses the player;
the end of a call clears it, and resumes the player if it was set; nothing else touches it
(`stepOf_callMemory`). Along a course the memory is therefore set exactly when some call found
the player playing and no call has ended since (`callMemory_iff_call_paused`).

So the end of a call resumes a paused player only after a call paused it, with no end of a call
in between (`call_end_resumes_only_after_call_pause`). What the player did in between does not
count: a pause asked for after the call, even after the player was resumed by hand, is undone by
the call's end (`call_end_undoes_later_pause`).
-/

namespace PlaybackEngine

/-- Whether the end of a call resumes the player. -/
def World.callMemory (w : World) : Bool := w.controller.resumeAfterCall

theorem Keeps.callMemory_of_actor {α : Type} {a : Act α} (h : Keeps World.actor a) :
    Keeps World.callMemory a :=
  fun w => congrArg (fun x => x.1.resumeAfterCall) (h w)

namespace Player

open PlaybackEngine.World

/-! ## Nothing but a call touches the memory -/

section Frame

theorem keeps_callMemory_modifyController {f : Controller → Controller}
    (hf : ∀ c, (f c).resumeAfterCall = c.resumeAfterCall) :
    Keeps World.callMemory (modifyController f) :=
  fun w => hf w.controller

theorem keeps_callMemory_log (l : LogLevel) (target message : String)
    (fields : List (String × String)) : Keeps World.callMemory (log l target message fields) :=
  keeps_log (fun _ _ => rfl) l target message fields

theorem keeps_callMemory_controller : Keeps World.callMemory controller := fun _ => rfl

theorem keeps_callMemory_queue : Keeps World.callMemory queue := fun _ => rfl

theorem keeps_callMemory_selectPosition (p : Int) : Keeps World.callMemory (selectPosition p) :=
  fun _ => rfl

theorem keeps_callMemory_setQueue (q : PlayQueue) : Keeps World.callMemory (setQueue q) :=
  fun _ => rfl

theorem keeps_callMemory_setState (s : PlayState) : Keeps World.callMemory (setState s) := by
  rw [keeps_iff]
  intro w
  rw [holds_setState]
  split <;> rfl

theorem keeps_callMemory_emitMove (e : MoveEvent) : Keeps World.callMemory (emitMove e) :=
  fun _ => rfl

theorem keeps_callMemory_emitChange (e : ChangeEvent) : Keeps World.callMemory (emitChange e) :=
  fun _ => rfl

theorem keeps_callMemory_emitDownload (e : DownloadEvent) :
    Keeps World.callMemory (emitDownload e) := fun _ => rfl

theorem keeps_callMemory_emitBuffer (track : TrackId) (percent : Nat) :
    Keeps World.callMemory (emitBuffer track percent) := fun _ => rfl

theorem keeps_callMemory_decoderCall (f : Decoder → Except HostError Unit × Decoder) :
    Keeps World.callMemory (decoderCall f) := fun _ => rfl

theorem keeps_callMemory_teardown : Keeps World.callMemory teardown := fun w => by
  obtain ⟨-, hc⟩ := teardown_frame w
  show (teardown.run w).2.controller.resumeAfterCall = w.controller.resumeAfterCall
  rw [hc]

theorem keeps_callMemory_stop : Keeps World.callMemory stop := by
  unfold stop
  refine Keeps.bind keeps_callMemory_teardown fun _ =>
    Keeps.bind keeps_callMemory_controller fun c => ?_
  refine Keeps.bind (keeps_callMemory_setState _) fun _ =>
    Keeps.bind (keeps_callMemory_modifyController fun _ => rfl) fun _ =>
    Keeps.bind (keeps_modify fun _ => rfl) fun _ => ?_
  split
  · exact keeps_callMemory_emitMove _
  · exact keeps_pure _ _

theorem keeps_callMemory_openTrack (track : TrackId) :
    Keeps World.callMemory (openTrack track).run := fun w => by
  obtain ⟨h, -⟩ := openTrack_loads track w
  exact congrArg (fun x => x.1.resumeAfterCall) h

theorem keeps_callMemory_adoptSession (paused : Bool) (q : PlayQueue) (track : TrackId)
    (s : Session) : Keeps World.callMemory (adoptSession paused q track s) :=
  Keeps.bind (keeps_callMemory_log _ _ _ _) fun _ =>
    Keeps.bind (keeps_callMemory_modifyController fun _ => rfl) fun _ =>
    keeps_callMemory_setState _

theorem keeps_callMemory_skipUnopenable (q : PlayQueue) (track : TrackId) (e : PlaybackError) :
    Keeps World.callMemory (skipUnopenable q track e) := by
  unfold skipUnopenable
  refine Keeps.bind (keeps_callMemory_log _ _ _ _) fun _ => ?_
  extract_lets next skip
  have hskip : ∀ u, Keeps World.callMemory (skip u) := by
    intro u
    dsimp only [skip]
    split
    · exact Keeps.bind keeps_callMemory_stop fun _ =>
        Keeps.bind (keeps_callMemory_selectPosition _) fun _ => keeps_pure _ _
    · exact Keeps.bind (keeps_callMemory_selectPosition _) fun _ => keeps_pure _ _
  clear_value skip
  split
  · exact Keeps.bind (keeps_callMemory_emitDownload _) hskip
  · exact hskip ()

theorem keeps_callMemory_loadFromSelected (paused : Bool) (fuel : Nat) :
    Keeps World.callMemory (loadFromSelected paused fuel) := by
  induction fuel with
  | zero => exact Keeps.bind keeps_callMemory_stop fun _ => keeps_pure _ _
  | succ fuel ih =>
    unfold loadFromSelected
    refine Keeps.bind keeps_callMemory_queue fun q => ?_
    split
    · exact Keeps.bind keeps_callMemory_stop fun _ => keeps_pure _ _
    · rename_i track _
      refine Keeps.bind (keeps_callMemory_openTrack track) fun r => ?_
      split
      · exact Keeps.bind (keeps_callMemory_adoptSession _ _ _ _) fun _ => keeps_pure _ _
      · refine Keeps.bind (keeps_callMemory_skipUnopenable _ _ _) fun more => ?_
        split
        · exact ih
        · exact keeps_pure _ _

theorem keeps_callMemory_startPlayback (paused : Bool) :
    Keeps World.callMemory (startPlayback paused) :=
  Keeps.bind keeps_callMemory_teardown fun _ => Keeps.bind keeps_callMemory_queue fun _ =>
    keeps_callMemory_loadFromSelected paused _

theorem keeps_callMemory_prefetch : Keeps World.callMemory prefetch :=
  prefetch_keeps.callMemory_of_actor

theorem keeps_callMemory_emitPlay : Keeps World.callMemory emitPlay :=
  emitPlay_keeps.actor_of_engine.callMemory_of_actor

theorem keeps_callMemory_seek (ms : Nat) : Keeps World.callMemory (seek ms) :=
  (seek_keeps ms).actor_of_engine.callMemory_of_actor

theorem keeps_callMemory_tell : Keeps World.callMemory tell := tell_keeps.of_id _

theorem keeps_callMemory_jump (p : Int) : Keeps World.callMemory (jump p) := by
  unfold jump
  refine Keeps.inSpan (fun _ _ => rfl) ?_ _
  refine Keeps.bind keeps_callMemory_queue fun q => ?_
  split
  · exact keeps_pure _ _
  split
  · refine Keeps.bind keeps_callMemory_controller fun c => ?_
    extract_lets unselect
    have hunselect : ∀ u, Keeps World.callMemory (unselect u) := fun _ =>
      Keeps.bind (keeps_callMemory_selectPosition _) fun _ => keeps_pure _ _
    clear_value unselect
    split
    · exact Keeps.bind keeps_callMemory_stop hunselect
    · exact hunselect ()
  · refine Keeps.bind (keeps_callMemory_selectPosition _) fun _ =>
      Keeps.bind keeps_callMemory_queue fun q' => ?_
    extract_lets after load
    have hafter : ∀ u, Keeps World.callMemory (after u) := fun _ => keeps_callMemory_prefetch
    clear_value after
    have hload : ∀ u, Keeps World.callMemory (load u) := by
      intro u
      dsimp only [load]
      refine Keeps.bind keeps_callMemory_controller fun c => ?_
      refine Keeps.bind (keeps_callMemory_startPlayback _) fun loaded => ?_
      split
      · exact Keeps.bind (keeps_callMemory_emitMove _) hafter
      · exact hafter ()
    clear_value load
    split
    · exact Keeps.bind (keeps_callMemory_emitMove _) hload
    · exact hload ()

theorem keeps_callMemory_next : Keeps World.callMemory next := by
  unfold next
  refine Keeps.bind keeps_callMemory_queue fun q => ?_
  extract_lets n
  split
  · exact keeps_callMemory_jump _
  · exact Keeps.bind keeps_callMemory_stop fun _ => keeps_callMemory_selectPosition _

theorem keeps_callMemory_skipCurrent : Keeps World.callMemory skipCurrent := by
  unfold skipCurrent
  refine Keeps.bind keeps_callMemory_controller fun c => ?_
  extract_lets after
  have hafter : ∀ u, Keeps World.callMemory (after u) := fun _ => keeps_callMemory_next
  clear_value after
  split
  · refine Keeps.bind (keeps_callMemory_modifyController fun _ => rfl) fun _ => ?_
    refine Keeps.bind (keeps_callMemory_decoderCall _) fun r => ?_
    split
    · exact hafter ()
    · exact Keeps.bind (keeps_callMemory_log _ _ _ _) hafter
  · exact hafter ()

theorem keeps_callMemory_unpause : Keeps World.callMemory unpause := by
  unfold unpause
  refine Keeps.bind keeps_callMemory_controller fun c => ?_
  split
  · exact keeps_pure _ _
  extract_lets resumed
  have hresumed : ∀ u, Keeps World.callMemory (resumed u) := fun _ =>
    Keeps.bind (keeps_callMemory_modifyController fun _ => rfl) fun _ =>
      keeps_callMemory_emitMove _
  clear_value resumed
  split
  · refine Keeps.bind (keeps_callMemory_decoderCall _) fun r => ?_
    split
    · exact Keeps.bind (keeps_callMemory_log _ _ _ _) fun _ =>
        Keeps.bind keeps_callMemory_skipCurrent fun _ => keeps_pure _ _
    · exact Keeps.bind (keeps_callMemory_setState _) hresumed
  · exact Keeps.bind (keeps_callMemory_setState _) hresumed
  · refine Keeps.bind (keeps_callMemory_startPlayback _) fun loaded => ?_
    split
    · exact keeps_pure _ _
    · exact hresumed ()

theorem keeps_callMemory_play : Keeps World.callMemory play := by
  unfold play
  refine Keeps.bind keeps_callMemory_controller fun c => ?_
  split
  · exact keeps_callMemory_unpause
  · exact keeps_pure _ _
  · exact keeps_pure _ _
  · refine Keeps.bind keeps_callMemory_queue fun q => ?_
    extract_lets start
    have hstart : ∀ u, Keeps World.callMemory (start u) := by
      intro u
      dsimp only [start]
      refine Keeps.bind (keeps_callMemory_startPlayback _) fun loaded => ?_
      split
      · exact keeps_callMemory_emitPlay
      · exact keeps_pure _ _
    clear_value start
    split
    · split
      · exact keeps_pure _ _
      · exact Keeps.bind (keeps_callMemory_selectPosition _) hstart
    · exact hstart ()

theorem keeps_callMemory_pause : Keeps World.callMemory pause := by
  unfold pause
  refine Keeps.bind keeps_callMemory_controller fun c => ?_
  split
  · refine Keeps.bind (keeps_callMemory_decoderCall _) fun r => ?_
    extract_lets paused
    have hpaused : ∀ u, Keeps World.callMemory (paused u) := fun _ =>
      Keeps.bind keeps_callMemory_tell fun _ =>
        Keeps.bind (keeps_callMemory_setState _) fun _ => keeps_callMemory_emitMove _
    clear_value paused
    split
    · exact Keeps.bind (keeps_callMemory_log _ _ _ _) hpaused
    · exact hpaused ()
  · exact Keeps.bind (keeps_callMemory_setState _) fun _ => keeps_callMemory_emitMove _
  · exact keeps_pure _ _
  · exact keeps_pure _ _

theorem keeps_callMemory_previous : Keeps World.callMemory previous := by
  unfold previous
  refine Keeps.bind keeps_callMemory_queue fun q => ?_
  split
  · exact Keeps.bind keeps_callMemory_stop fun _ =>
      Keeps.bind (keeps_callMemory_selectPosition _) fun _ => keeps_pure _ _
  · refine Keeps.bind keeps_callMemory_controller fun c => ?_
    extract_lets target back
    have hback : ∀ u, Keeps World.callMemory (back u) := fun _ => keeps_callMemory_jump _
    clear_value back
    split
    · refine Keeps.bind keeps_callMemory_tell fun t => ?_
      extract_lets elapsed
      split
      · split
        · exact Keeps.bind (keeps_callMemory_seek _) fun _ => keeps_pure _ _
        · exact keeps_pure _ _
      · exact hback ()
    · exact hback ()

theorem keeps_callMemory_insert (track : TrackId) (p : Int) :
    Keeps World.callMemory (insert track p) := by
  unfold insert
  refine Keeps.bind keeps_callMemory_queue fun q => ?_
  split
  · exact keeps_pure _ _
  · refine Keeps.bind (keeps_callMemory_setQueue _) fun _ =>
      Keeps.bind (keeps_callMemory_emitChange _) fun _ =>
      Keeps.bind keeps_callMemory_controller fun c => ?_
    split
    · exact Keeps.bind (keeps_callMemory_selectPosition _) fun _ => keeps_callMemory_play
    · split
      · exact keeps_callMemory_prefetch
      · exact keeps_pure _ _

theorem keeps_callMemory_remove (p : Int) : Keeps World.callMemory (remove p) := by
  unfold remove
  refine Keeps.bind keeps_callMemory_queue fun q => ?_
  split
  · exact keeps_pure _ _
  · refine Keeps.bind keeps_callMemory_controller fun c => ?_
    extract_lets drop
    have hdrop : ∀ u, Keeps World.callMemory (drop u) := by
      intro u
      dsimp only [drop]
      refine Keeps.bind keeps_callMemory_queue fun q' => ?_
      split
      · exact Keeps.bind (keeps_callMemory_setQueue _) fun _ => keeps_callMemory_emitChange _
      · exact keeps_pure _ _
    clear_value drop
    split
    · exact Keeps.bind keeps_callMemory_stop hdrop
    · exact hdrop ()

theorem keeps_callMemory_moveSong (src dst : Int) : Keeps World.callMemory (moveSong src dst) := by
  unfold moveSong
  refine Keeps.bind keeps_callMemory_queue fun q => ?_
  split
  · exact keeps_pure _ _
  · refine Keeps.bind (keeps_callMemory_setQueue _) fun _ =>
      Keeps.bind (keeps_callMemory_emitChange _) fun _ => ?_
    split
    · exact keeps_callMemory_prefetch
    · exact keeps_pure _ _

theorem keeps_callMemory_clear : Keeps World.callMemory clear :=
  Keeps.bind keeps_callMemory_stop fun _ => Keeps.bind keeps_callMemory_queue fun _ =>
    Keeps.bind (keeps_callMemory_setQueue _) fun _ => keeps_callMemory_emitChange _

/-- No command touches the call memory. -/
theorem keeps_callMemory_apply (c : Command) : Keeps World.callMemory (apply c) := by
  cases c with
  | play => exact keeps_callMemory_play
  | pause => exact keeps_callMemory_pause
  | unpause => exact keeps_callMemory_unpause
  | stop => exact keeps_callMemory_stop
  | seek ms => exact keeps_callMemory_seek ms
  | next => exact keeps_callMemory_next
  | previous => exact keeps_callMemory_previous
  | jump p => exact keeps_callMemory_jump p
  | insert t p => exact keeps_callMemory_insert t p
  | prepend t => exact keeps_callMemory_insert t 0
  | append t => exact Keeps.bind keeps_callMemory_queue fun _ => keeps_callMemory_insert t _
  | insertNext t => exact Keeps.bind keeps_callMemory_queue fun _ => keeps_callMemory_insert t _
  | remove p => exact keeps_callMemory_remove p
  | move src dst => exact keeps_callMemory_moveSong src dst
  | clear => exact keeps_callMemory_clear

theorem keeps_callMemory_save : Keeps World.callMemory save := by
  unfold save
  refine Keeps.bind keeps_callMemory_controller fun c => ?_
  extract_lets write
  have hwrite : ∀ offset, Keeps World.callMemory (write offset) := by
    intro offset
    dsimp only [write]
    refine Keeps.bind (Persistence.save_keeps _ _).callMemory_of_actor fun r => ?_
    split
    · exact keeps_callMemory_modifyController fun _ => rfl
    · exact keeps_callMemory_log _ _ _ _
  clear_value write
  split
  · exact Keeps.bind keeps_callMemory_tell hwrite
  · exact Keeps.bind (keeps_pure _ _) hwrite

theorem keeps_callMemory_saveIfDirty : Keeps World.callMemory saveIfDirty := by
  unfold saveIfDirty
  refine Keeps.bind keeps_callMemory_controller fun c => ?_
  split
  · exact keeps_callMemory_save
  · exact keeps_pure _ _

theorem keeps_callMemory_handle {β : Type} {b : Act β} (h : Keeps World.callMemory b) :
    Keeps World.callMemory (handle b) :=
  Keeps.detached (fun _ _ => rfl)
    (Keeps.bind h fun _ => Keeps.bind keeps_callMemory_saveIfDirty fun _ => keeps_pure _ _)

theorem keeps_callMemory_restore (snap : Snapshot) : Keeps World.callMemory (restore snap) := by
  unfold restore
  refine Keeps.bind (keeps_callMemory_modifyController fun _ => rfl) fun _ =>
    Keeps.bind keeps_callMemory_queue fun q => ?_
  split
  · exact keeps_pure _ _
  · split
    · exact Keeps.bind (keeps_callMemory_modifyController fun _ => rfl) fun _ =>
        Keeps.bind (fun _ => rfl) fun _ => keeps_callMemory_log _ _ _ _
    · refine Keeps.bind (keeps_callMemory_startPlayback _) fun loaded => ?_
      split
      · exact keeps_callMemory_emitPlay
      · exact keeps_pure _ _

theorem keeps_callMemory_onDecoderEvent (e : DecoderEvent) :
    Keeps World.callMemory (onDecoderEvent e) := by
  unfold onDecoderEvent
  refine Keeps.bind keeps_callMemory_controller fun c => ?_
  split
  · exact keeps_pure _ _
  split
  · exact keeps_pure _ _
  extract_lets track skip
  have hskip : ∀ u, Keeps World.callMemory (skip u) := fun _ => keeps_callMemory_skipCurrent
  clear_value skip
  split
  · refine Keeps.bind (keeps_callMemory_modifyController fun _ => rfl) fun _ => ?_
    split
    · refine Keeps.bind (keeps_callMemory_decoderCall _) fun r => ?_
      split
      · exact Keeps.bind (keeps_callMemory_log _ _ _ _) fun _ => keeps_callMemory_skipCurrent
      · exact keeps_callMemory_setState _
    · exact keeps_pure _ _
  · exact Keeps.bind (keeps_callMemory_log _ _ _ _) fun _ => keeps_callMemory_skipCurrent
  · refine Keeps.bind (keeps_callMemory_log _ _ _ _) fun _ => Keeps.bind (keeps_get _) fun w => ?_
    split
    · split
      · exact Keeps.bind (keeps_callMemory_emitDownload _) hskip
      · exact hskip ()
    · exact hskip ()
  · exact keeps_callMemory_emitBuffer _ _

theorem keeps_callMemory_onDownloadEvent (e : DownloadEvent) :
    Keeps World.callMemory (onDownloadEvent e) := by
  unfold onDownloadEvent
  refine Keeps.bind (keeps_callMemory_emitDownload e) fun _ =>
    Keeps.bind keeps_callMemory_controller fun c => ?_
  extract_lets current fetch
  have hfetch : ∀ u, Keeps World.callMemory (fetch u) := fun _ => keeps_callMemory_prefetch
  clear_value fetch
  split
  · split
    · exact keeps_callMemory_emitBuffer _ _
    · exact keeps_pure _ _
  · split
    · exact Keeps.bind (keeps_callMemory_emitBuffer _ _) hfetch
    · exact hfetch ()
  · refine Keeps.bind (releaseFailed_keeps _).actor_of_engine.callMemory_of_actor fun _ => ?_
    split
    · exact Keeps.bind (keeps_callMemory_log _ _ _ _) fun _ => keeps_callMemory_skipCurrent
    · exact keeps_pure _ _
  · exact (releaseSuperseded_keeps _).actor_of_engine.callMemory_of_actor
  · exact keeps_pure _ _

/-- Pending work never touches the call memory. -/
theorem keeps_callMemory_settleOnce : Keeps World.callMemory settleOnce := by
  rw [keeps_iff]
  intro w
  refine settleOnce_holds (fun _ _ => ?_) (fun _ _ _ _ => ?_) (fun _ _ _ _ _ => ?_)
    (fun _ _ _ t _ => (Downloads.runTask_keeps t).callMemory_of_actor.holds fun _ _ h => h)
    (fun _ _ _ _ => rfl)
  · split
    · simp only [holds_detached]
      exact (keeps_callMemory_restore _).holds fun _ _ h => h
    · rfl
  · split
    · exact (keeps_callMemory_handle (keeps_callMemory_onDecoderEvent _)).holds fun _ _ h => h
    · rfl
  · split
    · exact (keeps_callMemory_handle (keeps_callMemory_onDownloadEvent _)).holds fun _ _ h => h
    · rfl

end Frame

/-! ## What a request leaves behind -/

section Request

variable {γ : Type} {v : World → γ}

/-- Saving keeps the play state: a save only clears the mark. -/
theorem saveIfDirty_keeps_state : Keeps (fun w => w.controller.state) saveIfDirty := by
  rw [keeps_iff]
  intro w
  simp only [saveIfDirty, holds_bind, holds_controller]
  split
  · refine (save_records w).mono ?_
    rintro _ w' ⟨_, _, hc⟩
    rcases hc with ⟨hc, _⟩ | ⟨hc, _⟩ <;> rw [hc]
  · rfl

/-- What a request leaves of a view that saving keeps: what its handler leaves, if the player
runs, and what there was, if the player has stopped and refuses it. -/
theorem holds_request_view {α : Type} {a : Act α} {w : World} {P : γ → Prop}
    (hv : ∀ w s, v { w with spans := s } = v w) (hsave : Keeps v saveIfDirty)
    (hstopped : w.running = false → P (v w))
    (ha : w.running = true → Holds a (fun _ w' => P (v w')) { w with spans := [] }) :
    Holds (request a) (fun _ w' => P (v w')) w := by
  simp only [request, holds_bind, holds_get]
  cases hrun : w.running with
  | false => exact hstopped hrun
  | true =>
    simp only [Bool.not_true, Bool.false_eq_true, ↓reduceIte, handle, holds_bind, holds_detached,
      holds_pure]
    refine (ha hrun).mono fun _ w₁ h₁ => hsave.holds fun _ w₂ h₂ => ?_
    rw [hv, h₂]
    exact h₁

end Request

/-! ## The rule of the memory -/

/-- Whether a step is a call that interrupts playback and finds the player playing: it pauses
the player and sets the memory. -/
def Occurrence.pausesForCall (o : Occurrence) (w : World) : Bool :=
  match o with
  | .signal (.call s) => s.interruptsPlayback && w.running && w.controller.state.isPlaying
  | _ => false

/-- Whether a step is the end of a call, taken by a running player: it clears the memory. -/
def Occurrence.endsCall (o : Occurrence) (w : World) : Bool :=
  match o with
  | .signal (.call .idle) => w.running
  | _ => false

theorem onCallState_callMemory (s : CallState) (w : World) :
    Holds (onCallState s) (fun _ w' => w'.callMemory =
      (s.interruptsPlayback && w.controller.state.isPlaying || w.callMemory && decide (s ≠ .idle))) w := by
  simp only [onCallState, holds_bind, holds_controller]
  split
  · rename_i hint
    have hidle : s ≠ .idle := by
      rintro rfl
      cases hint
    split
    · rename_i hplay
      simp only [holds_bind, holds_log]
      refine keeps_callMemory_pause.holds fun _ w₁ _ => ?_
      simp [World.callMemory, hint, hplay]
    · rename_i hplay
      simp [World.callMemory, hint, hplay, hidle]
  · rename_i hint
    split
    · rename_i hend
      simp only [Bool.and_eq_true, decide_eq_true_eq] at hend
      simp only [holds_bind, holds_log, holds_modifyController]
      refine keeps_callMemory_unpause.holds fun _ w₁ h₁ => ?_
      rw [h₁]
      simp [World.callMemory, CallState.interruptsPlayback, hend.1]
    · rename_i hend
      simp only [Bool.and_eq_true, decide_eq_true_eq, not_and] at hend
      cases hcm : w.controller.resumeAfterCall <;> by_cases hs : s = .idle <;>
        simp_all [World.callMemory]

/-- The one rule of the memory: a call that finds the player playing sets it, the end of a call
clears it, and every other step keeps it. -/
theorem stepOf_callMemory {o : Occurrence} {w w' : World} (h : StepOf o w w') :
    w'.callMemory = (o.pausesForCall w || w.callMemory && !o.endsCall w) := by
  -- a request the player keeps the memory through, or refuses
  have kept : ∀ {α : Type} {a : Act α}, Keeps World.callMemory a →
      ((request a).run w).2.callMemory = w.callMemory := fun ha =>
    holds_request_view (P := (· = w.callMemory)) (fun _ _ => rfl) keeps_callMemory_saveIfDirty
      (fun _ => rfl) (fun _ => ha.holds fun _ _ h => h)
  cases h with
  | command c _ =>
    simp only [Occurrence.pausesForCall, Occurrence.endsCall]
    simpa [command] using kept (keeps_callMemory_apply c)
  | query q _ =>
    simp only [Occurrence.pausesForCall, Occurrence.endsCall]
    simpa [query] using kept ((answer_keeps q).of_id _)
  | signal s _ =>
    cases s with
    | call s =>
      have hcall := holds_request_view (w := w) (v := World.callMemory)
        (P := (· = if w.running then
          (s.interruptsPlayback && w.controller.state.isPlaying || w.callMemory && decide (s ≠ .idle))
          else w.callMemory))
        (fun _ _ => rfl) keeps_callMemory_saveIfDirty (fun h => by simp [h])
        (fun h => (onCallState_callMemory s _).mono fun _ _ h' => by
          simp only [h, ↓reduceIte]
          exact h')
      change ((signal (.call s)).run w).2.callMemory = _ at hcall
      rw [hcall]
      cases hrun : w.running <;> cases s <;>
        simp [Occurrence.pausesForCall, Occurrence.endsCall, CallState.interruptsPlayback, hrun]
    | connectivityRestored =>
      simp only [Occurrence.pausesForCall, Occurrence.endsCall]
      simpa [signal, onSignal] using kept Downloads.resume_keeps.discard.callMemory_of_actor
  | work =>
    simp only [Occurrence.pausesForCall, Occurrence.endsCall]
    simpa using keeps_callMemory_settleOnce w
  | host hc _ =>
    simp only [Occurrence.pausesForCall, Occurrence.endsCall, World.callMemory, hc]
    simp

/-! ## The memory along a course -/

/-- A player starts with nothing to resume. -/
theorem spawn_forgets_calls (s : Setup) (w : World) :
    Holds (spawn s) (fun r w' => r = .ok () → w'.callMemory = false) w := by
  simp only [spawn, holds_bind, holds_modify]
  refine holds_of_forall fun r w₁ => ?_
  cases r with
  | error e =>
    intro h
    cases h
  | ok recovered =>
    simp only [holds_bind, holds_modify, holds_log, holds_modifyController, holds_pure]
    intro _
    rfl

/-- Some step of a course paused the player for a call, and no call has ended since. -/
def CallPending (steps : List Passage) : Prop :=
  ∃ newer x older, steps = newer ++ x :: older ∧ x.what.pausesForCall x.before = true ∧
    ∀ z ∈ newer, z.what.endsCall z.before = false

theorem not_callPending_nil : ¬CallPending [] := by
  rintro ⟨newer, x, older, h, -⟩
  simp at h

theorem callPending_cons (x : Passage) (steps : List Passage) :
    CallPending (x :: steps) ↔ x.what.pausesForCall x.before = true ∨
      (CallPending steps ∧ x.what.endsCall x.before = false) := by
  constructor
  · rintro ⟨newer, y, older, h, hy, hnewer⟩
    cases newer with
    | nil =>
      obtain ⟨rfl, -⟩ := List.cons.inj h
      exact Or.inl hy
    | cons z newer =>
      obtain ⟨rfl, hsteps⟩ := List.cons.inj h
      exact Or.inr ⟨⟨newer, y, older, hsteps, hy, fun z hz => hnewer z (List.mem_cons_of_mem _ hz)⟩,
        hnewer _ List.mem_cons_self⟩
  · rintro (hx | ⟨⟨newer, y, older, h, hy, hnewer⟩, hx⟩)
    · exact ⟨[], x, steps, rfl, hx, by simp⟩
    · refine ⟨x :: newer, y, older, by rw [h]; rfl, hy, ?_⟩
      intro z hz
      rcases List.mem_cons.mp hz with rfl | hz
      · exact hx
      · exact hnewer z hz

/-- Along a course the memory is set exactly when some call paused the player and no call has
ended since. -/
theorem callMemory_iff_call_paused {steps : List Passage} {w : World} (h : Course steps w) :
    w.callMemory = true ↔ CallPending steps := by
  induction h with
  | start w s hs =>
    rw [spawn_forgets_calls s w hs]
    simp [not_callPending_nil]
  | step _ hs ih =>
    rw [stepOf_callMemory hs, callPending_cons, ← ih]
    simp

/-! ## A call's pause and a call's end -/

/-- A pause from playing or preparing leaves the player paused, announced with its position,
which is `0` from preparing; from paused or stopped it does nothing. -/
theorem pause_announces (w : World) :
    Holds pause (fun _ w' => if w.controller.state.isPlaying then
        w'.controller.state = .paused ∧ w'.controller.queue = w.controller.queue ∧
        ∃ ms, Announced [.pause ms] [] w w' ∧ (w.controller.state = .preparing → ms = 0)
      else w' = w) w := by
  simp only [pause, holds_bind, holds_controller]
  split
  · rename_i hs
    simp only [hs, PlayState.isPlaying, ↓reduceIte]
    -- whatever the decoder answered, the pause goes on from the same controller and hub
    have tail : ∀ w₁ : World, w₁.controller = w.controller → w₁.hub = w.hub →
        Holds (do let p ← tell; setState .paused; emitMove (.pause p))
          (fun _ w' => w'.controller.state = .paused ∧ w'.controller.queue = w.controller.queue ∧
            ∃ ms, Announced [.pause ms] [] w w' ∧ (PlayState.playing = .preparing → ms = 0)) w₁ := by
      intro w₁ hc hhub
      rw [holds_bind]
      refine tell_keeps.holds fun p w₂ h₂ => ?_
      change w₂ = w₁ at h₂
      subst h₂
      simp only [holds_bind, holds_setState, hc, hs, ne_eq, reduceCtorEq, not_false_eq_true,
        ↓reduceIte, holds_emitMove]
      exact ⟨trivial, trivial, p, ⟨by simp [hhub], by simp [hhub]⟩, by simp⟩
    rw [holds_bind, holds_decoderCall]
    split
    · rw [holds_bind, holds_log]
      exact tail _ rfl rfl
    · exact tail _ rfl rfl
  · rename_i hs
    simp only [hs, PlayState.isPlaying, ↓reduceIte, holds_bind, holds_setState, ne_eq, reduceCtorEq,
      not_false_eq_true, holds_emitMove]
    exact ⟨trivial, trivial, 0, ⟨by simp, by simp⟩, fun _ => rfl⟩
  · rename_i hs
    simp [hs, PlayState.isPlaying]
  · rename_i hs
    simp [hs, PlayState.isPlaying]

/-- A call that interrupts playback and finds the player playing leaves it paused. -/
theorem onCallState_pauses {s : CallState} {w : World} (hs : s.interruptsPlayback = true)
    (hp : w.controller.state.isPlaying = true) :
    Holds (onCallState s) (fun _ w' => w'.controller.state = .paused) w := by
  simp only [onCallState, holds_bind, holds_controller, hs, hp, ↓reduceIte, holds_log]
  refine (pause_announces _).mono fun _ w₁ h₁ => ?_
  simp only [hp, ↓reduceIte] at h₁
  rw [holds_modifyController]
  exact h₁.1

/-- The end of a call, when the memory is clear, leaves the play state as it was. -/
theorem onCallState_idle_forgotten {w : World} (hm : w.callMemory = false) :
    Holds (onCallState .idle) (fun _ w' => w'.controller.state = w.controller.state) w := by
  simp only [World.callMemory] at hm
  simp [onCallState, CallState.interruptsPlayback, hm]

/-- A step that pauses the player for a call leaves it paused. -/
theorem stepOf_pausesForCall {o : Occurrence} {w w' : World} (h : StepOf o w w')
    (hp : o.pausesForCall w = true) : w'.controller.state = .paused := by
  cases h with
  | signal s _ =>
    cases s with
    | call s =>
      simp only [Occurrence.pausesForCall, Bool.and_eq_true] at hp
      obtain ⟨⟨hint, hrun⟩, hplay⟩ := hp
      exact holds_request_view (v := fun w => w.controller.state) (P := (· = .paused))
        (fun _ _ => rfl) saveIfDirty_keeps_state (fun h => absurd hrun (by simp [h]))
        (fun _ => onCallState_pauses hint hplay)
    | connectivityRestored => simp [Occurrence.pausesForCall] at hp
  | command => simp [Occurrence.pausesForCall] at hp
  | query => simp [Occurrence.pausesForCall] at hp
  | work => simp [Occurrence.pausesForCall] at hp
  | host => simp [Occurrence.pausesForCall] at hp

/-- The end of a call, when the memory is clear, leaves the play state as it was. -/
theorem stepOf_call_end_forgotten {w w' : World} (h : StepOf (.signal (.call .idle)) w w')
    (hm : w.callMemory = false) : w'.controller.state = w.controller.state := by
  cases h with
  | signal _ _ =>
    exact holds_request_view (v := fun w => w.controller.state) (P := (· = w.controller.state))
      (fun _ _ => rfl) saveIfDirty_keeps_state (fun _ => rfl)
      (fun _ => onCallState_idle_forgotten hm)

/-- The end of a call resumes a paused player only if a call paused it before, with no call
ended since. -/
theorem call_end_resumes_only_after_call_pause {newer older : List Passage} {x : Passage}
    {w : World} (h : Course (newer ++ x :: older) w) (hidle : x.what = .signal (.call .idle))
    (hpaused : x.before.controller.state = .paused) (hresumed : x.after.controller.state ≠ .paused) :
    ∃ mid y earlier, older = mid ++ y :: earlier ∧ y.what.pausesForCall y.before = true ∧
      y.after.controller.state = .paused ∧ ∀ z ∈ mid, z.what.endsCall z.before = false := by
  obtain ⟨hold, hx⟩ := h.earlier
  rw [hidle] at hx
  -- with the memory clear, the call's end would have left the pause as it was
  have hmem : x.before.callMemory = true := by
    cases hm : x.before.callMemory with
    | false => exact absurd ((stepOf_call_end_forgotten hx hm).trans hpaused) hresumed
    | true => rfl
  obtain ⟨mid, y, earlier, rfl, hy, hmid⟩ := (callMemory_iff_call_paused hold).mp hmem
  exact ⟨mid, y, earlier, rfl, hy, stepOf_pausesForCall hold.earlier.2 hy, hmid⟩

/-- The player on the two-song host, started. -/
def twoSongPlayer : World := ((spawn eagerSetup).run twoSongHost).2

/-- The first song appended: the player prepares it. -/
def firstQueued : World := ((command (.append 1)).run twoSongPlayer).2

/-- A call answered while the first song prepares. -/
def callTaken : World := ((signal (.call .offHook)).run firstQueued).2

/-- The end of that call. -/
def callOver : World := ((signal (.call .idle)).run callTaken).2

/-- The player resumed by hand during the call. -/
def resumedByHand : World := ((command .unpause).run callTaken).2

/-- The player paused by hand again, still during the call. -/
def pausedByHand : World := ((command .pause).run resumedByHand).2

/-- The call scenario run once: the player starts, every world of it takes messages, and the
play state goes paused, then (by the call's end, or by hand and back) out of paused and in. -/
theorem callScenario_run :
    ((spawn eagerSetup).run twoSongHost).1 = .ok () ∧
      twoSongPlayer.controller.recovered = none ∧ firstQueued.controller.recovered = none ∧
      callTaken.controller.recovered = none ∧ callTaken.controller.state = .paused ∧
      callOver.controller.state ≠ .paused ∧
      resumedByHand.controller.recovered = none ∧ resumedByHand.controller.state ≠ .paused ∧
      pausedByHand.controller.recovered = none ∧ pausedByHand.controller.state = .paused ∧
      ((signal (.call .idle)).run pausedByHand).2.controller.state ≠ .paused := by
  -- one evaluation, so that the kernel shares the worlds the facts have in common
  decide +kernel

theorem callTaken_course :
    Course [⟨firstQueued, .signal (.call .offHook), callTaken⟩,
      ⟨twoSongPlayer, .command (.append 1), firstQueued⟩] callTaken := by
  obtain ⟨hspawn, hlive₀, hlive₁, -⟩ := callScenario_run
  exact .step (.step (.start twoSongHost eagerSetup hspawn) (.command _ hlive₀)) (.signal _ hlive₁)

theorem call_end_resumes_taken_call :
    callTaken.controller.state = .paused ∧ callOver.controller.state ≠ .paused ∧
      ∃ (mid : List Passage) (y : Passage) (earlier : List Passage),
        [⟨firstQueued, .signal (.call .offHook), callTaken⟩,
          ⟨twoSongPlayer, .command (.append 1), firstQueued⟩] = mid ++ y :: earlier ∧
        y.what.pausesForCall y.before = true ∧ y.after.controller.state = .paused ∧
        ∀ z ∈ mid, z.what.endsCall z.before = false := by
  obtain ⟨-, -, -, hlive, hpaused, hresumed, -⟩ := callScenario_run
  exact ⟨hpaused, hresumed, @call_end_resumes_only_after_call_pause [] _ _ _
    (.step callTaken_course (.signal _ hlive)) rfl hpaused hresumed⟩

/-- A pause asked for after the call began, even after the player was resumed by hand, is undone
by the call's end. -/
theorem call_end_undoes_later_pause :
    ∃ (x y : Passage) (older : List Passage) (w : World), Course (x :: y :: older) w ∧
      y.what = .command .pause ∧ y.before.controller.state ≠ .paused ∧
      y.after.controller.state = .paused ∧ x.what = .signal (.call .idle) ∧
      x.after.controller.state ≠ .paused := by
  obtain ⟨-, -, -, hlive₂, -, -, hlive₃, hresumed, hlive₄, hpaused, hover⟩ := callScenario_run
  exact ⟨⟨pausedByHand, .signal (.call .idle), ((signal (.call .idle)).run pausedByHand).2⟩,
    ⟨resumedByHand, .command .pause, pausedByHand⟩, _, _,
    .step (.step (.step callTaken_course (.command .unpause hlive₂)) (.command .pause hlive₃))
      (.signal (.call .idle) hlive₄),
    rfl, hresumed, hpaused, rfl, hover⟩

end Player

end PlaybackEngine
