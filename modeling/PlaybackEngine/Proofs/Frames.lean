import PlaybackEngine.Proofs.Hoare
import PlaybackEngine.Cache.Store
import PlaybackEngine.Download.Transfer
import PlaybackEngine.Player.Controls

set_option autoImplicit false

/-!
# What operations leave alone

The cache store works on the volume, the catalog, its own allocations, the clock and the log; the
download manager also on its records, its notices and the transport. Neither touches the hub,
the player or the decoder. Each frame lemma here states the widest view its operation leaves as
it was (`World.outsideCache`, `World.outsideDownloads`, `World.outsideLoading`); the narrower
views other proofs use (`World.engine`, `World.actor`, the hub's channels) are read off them.
-/

namespace PlaybackEngine

/-- What the download manager never touches: the hub, the player's own state and what it
published, the decoder and its callbacks, whether the player runs, and the next session
number. -/
def World.outsideDownloads (w : World) :
    Hub × Controller × PlayState × List PlayState × Decoder × List DecoderEvent × Bool × Nat :=
  (w.hub, w.controller, w.published, w.stateChanges, w.decoder, w.decoderEvents, w.running,
    w.nextSession)

/-- What the cache store never touches: what the download manager leaves alone, the manager
itself and the notices it sent. -/
def World.outsideCache (w : World) :
    (Hub × Controller × PlayState × List PlayState × Decoder × List DecoderEvent × Bool × Nat) ×
      Manager × Notices :=
  (w.outsideDownloads, w.manager, w.notices)

/-- What loading a song never touches: the player's own state and what it published, the
decoder's callbacks, whether the player runs, and the hub's channels other than the buffered
share's. -/
def World.outsideLoading (w : World) :
    Controller × PlayState × List PlayState × List DecoderEvent × Bool × Channel MoveEvent ×
      Channel ChangeEvent × Channel DownloadEvent × Table TransferProgress :=
  (w.controller, w.published, w.stateChanges, w.decoderEvents, w.running, w.hub.moves,
    w.hub.changes, w.hub.downloads, w.hub.transfers)

section Views

variable {α : Type} {a : Act α}

theorem Keeps.outsideDownloads (h : Keeps World.outsideCache a) :
    Keeps World.outsideDownloads a :=
  fun w => congrArg Prod.fst (h w)

theorem Keeps.engine_of_outsideCache (h : Keeps World.outsideCache a) : Keeps World.engine a := by
  intro w
  have hw := h w
  simp only [World.outsideCache, World.outsideDownloads, Prod.mk.injEq] at hw
  simp only [World.engine, World.actor, hw]

theorem Keeps.outsideLoading (h : Keeps World.outsideDownloads a) :
    Keeps World.outsideLoading a := by
  intro w
  have hw := h w
  simp only [World.outsideDownloads, Prod.mk.injEq] at hw
  simp only [World.outsideLoading, hw]

theorem World.actor_eq_of_outsideLoading {w w' : World} (h : w'.outsideLoading = w.outsideLoading) :
    w'.actor = w.actor := by
  simp only [World.outsideLoading, Prod.mk.injEq] at h
  simp only [World.actor, h]

theorem Keeps.actor_of_outsideLoading (h : Keeps World.outsideLoading a) : Keeps World.actor a :=
  fun w => World.actor_eq_of_outsideLoading (h w)

theorem Keeps.actor_of_outsideDownloads (h : Keeps World.outsideDownloads a) :
    Keeps World.actor a :=
  h.outsideLoading.actor_of_outsideLoading

end Views

end PlaybackEngine

namespace PlaybackEngine.Cache

open World

theorem committedPath_outside (t : TrackInfo) : Keeps World.outsideCache (committedPath t).run := by
  rw [keeps_iff]
  intro w
  simp only [committedPath]
  split
  · rfl
  · simp only [holds_attempt_bind, holds_fileLen]
    rcases w.volume.fileLen _ with _ | (_ | _)
    · exact trivial
    · rfl
    · rfl

theorem committedPath_keeps (t : TrackInfo) : Keeps World.engine (committedPath t).run :=
  (committedPath_outside t).engine_of_outsideCache

theorem availableBytes_keeps : Keeps World.outsideCache availableBytes.run := by
  rw [keeps_iff]
  intro w
  simp only [availableBytes, holds_attempt_bind, holds_attempt_get]
  split <;> rfl

theorem partialLength_outside (path : String) : Keeps World.outsideCache (partialLength path).run := by
  rw [keeps_iff]
  intro w
  simp only [partialLength, holds_attempt_bind, holds_fileLen]
  rcases w.volume.fileLen _ with _ | _
  · exact trivial
  · rfl

theorem partialLength_keeps (path : String) : Keeps World.engine (partialLength path).run :=
  (partialLength_outside path).engine_of_outsideCache

theorem evictEntry_keeps (e : CachedContent) : Keeps World.outsideCache (evictEntry e).run := by
  rw [keeps_iff]
  intro w
  simp only [evictEntry, holds_attempt_bind, holds_attempt_get]
  split
  · rfl
  · simp only [holds_attempt_bind, holds_liftM, holds_log, holds_attempt_modify]
    split <;> rfl

theorem evictCandidates_keeps (k : CacheKey) (needed requested : Nat) (inFlight : List CacheKey)
    (es : List CachedContent) (evicted free : Nat) :
    Keeps World.outsideCache (evictCandidates k needed requested inFlight es evicted free).run := by
  induction es generalizing evicted free with
  | nil =>
    simp only [evictCandidates]
    exact Keeps.attemptBind ((keeps_log (fun _ _ => rfl) _ _ _ _).liftM)
      fun _ => keeps_throw _ _
  | cons e es ih =>
    simp only [evictCandidates]
    split
    · exact ih _ _
    · refine Keeps.attemptBind (evictEntry_keeps e) fun _ => ?_
      refine Keeps.attemptBind availableBytes_keeps fun free => ?_
      split
      · exact (keeps_log (fun _ _ => rfl) _ _ _ _).liftM
      · exact ih _ _

theorem evictFor_keeps (k : CacheKey) (requested free : Nat) :
    Keeps World.outsideCache (evictFor k requested free).run := by
  rw [keeps_iff]
  intro w
  simp only [evictFor, settings, holds_attempt_bind, holds_liftM, holds_bind, holds_get,
    holds_pure]
  split
  · rfl
  · simp only [holds_attempt_bind, holds_liftM, holds_log, holds_attempt_get]
    split
    · exact (evictCandidates_keeps _ _ _ _ _ _ _).holds fun _ _ h => h
    · exact (evictCandidates_keeps _ _ _ _ _ _ _).holds fun _ _ h => h

theorem requestStorage_outside (t : TrackInfo) :
    Keeps World.outsideCache (requestStorage t).run := by
  simp only [requestStorage, attemptInSpan_run]
  refine Keeps.inSpan (fun _ _ => rfl) ?_ _
  refine Keeps.attemptBind (Keeps.liftM fun _ => rfl) fun s => ?_
  split
  · refine Keeps.attemptBind (keeps_attemptPure _ _) fun path => ?_
    refine Keeps.attemptBind availableBytes_keeps fun free => ?_
    refine Keeps.attemptBind (keeps_fileLen _ _) fun len => ?_
    refine Keeps.attemptBind (evictFor_keeps _ _ _) fun _ => ?_
    have allocate : Keeps World.outsideCache (do
        modify fun w => { w with store := w.store.allocate t.key ⟨path, t.size⟩ }
        pure path : Attempt String).run :=
      Keeps.attemptBind (keeps_attemptModify fun _ => rfl) fun _ => keeps_attemptPure _ _
    split
    · exact Keeps.attemptBind (keeps_attemptModify fun _ => rfl) fun _ => allocate
    · exact allocate
  · exact keeps_throw_bind _ _ _

theorem requestStorage_keeps (t : TrackInfo) : Keeps World.engine (requestStorage t).run :=
  (requestStorage_outside t).engine_of_outsideCache

theorem commitStorage_outside (k : CacheKey) (path : String) (expected : Nat) :
    Keeps World.outsideCache (commitStorage k path expected).run := by
  simp only [commitStorage, attemptInSpan_run]
  refine Keeps.inSpan (fun _ _ => rfl) ?_ _
  refine Keeps.attemptBind (keeps_fileLen _ _) fun len => ?_
  have commit : Keeps World.outsideCache (do
      let at_ ← liftM readClock
      modify fun w => { w with catalog := w.catalog.markCached k path at_,
                               store := (w.store.endAllocation k).2 }
      liftM (log .info storeTarget "Committed cache entry"
        [("entry", k.display), ("bytes", toString (len.getD 0))]) : Attempt Unit).run :=
    Keeps.attemptBind (Keeps.liftM fun _ => rfl) fun _ =>
      Keeps.attemptBind (keeps_attemptModify fun _ => rfl) fun _ =>
        (keeps_log (fun _ _ => rfl) _ _ _ _).liftM
  split
  · exact Keeps.attemptBind ((keeps_log (fun _ _ => rfl) _ _ _ _).liftM) fun _ =>
      keeps_throw_bind _ _ _
  · exact commit

theorem commitStorage_keeps (k : CacheKey) (path : String) (expected : Nat) :
    Keeps World.engine (commitStorage k path expected).run :=
  (commitStorage_outside k path expected).engine_of_outsideCache

theorem releaseStorage_keeps (k : CacheKey) (path : String) :
    Keeps World.outsideCache (releaseStorage k path).run := by
  rw [keeps_iff]
  intro w
  simp only [releaseStorage, attemptInSpan_run, holds_inSpan, holds_attempt_bind,
    holds_attempt_modify, holds_attempt_get]
  split
  · simp only [holds_changeVolume]
    split <;> rfl
  · rfl

end PlaybackEngine.Cache

namespace PlaybackEngine.Downloads

theorem update_keeps (track : TrackId) (n : Nat) (f : Download → Download) :
    Keeps World.outsideDownloads (update track n f) := by
  rw [keeps_iff]
  intro w
  simp only [update, holds_bind, holds_get]
  split <;> rfl

theorem abort_keeps (track : TrackId) (n : Nat) : Keeps World.outsideDownloads (abort track n) := by
  rw [keeps_iff]
  intro w
  simp only [abort, holds_bind, holds_get]
  split
  · split
    · simp only [holds_bind, holds_discard, holds_pure]
      refine (update_keeps _ _ _).holds fun _ w₁ h₁ => ?_
      simp only [holds_bind, holds_modify, holds_log, holds_notify, ite_true]
      split <;> exact h₁
    · rfl
  · rfl

theorem stopAll_outside : Keeps World.outsideDownloads stopAll := by
  rw [keeps_iff]
  intro w
  simp only [stopAll, holds_bind, holds_get]
  split
  · exact (abort_keeps _ _).holds fun _ _ h => h
  · rfl

theorem stopAll_keeps : Keeps World.actor stopAll := stopAll_outside.actor_of_outsideDownloads

theorem start_outside (req : DownloadRequest) : Keeps World.outsideDownloads (start req) := by
  rw [keeps_iff]
  intro w
  simp only [start, holds_inSpan, holds_bind]
  refine stopAll_outside.holds fun _ w₁ h₁ => ?_
  simp only [holds_get, holds_set, holds_notify, holds_modify, holds_log, holds_pure]
  split <;> exact h₁

theorem start_keeps (req : DownloadRequest) : Keeps World.actor (start req) :=
  (start_outside req).actor_of_outsideDownloads

theorem abortPaused_keeps (track : TrackId) : Keeps World.outsideDownloads (abortPaused track) := by
  rw [keeps_iff]
  intro w
  simp only [abortPaused, holds_bind, holds_get]
  split
  · split
    · simp only [holds_bind, holds_set, holds_notify]
      rfl
    · rfl
  · rfl

theorem stop_keeps (track : TrackId) : Keeps World.actor (stop track) := by
  refine Keeps.actor_of_outsideDownloads ?_
  rw [keeps_iff]
  intro w
  simp only [stop, holds_inSpan, holds_bind, holds_get]
  split
  · split
    · simp only [holds_bind, holds_set]
      exact (abort_keeps _ _).holds fun _ _ h => h
    · exact (abortPaused_keeps _).holds fun _ _ h => h
  · exact (abortPaused_keeps _).holds fun _ _ h => h

theorem resume_outside : Keeps World.outsideDownloads resume := by
  rw [keeps_iff]
  intro w
  simp only [resume, holds_inSpan, holds_bind, holds_get]
  split
  · rfl
  · split
    · simp only [holds_bind, holds_log, holds_discard, holds_pure]
      exact (start_outside _).holds fun _ _ h => h
    · rfl

theorem resume_keeps : Keeps World.actor resume := resume_outside.actor_of_outsideDownloads

theorem writeFailure_keeps (m : String) : Keeps id (writeFailure m) := by
  rw [keeps_iff]
  intro w
  simp only [writeFailure, holds_bind, holds_get]
  split <;> rfl

theorem usableOffset_keeps (req : DownloadRequest) : Keeps id (usableOffset req).run := by
  rw [keeps_iff]
  intro w
  simp only [usableOffset]
  split
  · rfl
  · simp only [holds_attempt_bind, holds_attempt_get]
    split
    · rfl
    · split <;> rfl

theorem openBody_outside (req : DownloadRequest) (offset : Nat) :
    Keeps World.outsideCache (openBody req offset).run := by
  rw [keeps_iff]
  intro w
  simp only [openBody, holds_attempt_bind, holds_attempt_get, holds_attempt_set]
  split <;> rfl

theorem openBody_keeps (req : DownloadRequest) (offset : Nat) :
    Keeps World.engine (openBody req offset).run :=
  (openBody_outside req offset).engine_of_outsideCache

theorem commit_keeps (req : DownloadRequest) : Keeps World.outsideCache (commit req).run := by
  rw [keeps_iff]
  intro w
  simp only [commit, holds_attempt_bind, holds_liftM]
  refine (Cache.commitStorage_outside _ _ _).holds fun r w₁ h₁ => ?_
  split <;> exact h₁

theorem openWriter_outside (req : DownloadRequest) (offset : Nat) :
    Keeps World.outsideCache (openWriter req offset).run := by
  rw [keeps_iff]
  intro w
  simp only [openWriter, holds_attempt_bind, holds_attempt_get]
  split
  · rfl
  · simp only [holds_attempt_bind, holds_liftM]
    exact (writeFailure_keeps _).holds fun _ _ h => by subst h; rfl

theorem openWriter_keeps (req : DownloadRequest) (offset : Nat) :
    Keeps World.engine (openWriter req offset).run :=
  (openWriter_outside req offset).engine_of_outsideCache

theorem copyBody_keeps (n : Nat) (req : DownloadRequest) (chunk : Nat) (progress : Bool)
    (ending : BodyEnd) (remaining source written : Nat) :
    Keeps World.outsideDownloads
      (copyBody n req chunk progress ending remaining source written).run := by
  fun_induction copyBody n req chunk progress ending remaining source written with
  | case1 => exact keeps_attemptPure _ _
  | case2 => exact keeps_throw _ _
  | case3 => exact keeps_attemptPure _ _
  | case4 => exact keeps_throw_bind _ _ _
  | case5 remaining source written k _ _ ih =>
    rw [keeps_iff]
    intro w
    simp +zetaDelta only [holds_attempt_bind, holds_attempt_get]
    split
    · simp only [holds_attempt_bind, holds_liftM]
      exact (writeFailure_keeps _).holds fun _ _ h => by subst h; rfl
    · simp only [holds_attempt_bind, holds_attempt_set, holds_attempt_discard, holds_liftM, Except.map]
      refine (update_keeps _ _ _).holds fun _ w₁ h₁ => ?_
      split
      · simp only [holds_attempt_bind, holds_liftM, holds_notify]
        exact ih.holds fun _ _ h => h.trans h₁
      · exact ih.holds fun _ _ h => h.trans h₁

theorem finishBody_outside (req : DownloadRequest) (written : Nat) :
    Keeps World.outsideCache (finishBody req written).run := by
  unfold finishBody
  split
  · exact keeps_throw_bind _ _ _
  · exact commit_keeps req

theorem finishBody_keeps (req : DownloadRequest) (written : Nat) :
    Keeps World.engine (finishBody req written).run :=
  (finishBody_outside req written).engine_of_outsideCache

theorem runFromStart_keeps (n : Nat) (req : DownloadRequest) :
    Keeps World.outsideDownloads (runFromStart n req).run := by
  unfold runFromStart
  refine Keeps.attemptBind ((usableOffset_keeps req).of_id _) fun offset => ?_
  split
  · exact Keeps.attemptBind (commit_keeps req).outsideDownloads fun _ => keeps_attemptPure _ _
  refine Keeps.attemptBind (openBody_outside req offset).outsideDownloads fun resp => ?_
  -- the rest of the transfer, once the body and its offset are settled
  extract_lets tail
  have htail : ∀ x, Keeps World.outsideDownloads (tail x).run := by
    rintro ⟨resp, offset⟩
    dsimp -zeta only [tail]
    extract_lets body
    have hbody : ∀ u, Keeps World.outsideDownloads (body u).run := fun _ =>
      Keeps.attemptBind (openWriter_outside req offset).outsideDownloads fun _ =>
      Keeps.attemptBind (Keeps.attemptDiscard (Keeps.liftM (update_keeps _ _ _))) fun _ =>
      Keeps.attemptBind (keeps_attemptGet _) fun _ =>
      Keeps.attemptBind (copyBody_keeps _ _ _ _ _ _ _ _) fun stop => by
        cases stop
        · exact Keeps.attemptBind (finishBody_outside _ _).outsideDownloads fun _ =>
            keeps_attemptPure _ _
        · exact keeps_attemptPure _ _
    clear_value body
    split
    · split
      · exact Keeps.attemptBind (Keeps.liftM (keeps_log (fun _ _ => rfl) _ _ _ _)) hbody
      · exact hbody ()
    · exact hbody ()
  clear_value tail
  split
  · exact Keeps.attemptBind (keeps_attemptPure _ _) htail
  split
  · exact Keeps.attemptBind (keeps_attemptPure _ _) htail
  refine Keeps.attemptBind (openBody_outside req 0).outsideDownloads fun again => ?_
  extract_lets retry
  have hretry : ∀ u, Keeps World.outsideDownloads (retry u).run := fun _ =>
    Keeps.attemptBind (keeps_attemptPure _ _) htail
  clear_value retry
  split
  · exact keeps_throw_bind _ _ _
  · exact hretry ()

theorem runAfterStall_keeps (req : DownloadRequest) (written : Nat) :
    Keeps World.outsideDownloads (runAfterStall req written).run :=
  Keeps.attemptBind (finishBody_outside req written).outsideDownloads fun _ =>
    keeps_attemptPure _ _

theorem finish_keeps (n : Nat) (req : DownloadRequest) (r : Except TransferFailure Unit) :
    Keeps World.outsideDownloads (finish n req r) := by
  unfold finish
  extract_lets track announce
  have hannounce : ∀ e, Keeps World.outsideDownloads (announce e) := by
    intro e
    dsimp -zeta only [announce]
    split
    · exact Keeps.bind (keeps_modify fun _ => rfl) fun _ => keeps_modify fun _ => rfl
    · exact keeps_pure _ _
  clear_value announce
  split
  · refine Keeps.bind (update_keeps _ _ _) fun applied => ?_
    split
    · exact Keeps.bind (keeps_log (fun _ _ => rfl) _ _ _ _) fun _ =>
        Keeps.bind (keeps_pure _ _) hannounce
    · exact Keeps.bind (keeps_pure _ _) hannounce
  · refine Keeps.bind (update_keeps _ _ _) fun applied => ?_
    split
    · extract_lets fields logged
      have hlogged : ∀ u, Keeps World.outsideDownloads (logged u) := fun _ =>
        Keeps.bind (keeps_pure _ _) hannounce
      clear_value logged
      split
      · exact Keeps.bind (keeps_log (fun _ _ => rfl) _ _ _ _) hlogged
      · exact Keeps.bind (keeps_log (fun _ _ => rfl) _ _ _ _) hlogged
    · exact Keeps.bind (keeps_pure _ _) hannounce

theorem runTask_outside (t : TransferTask) : Keeps World.outsideDownloads (runTask t) := by
  unfold runTask
  refine Keeps.detached (fun _ _ => rfl) ?_
  extract_lets work settled
  have hwork : Keeps World.outsideDownloads work.run := by
    dsimp -zeta only [work]
    split
    · exact runAfterStall_keeps _ _
    · exact runFromStart_keeps _ _
  have hsettled : ∀ o, Keeps World.outsideDownloads (settled o) := by
    intro o
    dsimp -zeta only [settled]
    split
    · exact Keeps.bind (keeps_modify fun _ => rfl) fun _ => finish_keeps _ _ _
    · exact keeps_modify fun _ => rfl
  clear_value work settled
  refine Keeps.bind hwork fun r => ?_
  split <;> exact Keeps.bind (keeps_pure _ _) hsettled

theorem runTask_keeps (t : TransferTask) : Keeps World.actor (runTask t) :=
  (runTask_outside t).actor_of_outsideDownloads

end PlaybackEngine.Downloads

namespace PlaybackEngine

open World

@[simp] theorem Hub.emitBuffer_transfers (h : Hub) (track : TrackId) (percent : Nat) :
    (h.emitBuffer track percent).2.transfers = h.transfers := by
  simp only [Hub.emitBuffer]
  split <;> rfl

@[simp] theorem Hub.emitBuffer_moves (h : Hub) (track : TrackId) (percent : Nat) :
    (h.emitBuffer track percent).2.moves = h.moves := by
  simp only [Hub.emitBuffer]
  split <;> rfl

@[simp] theorem Hub.emitBuffer_changes (h : Hub) (track : TrackId) (percent : Nat) :
    (h.emitBuffer track percent).2.changes = h.changes := by
  simp only [Hub.emitBuffer]
  split <;> rfl

@[simp] theorem Hub.emitBuffer_downloads (h : Hub) (track : TrackId) (percent : Nat) :
    (h.emitBuffer track percent).2.downloads = h.downloads := by
  simp only [Hub.emitBuffer]
  split <;> rfl

theorem keeps_emitBuffer (track : TrackId) (percent : Nat) :
    Keeps World.outsideLoading (emitBuffer track percent) := fun w => by
  change World.outsideLoading { w with hub := (w.hub.emitBuffer track percent).2 } = w.outsideLoading
  simp only [World.outsideLoading, Hub.emitBuffer_transfers, Hub.emitBuffer_moves,
    Hub.emitBuffer_changes, Hub.emitBuffer_downloads]

theorem keeps_emitMove (e : MoveEvent) : Keeps World.engine (emitMove e) := fun _ => rfl

theorem keeps_decoderCall (f : Decoder → Except HostError Unit × Decoder) :
    Keeps World.engine (decoderCall f) := fun _ => rfl

end PlaybackEngine

namespace PlaybackEngine.Player

open World

theorem lookupTrack_keeps (track : TrackId) : Keeps id (lookupTrack track).run := by
  rw [keeps_iff]
  intro w
  simp only [lookupTrack, holds_attempt_bind, holds_attempt_get]
  split <;> rfl

theorem materialize_keeps (track : TrackId) : Keeps World.outsideLoading (materialize track).run := by
  unfold materialize
  refine Keeps.attemptBind ((lookupTrack_keeps track).of_id _) fun t => ?_
  refine Keeps.attemptBind (Cache.committedPath_outside t).outsideDownloads.outsideLoading
    fun cached => ?_
  split
  · exact Keeps.attemptBind (Keeps.liftM (keeps_emitBuffer _ _)) fun _ => keeps_attemptPure _ _
  refine Keeps.attemptBind (keeps_attemptGet _) fun w => ?_
  extract_lets active announce
  have hannounce : ∀ x, Keeps World.outsideLoading (announce x).run := by
    rintro ⟨path, percent⟩
    exact Keeps.attemptBind (Keeps.liftM (keeps_emitBuffer _ _)) fun _ => keeps_attemptPure _ _
  clear_value active announce
  cases active
  case some d => exact Keeps.attemptBind (keeps_attemptPure _ _) hannounce
  refine Keeps.attemptBind (Cache.requestStorage_outside t).outsideDownloads.outsideLoading
    fun path => ?_
  refine Keeps.attemptBind (Cache.partialLength_outside path).outsideDownloads.outsideLoading
    fun offset => ?_
  refine Keeps.attemptBind
    (Keeps.attemptDiscard (Keeps.liftM (Downloads.start_outside _).outsideLoading)) fun _ => ?_
  exact Keeps.attemptBind (keeps_attemptPure _ _) hannounce

/-- What opening a track does once its content is found: it draws a session number and hands
the source to the decoder, which may refuse it or refuse to prepare; only the decoder and the
session counter change. A failure to find the content ends the attempt there. -/
theorem openTrack_holds {track : TrackId} {Q : Except PlaybackError Session → World → Prop}
    {w : World}
    (h : Holds (materialize track).run (fun r w₁ =>
      (∀ e, r = .error e → Q (.error e) w₁) ∧
      ∀ t src, r = .ok (t, src) → ∀ d : Decoder,
        Q (.ok { id := w₁.nextSession, track, key := t.key, path := src.path, prepared := false })
          { w₁ with decoder := d, nextSession := w₁.nextSession + 1 } ∧
        ∀ m, Q (.error (.decode m)) { w₁ with decoder := d, nextSession := w₁.nextSession + 1 })
      w) :
    Holds (openTrack track).run Q w := by
  simp only [openTrack, holds_attempt_bind]
  refine h.mono fun r w₁ h₁ => ?_
  cases r with
  | error e => exact h₁.1 e rfl
  | ok p =>
    obtain ⟨t, src⟩ := p
    have hdecoder := h₁.2 t src rfl
    simp only [freshSession, holds_liftM, holds_bind, holds_get, holds_set, holds_pure,
      holds_decoderCall]
    split
    · simp only [holds_attempt_bind, holds_liftM, holds_decoderCall]
      split
      · exact (hdecoder _).1
      · exact (hdecoder _).2 _
    · exact (hdecoder _).2 _

/-- Opening a track loads a session that is not prepared yet, and leaves the player and the
hub's channels alone. -/
theorem openTrack_loads (track : TrackId) (w : World) :
    Holds (openTrack track).run
      (fun r w' => w'.outsideLoading = w.outsideLoading ∧ ∀ s, r = .ok s → s.prepared = false)
      w :=
  openTrack_holds ((materialize_keeps track).holds fun _ _ h₁ =>
    ⟨fun _ _ => ⟨h₁, fun _ h => (by cases h)⟩,
      fun _ _ _ _ => ⟨⟨h₁, fun _ h => (by cases h; rfl)⟩, fun _ => ⟨h₁, fun _ h => (by cases h)⟩⟩⟩)

/-- Opening a track loads a session that is not prepared yet, and leaves the player alone. -/
theorem openTrack_spec (track : TrackId) (w : World) :
    Holds (openTrack track).run
      (fun r w' => w'.actor = w.actor ∧ ∀ s, r = .ok s → s.prepared = false) w :=
  (openTrack_loads track w).mono fun _ _ h => ⟨World.actor_eq_of_outsideLoading h.1, h.2⟩

theorem prefetchTrack_keeps (track : TrackId) :
    Keeps World.outsideDownloads (prefetchTrack track).run := by
  unfold prefetchTrack
  refine Keeps.attemptBind ((lookupTrack_keeps track).of_id _) fun t => ?_
  refine Keeps.attemptBind (Cache.committedPath_outside t).outsideDownloads fun cached => ?_
  split
  · exact keeps_attemptPure _ _
  refine Keeps.attemptBind (Cache.requestStorage_outside t).outsideDownloads fun path => ?_
  refine Keeps.attemptBind (Cache.partialLength_outside path).outsideDownloads fun offset => ?_
  exact Keeps.attemptDiscard (Keeps.liftM (Downloads.start_outside _))

theorem prefetch_outside : Keeps World.outsideDownloads prefetch := by
  unfold prefetch
  refine Keeps.bind (keeps_get _) fun c => Keeps.bind (keeps_get _) fun w => ?_
  split
  · exact keeps_pure _ _
  · split
    · exact Keeps.discard (prefetchTrack_keeps _)
    · exact keeps_pure _ _

theorem prefetch_keeps : Keeps World.actor prefetch := prefetch_outside.actor_of_outsideDownloads

theorem releaseQuietly_outside (track : TrackId) (key : CacheKey) (path : String) :
    Keeps World.outsideCache (releaseQuietly track key path) := by
  unfold releaseQuietly
  refine Keeps.bind (Cache.releaseStorage_keeps key path) fun r => ?_
  split
  · exact keeps_pure _ _
  · exact keeps_log (fun _ _ => rfl) _ _ _ _

theorem releaseQuietly_keeps (track : TrackId) (key : CacheKey) (path : String) :
    Keeps World.engine (releaseQuietly track key path) :=
  (releaseQuietly_outside track key path).engine_of_outsideCache

theorem releaseSuperseded_outside (track : TrackId) :
    Keeps World.outsideCache (releaseSuperseded track) := by
  unfold releaseSuperseded
  refine Keeps.bind (keeps_get _) fun w => ?_
  split
  · exact keeps_pure _ _
  · extract_lets written played
    split
    · exact keeps_pure _ _
    · exact releaseQuietly_outside _ _ _

theorem releaseSuperseded_keeps (track : TrackId) : Keeps World.engine (releaseSuperseded track) :=
  (releaseSuperseded_outside track).engine_of_outsideCache

theorem releaseFailed_outside (track : TrackId) : Keeps World.outsideCache (releaseFailed track) := by
  unfold releaseFailed
  refine Keeps.bind (keeps_get _) fun w => ?_
  extract_lets target
  clear_value target
  split
  · exact releaseQuietly_outside _ _ _
  · exact keeps_pure _ _

theorem releaseFailed_keeps (track : TrackId) : Keeps World.engine (releaseFailed track) :=
  (releaseFailed_outside track).engine_of_outsideCache

theorem emitPlay_keeps : Keeps World.engine emitPlay := by
  unfold emitPlay
  refine Keeps.bind (keeps_get _) fun q => ?_
  split
  · exact keeps_emitMove _
  · exact keeps_pure _ _

theorem seek_keeps (ms : Nat) : Keeps World.engine (seek ms) := by
  unfold seek
  refine Keeps.bind (keeps_get _) fun c => ?_
  split
  · exact keeps_pure _ _
  · refine Keeps.bind (keeps_decoderCall _) fun r => ?_
    split
    · exact keeps_emitMove _
    · exact keeps_log (fun _ _ => rfl) _ _ _ _

theorem tell_keeps : Keeps id tell := by
  rw [keeps_iff]
  intro w
  simp only [tell, controller, holds_bind, holds_get, holds_pure]
  split
  · rfl
  · rfl
  all_goals split <;> rfl

theorem duration_keeps : Keeps id duration := by
  rw [keeps_iff]
  intro w
  simp only [duration, controller, holds_bind, holds_get, holds_pure]
  split <;> rfl

end PlaybackEngine.Player

namespace PlaybackEngine.Persistence

theorem save_outside (path : String) (s : Snapshot) : Keeps World.outsideCache (save path s).run := by
  have write : ∀ f, Keeps World.outsideCache (World.changeVolume f).run := fun f => by
    rw [keeps_iff]
    intro w
    rw [holds_changeVolume]
    split <;> rfl
  simp only [save, attemptInSpan_run]
  refine Keeps.inSpan (fun _ _ => rfl) ?_ _
  split
  · split
    · exact Keeps.attemptBind (keeps_attemptModify fun _ => rfl) fun _ =>
        Keeps.attemptBind (write _) fun _ => write _
    · exact Keeps.attemptBind (write _) fun _ => write _
  · exact Keeps.attemptBind (write _) fun _ => write _

theorem save_keeps_engine (path : String) (s : Snapshot) : Keeps World.engine (save path s).run :=
  (save_outside path s).engine_of_outsideCache

theorem save_keeps (path : String) (s : Snapshot) : Keeps World.actor (save path s).run :=
  (save_keeps_engine path s).actor_of_engine

theorem discard_outside (path : String) (fault : SnapshotFault) :
    Keeps World.outsideCache (discard path fault) := by
  rw [keeps_iff]
  intro w
  simp only [discard, holds_bind, holds_log, holds_get]
  split
  · rfl
  · simp only [holds_log]
    rfl

theorem recover_outside (path : String) : Keeps World.outsideCache (recover path).run := by
  simp only [recover, attemptInSpan_run]
  refine Keeps.inSpan (fun _ _ => rfl) ?_ _
  rw [keeps_iff]
  intro w
  rw [holds_attempt_bind, holds_attempt_get]
  dsimp only
  split
  · rfl
  · rw [holds_attempt_bind, holds_attempt_get]
    dsimp only
    rw [holds_attempt_bind, holds_host]
    cases w.volume.readFile path with
    | error e => rfl
    | ok data =>
      dsimp only [Except.mapError]
      split
      · simp only [holds_attempt_bind, holds_liftM, holds_log, holds_attempt_pure]
        rfl
      · simp only [holds_attempt_bind, holds_liftM, holds_attempt_pure]
        exact (discard_outside _ _).holds fun _ _ h => h

theorem recover_keeps_engine (path : String) : Keeps World.engine (recover path).run :=
  (recover_outside path).engine_of_outsideCache

end PlaybackEngine.Persistence
