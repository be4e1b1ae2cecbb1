import PlaybackEngine.Proofs.TransferTable
import PlaybackEngine.Proofs.PlayerConsistency

set_option autoImplicit false

/-!
# Late download listeners see the transfers the manager has

The hub replays to a late download listener the transfers of its table, and the player keeps
that table from the events it passes on: the manager's notices, forwarded one at a time, and
the errors it sends itself, for a track that could not be opened for lack of storage and for a
decode error on a track whose transfer failed.

`Mirrored` is what holds of a running player between two pieces of work: once the notices still
waiting reach the hub's table, it reflects the download records (`Downloads.Reflects`). Every
handler keeps it (`KeepsMirrored`): the manager's operations by `Downloads.Reflects.effect` and
`Downloads.Reflects.taskRun`; forwarding a notice, since it only moves the notice from the
waiting ones into the table; and the player's own errors, since they are about tracks whose
record is not active.

So whenever no notice waits, every active record's track is in the table, every track in the
table has an active or paused record, and its replay holds an error that may pass exactly when
the record is paused (`TransferRun.replay_mirrors_records`). The table may lack a paused record:
a storage error about a track whose transfer is paused removes the track while its record stays
(`storage_fault_hides_paused_transfer`).
-/

namespace PlaybackEngine

/-- The part of the world the hub's transfers answer to: whether the player runs, the hub's
table, the download manager and the notices waiting for the player. -/
def World.downloads (w : World) : Bool × Table TransferProgress × Manager × Notices :=
  (w.running, w.hub.transfers, w.manager, w.notices)

theorem Keeps.downloads_of_engine {α : Type} {a : Act α} (h : Keeps World.engine a) :
    Keeps World.downloads a :=
  fun w => congrArg (fun e => (e.1.2.2.2.2, e.1.2.2.1, e.2.1, e.2.2)) (h w)

theorem Notices.toList_of_pop? {q rest : Notices} {e : DownloadEvent}
    (h : q.pop? = some (e, rest)) : q.toList = e :: rest.toList := by
  unfold Notices.pop? at h
  split at h
  · rename_i e' front hf
    cases h
    simp [Notices.toList, hf]
  · rename_i hf
    split at h
    · rename_i e' back hb
      cases h
      simp [Notices.toList, hf, hb]
    · cases h

/-- A late download listener is replayed an error that may pass about a track exactly when the
table's entry of the track is marked paused. -/
theorem Hub.error_mem_replayTransfers {h : Hub} (ho : h.transfers.Ordered) (k : TrackId) :
    (∃ m, DownloadEvent.error k m true ∈ h.replayTransfers) ↔
      Hub.standing h.transfers k = some true := by
  simp only [Hub.replayTransfers, List.mem_flatMap, Hub.standing]
  constructor
  · rintro ⟨m, ⟨k', p⟩, hmem, he⟩
    -- only the paused marker is an error event, and it names the entry's track
    have hp : p.paused = some m ∧ k' = k := by
      cases hpaused : p.paused with
      | none => simp [hpaused] at he
      | some m' => simp_all
    obtain ⟨hpaused, rfl⟩ := hp
    rw [ho.get?_of_mem hmem]
    simp [hpaused]
  · intro hs
    obtain ⟨p, hp, hpaused⟩ := Option.map_eq_some_iff.mp hs
    obtain ⟨m, hm⟩ := Option.isSome_iff_exists.mp hpaused
    exact ⟨m, (k, p), Table.mem_of_get? hp, by simp [hm]⟩

theorem Hub.mem_trackedTransfers {h : Hub} {k : TrackId} :
    k ∈ h.trackedTransfers ↔ (Hub.standing h.transfers k).isSome := by
  simp [Hub.trackedTransfers, Table.mem_keys, Hub.standing]

end PlaybackEngine

namespace PlaybackEngine.Player

open PlaybackEngine.World Downloads

/-- The hub's table once it has the notices still waiting for the player. -/
def pendingTransfers (w : World) : Table TransferProgress :=
  w.notices.toList.foldl Hub.trackTransfer w.hub.transfers

/-- A running player between two pieces of work, as the hub's transfers see it: the manager is
sound and keys its records by track, the hub's table is in key order, and once the waiting
notices reach it, it reflects the records. -/
structure Mirrored (w : World) : Prop where
  running : w.running = true
  sound : Sound w.manager
  keyed : RecordsKeyed w.manager.records
  ordered : w.hub.transfers.Ordered
  reflects : Reflects (pendingTransfers w) w.manager.records

theorem Mirrored.of_downloads {w w' : World} (hw : Mirrored w) (h : w'.downloads = w.downloads) :
    Mirrored w' := by
  simp only [World.downloads, Prod.mk.injEq] at h
  obtain ⟨hr, ht, hm, hn⟩ := h
  have hp : pendingTransfers w' = pendingTransfers w := by
    rw [pendingTransfers, pendingTransfers, ht, hn]
  refine ⟨?_, ?_, ?_, ?_, ?_⟩
  · rw [hr]
    exact hw.running
  · rw [hm]
    exact hw.sound
  · rw [hm]
    exact hw.keyed
  · rw [ht]
    exact hw.ordered
  · rw [hp, hm]
    exact hw.reflects

/-- `a` keeps a running player's transfers mirrored. -/
def KeepsMirrored {α : Type} (a : Act α) : Prop := Triple Mirrored a fun _ => Mirrored

section Rules

variable {α β ε : Type} {a : Act α}

theorem KeepsMirrored.of_keeps (h : Keeps World.downloads a) : KeepsMirrored a :=
  fun w hw => hw.of_downloads (h w)

theorem KeepsMirrored.of_engine (h : Keeps World.engine a) : KeepsMirrored a :=
  .of_keeps h.downloads_of_engine

theorem KeepsMirrored.attemptBind {x : ExceptT ε Act α} {f : α → ExceptT ε Act β}
    (hx : KeepsMirrored x.run) (hf : ∀ a, KeepsMirrored (f a).run) :
    KeepsMirrored (x >>= f).run := by
  intro w hw
  rw [holds_attempt_bind]
  refine (hx w hw).mono fun r w' h => ?_
  cases r with
  | ok a => exact hf a w' h
  | error e => exact h

theorem KeepsMirrored.attemptDiscard {x : ExceptT ε Act α} (h : KeepsMirrored x.run) :
    KeepsMirrored (Functor.discard x).run := by
  intro w hw
  rw [holds_attempt_discard]
  exact h w hw

theorem KeepsMirrored.liftM {a : StateT World Id α} (h : KeepsMirrored a) :
    KeepsMirrored (liftM a : ExceptT ε Act α).run :=
  h

theorem KeepsMirrored.detached (h : KeepsMirrored a) : KeepsMirrored (detached a) := by
  intro w hw
  rw [holds_detached]
  have h₁ : Mirrored { w with spans := [] } := hw.of_downloads rfl
  exact (h _ h₁).mono fun _ w' h' =>
    show Mirrored { w' with spans := w.spans } from h'.of_downloads rfl

theorem KeepsMirrored.inSpan (h : KeepsMirrored a) (name : String) :
    KeepsMirrored (inSpan name a) := by
  intro w hw
  rw [holds_inSpan]
  have h₁ : Mirrored { w with spans := name :: w.spans } := hw.of_downloads rfl
  exact (h _ h₁).mono fun _ w' h' =>
    show Mirrored { w' with spans := w'.spans.drop 1 } from h'.of_downloads rfl

end Rules

/-! ## The manager's operations and the player's own errors -/

section Steps

variable {w : World}

theorem Call.act_keeps (c : Call) : Keeps World.actor c.act := by
  cases c with
  | start req => exact Keeps.discard (start_keeps req)
  | stop track => exact stop_keeps track
  | stopAll => exact stopAll_keeps
  | resume => exact Keeps.discard resume_keeps

theorem Mirrored.call (c : Call) (hw : Mirrored w) : Mirrored (c.act.run w).2 := by
  have heff := Call.act_spec c w hw.sound
  have hactor := Call.act_keeps c w
  have ht : (c.act.run w).2.hub.transfers = w.hub.transfers := congrArg (·.2.2.1) hactor
  refine ⟨?_, hw.sound.effect heff, hw.keyed.effect hw.sound heff, ht ▸ hw.ordered, ?_⟩
  · rw [← hw.running]
    exact congrArg (·.2.2.2.2) hactor
  · unfold pendingTransfers
    rw [ht]
    exact hw.reflects.effect hw.sound heff

theorem start_mirrored (req : DownloadRequest) : KeepsMirrored (Downloads.start req) :=
  fun _ hw => hw.call (.start req)

theorem Mirrored.taskRun (hw : Mirrored w) {t : TransferTask} (ht : t ∈ w.manager.tasks) :
    Mirrored ((runTask t).run w).2 := by
  obtain ⟨d, hd, hn, -, ha⟩ := hw.sound.task_record ht
  have hrun : TaskRun t w ((runTask t).run w).2 := runTask_spec t w hd hn ha
  have hactor := runTask_keeps t w
  have htr : ((runTask t).run w).2.hub.transfers = w.hub.transfers := congrArg (·.2.2.1) hactor
  refine ⟨?_, hw.sound.taskRun ht hrun, hw.keyed.taskRun hw.sound hrun, htr ▸ hw.ordered, ?_⟩
  · rw [← hw.running]
    exact congrArg (·.2.2.2.2) hactor
  · unfold pendingTransfers
    rw [htr]
    exact hw.reflects.taskRun hw.sound ht hrun

theorem Mirrored.endStalls (hw : Mirrored w) : Mirrored (Script.endStalls w).2 :=
  ⟨hw.running, hw.sound.endStalls, hw.keyed, hw.ordered, hw.reflects⟩

/-- The player's own error about a track whose record is not active keeps the transfers
mirrored. -/
theorem Mirrored.emitError (hw : Mirrored w) {k : TrackId}
    (hk : standing w.manager.records k ≠ some false) (msg : String) (b : Bool) :
    Mirrored { w with hub := (w.hub.emitDownload (.error k msg b)).2 } :=
  ⟨hw.running, hw.sound, hw.keyed, Hub.ordered_trackTransfer hw.ordered _,
    hw.reflects.emitError hk msg b⟩

/-- Forwarding the oldest waiting notice moves it from the waiting ones into the hub's table. -/
theorem Mirrored.forward (hw : Mirrored w) {e : DownloadEvent} {rest : Notices}
    (hp : w.notices.pop? = some (e, rest)) :
    Mirrored { w with notices := rest, hub := (w.hub.emitDownload e).2 } := by
  have hpending : pendingTransfers { w with notices := rest, hub := (w.hub.emitDownload e).2 } =
      pendingTransfers w := by
    simp only [pendingTransfers, Notices.toList_of_pop? hp, List.foldl_cons]
    rfl
  refine ⟨hw.running, hw.sound, hw.keyed, Hub.ordered_trackTransfer hw.ordered _, ?_⟩
  rw [hpending]
  exact hw.reflects

/-- A record the active slot does not hold for `track`, as `materialize` reads it, is not
active. -/
theorem Mirrored.inactive_of_activeRecord (hw : Mirrored w) {track : TrackId}
    (h : (activeRecord w.manager).filter (·.track = track) = none) :
    standing w.manager.records track ≠ some false := by
  intro hs
  obtain ⟨d, hd, hds⟩ := Option.bind_eq_some_iff.mp hs
  have hact := DownloadState.standing_eq_some_false.mp hds
  have hslot := hw.sound.single track d hd hact
  have hrec : activeRecord w.manager = some d.record := by
    simp [activeRecord, hslot, snapshot, hd]
  rw [hrec] at h
  simp [hw.keyed track d hd] at h

end Steps

/-! ## Every handler keeps the transfers mirrored -/

section Handlers

theorem teardown_mirrored : KeepsMirrored teardown := by
  intro w hw
  simp only [teardown, holds_bind, holds_controller]
  split
  · exact hw
  · simp only [holds_bind, holds_modifyController, holds_discard, holds_decoderCall]
    split
    · exact hw.of_downloads rfl
    · simp only [holds_log]
      exact hw.of_downloads rfl

theorem stop_mirrored : KeepsMirrored stop := by
  intro w hw
  simp only [stop, holds_bind]
  refine teardown_mirrored.holds hw fun _ w₁ h₁ => ?_
  simp only [holds_controller, holds_setState]
  split
  · simp only [holds_modifyController, holds_modify, holds_emitMove]
    exact h₁.of_downloads rfl
  · simp only [holds_modifyController, holds_modify, holds_pure]
    exact h₁.of_downloads rfl

/-- Looking a track up changes nothing and fails only for a missing track. -/
theorem lookupTrack_spec (track : TrackId) (w : World) :
    Holds (lookupTrack track).run
      (fun r w' => w' = w ∧ ∀ e, r = .error e → e.isStorageError = false) w := by
  simp only [lookupTrack, holds_attempt_bind, holds_attempt_get]
  split
  · simp
  · exact ⟨rfl, fun e h => by cases h; rfl⟩

/-- Finding a committed file changes nothing and fails only as the host fails. -/
theorem committedPath_spec (t : TrackInfo) (w : World) :
    Holds (Cache.committedPath t).run
      (fun r w' => w' = w ∧ ∀ e, r = .error e → e.isStorageError = false) w := by
  simp only [Cache.committedPath]
  split
  · simp
  · simp only [holds_attempt_bind, holds_fileLen]
    rcases w.volume.fileLen _ with _ | (_ | _) <;>
      simp [Except.mapError, PlaybackError.isStorageError]

/-- What opening a track's content leaves: the transfers mirrored, and a storage fault only for
a track whose record is not active, since the storage is asked for only when no transfer of the
track is active. -/
theorem materialize_mirrored (track : TrackId) (w : World) (hw : Mirrored w) :
    Holds (materialize track).run (fun r w' => Mirrored w' ∧
      ∀ e, r = .error e → e.isStorageError → standing w'.manager.records track ≠ some false) w := by
  unfold materialize
  rw [holds_attempt_bind]
  refine (lookupTrack_spec track w).mono fun r w₁ ⟨hw₁, hr⟩ => ?_
  subst hw₁
  cases r with
  | error e => exact ⟨hw, fun e' he hs => absurd hs (by cases he; simp [hr e rfl])⟩
  | ok t =>
    dsimp only
    rw [holds_attempt_bind]
    refine (committedPath_spec t w₁).mono fun r w₂ ⟨hw₂, hr⟩ => ?_
    subst hw₂
    cases r with
    | error e => exact ⟨hw, fun e' he hs => absurd hs (by cases he; simp [hr e rfl])⟩
    | ok cached =>
      cases cached with
      | some path =>
        simp only [holds_attempt_bind, holds_liftM, holds_emitBuffer, holds_attempt_pure]
        exact ⟨hw.of_downloads (by simp [World.downloads]), fun e h => by cases h⟩
      | none =>
        dsimp only
        rw [holds_attempt_bind, holds_attempt_get]
        dsimp only
        split
        · simp only [holds_attempt_bind, holds_attempt_pure, holds_liftM, holds_emitBuffer]
          exact ⟨hw.of_downloads (by simp [World.downloads]), fun e h => by cases h⟩
        · rename_i hnone
          have hk := hw.inactive_of_activeRecord hnone
          -- a fault from here on leaves the manager as it was, with the track's record inactive
          have hfault : ∀ w' (e : PlaybackError), w'.downloads = w₂.downloads →
              Mirrored w' ∧ ∀ e' : PlaybackError,
                (.error e : Except PlaybackError (TrackInfo × DecoderSource)) = .error e' →
                e'.isStorageError →
                standing w'.manager.records track ≠ some false := by
            intro w' e h
            have hm : w'.manager = w₂.manager := congrArg (·.2.2.1) h
            exact ⟨hw.of_downloads h, fun _ _ _ => hm ▸ hk⟩
          rw [holds_attempt_bind]
          have hreq : Keeps World.downloads (Cache.requestStorage t).run :=
            (Cache.requestStorage_keeps t).downloads_of_engine
          refine hreq.holds ?_
          intro r w₃ h₃
          cases r with
          | error e => exact hfault w₃ e h₃
          | ok path =>
            dsimp only
            rw [holds_attempt_bind]
            have hlen : Keeps World.downloads (Cache.partialLength path).run :=
              (Cache.partialLength_keeps path).downloads_of_engine
            refine hlen.holds ?_
            intro r w₄ h₄
            cases r with
            | error e => exact hfault w₄ e (h₄.trans h₃)
            | ok offset =>
              simp only [holds_attempt_bind, holds_attempt_discard, holds_liftM, holds_attempt_pure,
                holds_emitBuffer]
              refine (start_mirrored _ w₄ (hw.of_downloads (h₄.trans h₃))).mono fun _ w₅ h₅ => ?_
              exact ⟨h₅.of_downloads (by simp [World.downloads]), fun e h => by cases h⟩

theorem openTrack_mirrored (track : TrackId) (w : World) (hw : Mirrored w) :
    Holds (openTrack track).run (fun r w' => Mirrored w' ∧
      ∀ e, r = .error e → e.isStorageError → standing w'.manager.records track ≠ some false) w := by
  refine openTrack_holds ((materialize_mirrored track w hw).mono fun r w₁ h₁ =>
    ⟨fun e he => ⟨h₁.1, fun _ h => (by cases h; exact h₁.2 e he)⟩, fun _ _ _ _ => ?_⟩)
  -- the decoder's faults are decode errors
  exact ⟨⟨h₁.1.of_downloads rfl, fun _ h => (by cases h)⟩,
    fun _ => ⟨h₁.1.of_downloads rfl, fun _ h hs => (by cases h; cases hs)⟩⟩

theorem adoptSession_mirrored (paused : Bool) (q : PlayQueue) (track : TrackId) (s : Session) :
    KeepsMirrored (adoptSession paused q track s) := by
  intro w hw
  simp only [adoptSession, holds_log, holds_bind, holds_modifyController, holds_setState]
  split <;> split <;> exact hw.of_downloads rfl

/-- Skipping a song that did not open keeps the hub mirroring the manager, provided a storage
fault it announces is about a track with no paused record. -/
theorem skipUnopenable_mirrored (q : PlayQueue) (track : TrackId) (e : PlaybackError) (w : World)
    (hw : Mirrored w) (hs : e.isStorageError → standing w.manager.records track ≠ some false) :
    Holds (skipUnopenable q track e) (fun _ => Mirrored) w := by
  simp -zeta only [skipUnopenable, holds_log, holds_bind]
  extract_lets next skip
  -- what follows the report, whether or not its storage fault was announced
  have hskip : ∀ u w₂, Mirrored w₂ → Holds (skip u) (fun _ => Mirrored) w₂ := by
    intro u w₂ hw₂
    simp only [skip]
    split
    · simp only [holds_bind]
      exact stop_mirrored.holds hw₂ fun _ w₃ h₃ => h₃.of_downloads rfl
    · simp only [holds_bind, holds_selectPosition, holds_pure]
      exact hw₂.of_downloads rfl
  clear_value skip
  split
  · rename_i hstorage
    simp only [holds_bind, holds_emitDownload]
    have hw₂ := hw.emitError (hs hstorage) e.message false
    exact hskip () _ (hw₂.of_downloads rfl)
  · exact hskip () _ (hw.of_downloads rfl)

theorem loadFromSelected_mirrored (paused : Bool) (fuel : Nat) :
    KeepsMirrored (loadFromSelected paused fuel) := by
  induction fuel with
  | zero =>
    intro w hw
    simp only [loadFromSelected, holds_bind]
    exact stop_mirrored.holds hw fun _ _ h => h
  | succ fuel ih =>
    intro w hw
    simp -zeta only [loadFromSelected, holds_bind, holds_queue]
    split
    · simp only [holds_bind]
      exact stop_mirrored.holds hw fun _ _ h => h
    · rename_i track hcur
      simp -zeta only [holds_bind]
      refine (openTrack_mirrored track w hw).mono ?_
      rintro r w₁ ⟨hw₁, hr⟩
      cases r with
      | ok s =>
        simp only [holds_bind, holds_pure]
        exact (adoptSession_mirrored paused _ track s).holds hw₁ fun _ _ h => h
      | error e =>
        simp only [holds_bind]
        refine (skipUnopenable_mirrored _ track e w₁ hw₁ (hr e rfl)).mono fun more w₂ hw₂ => ?_
        cases more with
        | true => exact ih _ hw₂
        | false => exact hw₂

theorem startPlayback_mirrored (paused : Bool) : KeepsMirrored (startPlayback paused) := by
  intro w hw
  simp only [startPlayback, holds_bind]
  refine teardown_mirrored.holds hw fun _ w₁ h₁ => ?_
  simp only [holds_queue]
  exact loadFromSelected_mirrored paused _ w₁ h₁

theorem prefetchTrack_mirrored (track : TrackId) : KeepsMirrored (prefetchTrack track).run := by
  unfold prefetchTrack
  refine .attemptBind (.of_keeps ((lookupTrack_keeps track).of_id _)) fun t => ?_
  have hcached : Keeps World.downloads (Cache.committedPath t).run :=
    (Cache.committedPath_keeps t).downloads_of_engine
  refine .attemptBind (.of_keeps hcached) fun cached => ?_
  split
  · exact .of_keeps (keeps_attemptPure _ _)
  have hreq : Keeps World.downloads (Cache.requestStorage t).run :=
    (Cache.requestStorage_keeps t).downloads_of_engine
  refine .attemptBind (.of_keeps hreq) fun path => ?_
  have hlen : Keeps World.downloads (Cache.partialLength path).run :=
    (Cache.partialLength_keeps path).downloads_of_engine
  refine .attemptBind (.of_keeps hlen) fun offset => ?_
  exact KeepsMirrored.attemptDiscard (KeepsMirrored.liftM (start_mirrored _))

theorem prefetch_mirrored : KeepsMirrored prefetch := by
  intro w hw
  simp only [prefetch, holds_bind, holds_controller, holds_get]
  split
  · exact hw
  · split
    · simp only [holds_discard]
      exact prefetchTrack_mirrored _ w hw
    · exact hw

theorem jump_mirrored (p : Int) : KeepsMirrored (jump p) := by
  unfold jump
  refine KeepsMirrored.inSpan ?_ _
  intro w hw
  simp -zeta only [holds_bind, holds_queue]
  split
  · exact hw
  split
  · simp -zeta only [holds_bind, holds_controller]
    extract_lets -underBinder +onlyGivenNames unselect
    have hunselect : ∀ u w₂, Mirrored w₂ → Holds (unselect u) (fun _ => Mirrored) w₂ := by
      intro u w₂ hw₂
      simp only [unselect, holds_bind, holds_selectPosition, holds_pure]
      exact hw₂.of_downloads rfl
    clear_value unselect
    split
    · simp only [holds_bind]
      exact stop_mirrored.holds hw fun _ w₂ h₂ => hunselect () w₂ h₂
    · exact hunselect () _ hw
  · simp -zeta only [holds_bind, holds_selectPosition, holds_queue]
    extract_lets -underBinder +onlyGivenNames load
    have hload : ∀ u w₂, Mirrored w₂ → Holds (load u) (fun _ => Mirrored) w₂ := by
      intro u w₂ hw₂
      simp -zeta only [load, holds_bind, holds_controller]
      extract_lets -underBinder +onlyGivenNames was
      simp -zeta only [holds_bind]
      refine (startPlayback_mirrored _).holds hw₂ fun loaded w₃ h₃ => ?_
      extract_lets -underBinder +onlyGivenNames after
      have hafter : ∀ u w₄, Mirrored w₄ → Holds (after u) (fun _ => Mirrored) w₄ :=
        fun _ _ h => prefetch_mirrored _ h
      clear_value after
      split
      · simp only [holds_bind, holds_emitMove]
        exact hafter () _ (h₃.of_downloads rfl)
      · exact hafter () _ h₃
    clear_value load
    split
    · simp only [holds_bind, holds_emitMove]
      exact hload () _ (hw.of_downloads rfl)
    · exact hload () _ (hw.of_downloads rfl)

theorem next_mirrored : KeepsMirrored next := by
  intro w hw
  simp only [next, holds_bind, holds_queue]
  split
  · exact jump_mirrored _ w hw
  · simp only [holds_bind]
    refine stop_mirrored.holds hw fun _ w₁ h₁ => ?_
    simp only [holds_selectPosition]
    exact h₁.of_downloads rfl

theorem skipCurrent_mirrored : KeepsMirrored skipCurrent := by
  intro w hw
  simp only [skipCurrent, holds_bind, holds_controller]
  split
  · simp only [holds_bind, holds_modifyController, holds_decoderCall]
    split
    · exact next_mirrored _ (hw.of_downloads rfl)
    · simp only [holds_bind, holds_log]
      exact next_mirrored _ (hw.of_downloads rfl)
  · exact next_mirrored _ hw

theorem unpause_mirrored : KeepsMirrored unpause := by
  intro w hw
  simp -zeta only [unpause, holds_bind, holds_controller]
  split
  · exact hw
  extract_lets -underBinder +onlyGivenNames resumed
  have hresumed : ∀ u w₂, Mirrored w₂ → Holds (resumed u) (fun _ => Mirrored) w₂ := by
    intro u w₂ hw₂
    simp only [resumed, holds_bind, holds_modifyController, holds_emitMove]
    exact hw₂.of_downloads rfl
  clear_value resumed
  split
  · simp -zeta only [holds_bind, holds_decoderCall]
    cases (w.decoder.call .start "start").1 with
    | error e =>
      simp only [holds_log, holds_bind]
      exact skipCurrent_mirrored _ (hw.of_downloads rfl)
    | ok u =>
      simp -zeta only [holds_bind, holds_setState]
      split <;> exact hresumed () _ (hw.of_downloads rfl)
  · simp -zeta only [holds_bind, holds_setState]
    split <;> exact hresumed () _ (hw.of_downloads rfl)
  · simp -zeta only [holds_bind]
    refine (startPlayback_mirrored false).holds hw fun r w₃ h₃ => ?_
    split
    · exact h₃
    · exact hresumed () _ h₃

theorem play_mirrored : KeepsMirrored play := by
  intro w hw
  simp -zeta only [play, holds_bind, holds_controller]
  split
  · exact unpause_mirrored _ hw
  · exact hw
  · exact hw
  · simp -zeta only [holds_bind, holds_queue]
    extract_lets -underBinder +onlyGivenNames start
    have hstart : ∀ u w₂, Mirrored w₂ → Holds (start u) (fun _ => Mirrored) w₂ := by
      intro u w₂ hw₂
      simp only [start, holds_bind]
      refine (startPlayback_mirrored false).holds hw₂ fun r w₃ h₃ => ?_
      split
      · exact KeepsMirrored.of_engine emitPlay_keeps _ h₃
      · exact h₃
    clear_value start
    split
    · split
      · exact hw
      · simp only [holds_bind, holds_selectPosition]
        exact hstart () _ (hw.of_downloads rfl)
    · exact hstart () _ hw

theorem pause_mirrored : KeepsMirrored pause := by
  intro w hw
  simp -zeta only [pause, holds_bind, holds_controller]
  split
  · simp -zeta only [holds_bind, holds_decoderCall]
    extract_lets -underBinder +onlyGivenNames paused
    have hpaused : ∀ u w₂, Mirrored w₂ → Holds (paused u) (fun _ => Mirrored) w₂ := by
      intro u w₂ hw₂
      simp only [paused, holds_bind]
      refine tell_keeps.holds fun _ w₃ h₃ => ?_
      change w₃ = w₂ at h₃
      subst h₃
      simp only [holds_setState, holds_emitMove]
      split <;> exact hw₂.of_downloads rfl
    clear_value paused
    split
    · simp only [holds_bind, holds_log]
      exact hpaused () _ (hw.of_downloads rfl)
    · exact hpaused () _ (hw.of_downloads rfl)
  · simp only [holds_bind, holds_setState, holds_emitMove]
    split <;> exact hw.of_downloads rfl
  · exact hw
  · exact hw

theorem previous_mirrored : KeepsMirrored previous := by
  intro w hw
  simp -zeta only [previous, holds_bind, holds_queue]
  split
  · simp only [holds_bind]
    refine stop_mirrored.holds hw fun _ w₁ h₁ => ?_
    simp only [holds_selectPosition, holds_pure]
    exact h₁.of_downloads rfl
  · simp -zeta only [holds_bind, holds_controller]
    extract_lets -underBinder +onlyGivenNames back
    have hback : ∀ u, Holds (back u) (fun _ => Mirrored) w := fun u => jump_mirrored _ w hw
    clear_value back
    split
    · simp -zeta only [holds_bind]
      refine tell_keeps.holds fun _ w₁ h₁ => ?_
      change w₁ = w at h₁
      subst h₁
      extract_lets -underBinder +onlyGivenNames elapsed
      split
      · extract_lets -underBinder +onlyGivenNames done
        split
        · simp only [holds_bind]
          exact KeepsMirrored.of_engine (seek_keeps 0) _ hw
        · exact hw
      · exact hback ()
    · exact hback ()

theorem insert_mirrored (track : TrackId) (p : Int) : KeepsMirrored (insert track p) := by
  intro w hw
  simp only [insert, holds_bind, holds_queue]
  split
  · exact hw
  · simp only [holds_bind, holds_setQueue, holds_emitChange, holds_controller]
    split
    · simp only [holds_bind, holds_selectPosition]
      exact play_mirrored _ (hw.of_downloads rfl)
    · split
      · exact prefetch_mirrored _ (hw.of_downloads rfl)
      · exact hw.of_downloads rfl

theorem remove_mirrored (p : Int) : KeepsMirrored (remove p) := by
  intro w hw
  simp -zeta only [remove, holds_bind, holds_queue]
  split
  · exact hw
  · simp -zeta only [holds_bind, holds_controller]
    extract_lets -underBinder +onlyGivenNames drop
    have hdrop : ∀ u w₂, Mirrored w₂ → Holds (drop u) (fun _ => Mirrored) w₂ := by
      intro u w₂ hw₂
      simp only [drop, holds_bind, holds_queue]
      split
      · simp only [holds_bind, holds_setQueue, holds_emitChange]
        exact hw₂.of_downloads rfl
      · exact hw₂
    clear_value drop
    split
    · simp only [holds_bind]
      exact stop_mirrored.holds hw fun _ w₂ h₂ => hdrop () w₂ h₂
    · exact hdrop () w hw

theorem moveSong_mirrored (src dst : Int) : KeepsMirrored (moveSong src dst) := by
  intro w hw
  simp only [moveSong, holds_bind, holds_queue]
  split
  · exact hw
  · simp only [holds_bind, holds_setQueue, holds_emitChange]
    split
    · exact prefetch_mirrored _ (hw.of_downloads rfl)
    · exact hw.of_downloads rfl

theorem clear_mirrored : KeepsMirrored clear := by
  intro w hw
  simp only [clear, holds_bind]
  refine stop_mirrored.holds hw fun _ w₁ h₁ => ?_
  simp only [holds_queue, holds_setQueue, holds_emitChange]
  exact h₁.of_downloads rfl

theorem apply_mirrored (c : Command) : KeepsMirrored (apply c) := by
  intro w hw
  cases c with
  | play => exact play_mirrored w hw
  | pause => exact pause_mirrored w hw
  | unpause => exact unpause_mirrored w hw
  | stop => exact stop_mirrored w hw
  | seek ms => exact KeepsMirrored.of_engine (seek_keeps ms) w hw
  | next => exact next_mirrored w hw
  | previous => exact previous_mirrored w hw
  | jump p => exact jump_mirrored p w hw
  | insert t p => exact insert_mirrored t p w hw
  | prepend t => exact insert_mirrored t 0 w hw
  | append t => exact insert_mirrored t _ w hw
  | insertNext t => exact insert_mirrored t _ w hw
  | remove p => exact remove_mirrored p w hw
  | move src dst => exact moveSong_mirrored src dst w hw
  | clear => exact clear_mirrored w hw

theorem onCallState_mirrored (s : CallState) : KeepsMirrored (onCallState s) := by
  intro w hw
  simp only [onCallState, holds_bind, holds_controller]
  split
  · split
    · simp only [holds_bind, holds_log]
      refine (pause_mirrored _ ?_).mono fun _ w₁ h₁ => ?_
      · exact hw.of_downloads rfl
      simp only [holds_modifyController]
      exact h₁.of_downloads rfl
    · exact hw
  · split
    · simp only [holds_bind, holds_log, holds_modifyController]
      exact unpause_mirrored _ (hw.of_downloads rfl)
    · exact hw

/-- A decode error is announced only for a track whose record is paused or failed for good, so
not active. -/
theorem onDecoderEvent_mirrored (e : DecoderEvent) : KeepsMirrored (onDecoderEvent e) := by
  intro w hw
  simp only [onDecoderEvent, holds_bind, holds_controller]
  split
  · exact hw
  split
  · exact hw
  split
  · simp only [holds_bind, holds_modifyController]
    split
    · simp only [holds_bind, holds_decoderCall]
      split
      · simp only [holds_bind, holds_log]
        exact skipCurrent_mirrored _ (hw.of_downloads rfl)
      · simp only [holds_setState]
        split <;> exact hw.of_downloads rfl
    · exact hw.of_downloads rfl
  · simp only [holds_bind, holds_log]
    exact skipCurrent_mirrored _ (hw.of_downloads rfl)
  · simp only [holds_bind, holds_log, holds_get]
    split
    · rename_i d hd
      split
      · rename_i hfail
        simp only [holds_bind, holds_emitDownload]
        exact skipCurrent_mirrored _
          ((hw.emitError (standing_of_snapshot hd hfail) _ _).of_downloads rfl)
      · exact skipCurrent_mirrored _ (hw.of_downloads rfl)
    · exact skipCurrent_mirrored _ (hw.of_downloads rfl)
  · simp only [holds_emitBuffer]
    exact hw.of_downloads (by simp [World.downloads])

/-- Passing a notice on starts from the world where it reached the hub's table. -/
theorem onDownloadEvent_mirrored (e : DownloadEvent) :
    Triple (fun w => Mirrored { w with hub := (w.hub.emitDownload e).2 }) (onDownloadEvent e)
      fun _ => Mirrored := by
  intro w hw
  simp only [onDownloadEvent, holds_bind, holds_emitDownload, holds_controller]
  split
  · split
    · simp only [holds_emitBuffer]
      exact hw.of_downloads (by simp [World.downloads])
    · exact hw
  · split
    · simp only [holds_bind, holds_emitBuffer]
      exact prefetch_mirrored _ (hw.of_downloads (by simp [World.downloads]))
    · exact prefetch_mirrored _ hw
  · simp only [holds_bind]
    refine (KeepsMirrored.of_engine (releaseFailed_keeps _)).holds hw fun _ w₁ hw₁ => ?_
    split
    · simp only [holds_bind, holds_log]
      exact skipCurrent_mirrored _ (hw₁.of_downloads rfl)
    · exact hw₁
  · exact KeepsMirrored.of_engine (releaseSuperseded_keeps _) _ hw
  · exact hw

theorem onSignal_mirrored (s : Signal) : KeepsMirrored (onSignal s) := by
  intro w hw
  cases s with
  | call s => exact onCallState_mirrored s w hw
  | connectivityRestored => exact hw.call .resume

theorem save_mirrored : KeepsMirrored save := by
  intro w hw
  simp -zeta only [save, holds_bind, holds_controller]
  extract_lets -underBinder +onlyGivenNames write
  have hwrite : ∀ offset w₁, Mirrored w₁ → Holds (write offset) (fun _ => Mirrored) w₁ := by
    intro offset w₁ hw₁
    simp only [write, holds_bind]
    refine (KeepsMirrored.of_engine (Persistence.save_keeps_engine _ _)).holds hw₁
      fun r w₂ hw₂ => ?_
    split
    · simp only [holds_modifyController]
      exact hw₂.of_downloads rfl
    · simp only [holds_log]
      exact hw₂.of_downloads rfl
  clear_value write
  split
  · simp only [holds_bind]
    refine tell_keeps.holds fun _ w₁ h₁ => ?_
    change w₁ = w at h₁
    subst h₁
    exact hwrite _ w₁ hw
  · simp only [holds_bind, holds_pure]
    exact hwrite _ w hw

theorem handle_mirrored {α : Type} {P : World → Prop} {a : Act α}
    (h : Triple P a fun _ => Mirrored) (hP : ∀ w, P w → P { w with spans := [] }) :
    Triple P (handle a) fun _ => Mirrored := by
  intro w hw
  simp only [handle, holds_detached, holds_bind]
  refine (h _ (hP w hw)).mono fun _ w₁ hw₁ => ?_
  simp only [saveIfDirty, holds_bind, holds_controller, holds_pure]
  split
  · exact (save_mirrored _ hw₁).mono fun _ w₂ hw₂ => hw₂.of_downloads rfl
  · exact hw₁.of_downloads rfl

theorem request_mirrored {α : Type} {a : Act α} (h : KeepsMirrored a) :
    KeepsMirrored (request a) := by
  intro w hw
  simp only [request, holds_bind, holds_get]
  split
  · exact hw
  · simp only [holds_bind]
    exact handle_mirrored h (fun _ hw => hw.of_downloads rfl) _ hw

theorem restore_mirrored (snap : Snapshot) : KeepsMirrored (restore snap) := by
  intro w hw
  simp only [restore, holds_bind, holds_modifyController, holds_queue]
  split
  · exact hw.of_downloads rfl
  · split
    · simp only [holds_bind, holds_modifyController, holds_publish, holds_log]
      exact hw.of_downloads rfl
    · simp only [holds_bind]
      refine (startPlayback_mirrored false).holds (hw.of_downloads rfl) fun r w₁ hw₁ => ?_
      split
      · exact KeepsMirrored.of_engine emitPlay_keeps _ hw₁
      · exact hw₁

/-- One piece of work: a decoder callback handled, the oldest notice forwarded and acted on, or
a transfer run. -/
theorem settleOnce_mirrored : KeepsMirrored settleOnce := by
  intro w hw
  refine settleOnce_holds (fun _ _ => ?_) (fun _ e _ _ => ?_) (fun _ _ e _ hp => ?_)
    (fun _ _ _ t ht => hw.taskRun (List.mem_of_find?_eq_some ht)) (fun _ _ _ _ => hw)
  · split
    · exact (restore_mirrored _).detached _ (hw.of_downloads rfl)
    · exact hw.of_downloads rfl
  · split
    · exact handle_mirrored (onDecoderEvent_mirrored e) (fun _ h => h.of_downloads rfl) _
        (hw.of_downloads rfl)
    · exact hw.of_downloads rfl
  · -- a notice is handled only while the player runs, as the hub's table requires
    split
    · exact handle_mirrored (onDownloadEvent_mirrored e) (fun _ h => h.of_downloads rfl) _
        ((hw.forward hp).of_downloads rfl)
    · rename_i hstopped
      exact absurd hw.running hstopped

end Handlers

/-! ## Runs of the player -/

/-- A player started on an empty hub with no notice waiting starts mirrored: its manager is
fresh. -/
theorem spawn_mirrored (s : Setup) (w : World) (ht : w.hub.transfers = [])
    (hn : w.notices.toList = []) :
    Holds (spawn s) (fun r w' => r = .ok () → Mirrored w') w := by
  simp only [spawn, holds_bind, holds_modify]
  refine (Persistence.recover_keeps_engine s.stateFile).holds fun r w₁ h₁ => ?_
  have hm : w₁.manager = { settings := s.download } := congrArg (·.2.1) h₁
  have hq : w₁.notices = w.notices := congrArg (·.2.2) h₁
  have htr : w₁.hub.transfers = w.hub.transfers := congrArg (·.1.2.2.1) h₁
  cases r with
  | error e =>
    intro h
    cases h
  | ok recovered =>
    simp only [holds_bind, holds_modify, holds_log, holds_modifyController, holds_pure]
    intro _
    have hr : w₁.manager.records = [] := by rw [hm]
    refine ⟨rfl, Sound.initial ⟨hr, by rw [hm], by rw [hm]⟩, ?_, ?_, ?_⟩
    · intro k d hd
      simp [hr, Table.get?] at hd
    · simp [htr, ht, Table.Ordered, Table.keys]
    · intro k
      simp [pendingTransfers, hq, hn, htr, ht, hr, Hub.standing, standing, Table.get?, Agrees]

/-- One step of a running player with its download manager: a command, a query or a signal, a
piece of pending work, the host ending the transfers' stalls, or a change to what the player,
the manager and the hub's table do not hold, such as the host queueing decoder callbacks or
unmounting the volume. -/
inductive TransferStep : World → World → Prop
  | command (c : Command) (w : World) : TransferStep w ((command c).run w).2
  | query (q : Query) (w : World) : TransferStep w ((query q).run w).2
  | signal (s : Signal) (w : World) : TransferStep w ((signal s).run w).2
  | work (w : World) : TransferStep w (settleOnce.run w).2
  | wake (w : World) : TransferStep w (Script.endStalls w).2
  | host {w w' : World} (hd : w'.downloads = w.downloads) : TransferStep w w'

/-- The worlds a player reaches once started on an empty hub with no notice waiting. -/
inductive TransferRun : World → Prop
  | start (w : World) (s : Setup) (ht : w.hub.transfers = []) (hn : w.notices.toList = [])
      (h : ((spawn s).run w).1 = .ok ()) : TransferRun ((spawn s).run w).2
  | step {w w' : World} (h : TransferRun w) (hs : TransferStep w w') : TransferRun w'

theorem TransferStep.mirrored {w w' : World} (h : TransferStep w w') (hw : Mirrored w) :
    Mirrored w' := by
  cases h with
  | command c => exact request_mirrored (apply_mirrored c) w hw
  | query q => exact request_mirrored (.of_keeps ((answer_keeps q).of_id _)) w hw
  | signal s => exact request_mirrored (onSignal_mirrored s) w hw
  | work => exact settleOnce_mirrored w hw
  | wake => exact hw.endStalls
  | host hd => exact hw.of_downloads hd

theorem TransferRun.mirrored {w : World} (h : TransferRun w) : Mirrored w := by
  induction h with
  | start w s ht hn h => exact spawn_mirrored s w ht hn h
  | step _ hs ih => exact hs.mirrored ih

/-- Where no notice waits, the hub's table itself reflects the records. -/
theorem Mirrored.reflects_of_quiet {w : World} (hw : Mirrored w) (hq : w.notices.toList = []) :
    Reflects w.hub.transfers w.manager.records := by
  have h := hw.reflects
  rwa [pendingTransfers, hq, List.foldl_nil] at h

/-- A track whose server cannot be reached. -/
def unreachableTrack : TrackInfo :=
  { id := 1, sourceId := 1, contentId := "c1", mime := "audio/mpeg", url := Script.defaultUrl 1,
    size := 4096 }

/-- A host with a mounted volume of a gibibyte and the track in its catalog, its route down. -/
def unreachableHost : World :=
  { volume := { capacity := 1024 * 1024 * 1024 }, catalog := [(1, unreachableTrack)],
    transport := ({ honourRanges := true } : Transport).setRoute unreachableTrack.url .networkDown }

/-- A player that does not prefetch, caching under `/cache`. -/
def cacheSetup : Setup :=
  ⟨{ prefetch := false }, {}, { baseDir := "/cache", leaveFreeBytes := 0 }, "/state/player.state"⟩

/-- The player started on that host after the track was inserted and its transfer failed: the
transfer is paused, and the hub's table holds the track marked paused. -/
def pausedTransfer : World :=
  let w₁ := ((spawn cacheSetup).run unreachableHost).2
  let w₂ := ((command (.insert 1 0)).run w₁).2
  (settleOnce.run (settleOnce.run (settleOnce.run w₂).2).2).2

theorem pausedTransfer_run : TransferRun pausedTransfer :=
  .step (.step (.step (.step (.start unreachableHost cacheSetup rfl rfl rfl) (.command _ _))
    (.work _)) (.work _)) (.work _)

/-- The volume taken away. -/
def unmounted (w : World) : World := { w with volume := { w.volume with mounted := false } }

end PlaybackEngine.Player
