import PlaybackEngine.Proofs.BufferShare
import PlaybackEngine.Proofs.TransferReplay
import PlaybackEngine.Proofs.PausedTransfers

set_option autoImplicit false

/-!
# Only loading a song supersedes the active transfer

The download manager runs one transfer at a time, and starting a download aborts the one that
holds the slot. The player starts downloads in three places: loading a song whose content is not
committed, prefetching the song after the selected one, and resuming the paused transfers when
connectivity returns. Prefetching and resuming start nothing while a transfer holds the slot, so
only loading can supersede a running transfer.

`Spared w w'` says what a stretch of the player's work from `w` to `w'` may do to the slot: keep
its transfer, or load a song (`Reloaded`), which draws a new decoder session number, leaves in
the slot a transfer started after `w`, and leaves in output no session but one opened after `w`.
It is transitive, and every handler of the player ends in it from any world (`SparesTransfer`):
the search for a song that opens, since it unloads the old session first, and prefetching and
resuming, since they start nothing while a transfer runs. A transfer's own run keeps the slot or
frees it as the transfer ends. So at every step of a running player the active transfer stays,
ends by its own run, or is superseded by a song that was loaded; and prefetching starts only the
download of the next song's content, when that content is not committed
(`TransferRun.only_loading_supersedes`).
-/

namespace PlaybackEngine

/-- The transfer holding the download slot, the transfer and session counters, and the number of
the session in output. -/
def World.slot (w : World) : Option (TrackId × Nat) × Nat × Nat × Option Nat :=
  (w.manager.active, w.manager.nextTransfer, w.nextSession, w.controller.session.map (·.id))

/-- From `w` to `w'` a transfer of `k` numbered with the counter of `w` took the slot; the
counter moved on, and the sessions stayed as they were. -/
def TookSlot (k : TrackId) (w w' : World) : Prop :=
  w'.slot = (some (k, w.manager.nextTransfer), w.manager.nextTransfer + 1, w.nextSession,
    w.controller.session.map (·.id))

section Views

variable {α : Type} {a : Act α}

theorem Keeps.slot_of_loadState (h : Keeps World.loadState a) : Keeps World.slot a := fun w => by
  have hw := h w
  simp only [World.loadState, Prod.mk.injEq] at hw
  simp only [World.slot, hw.2.2.1, hw.2.2.2.1, hw.2.2.2.2]

theorem Keeps.slot_of_outsideCache (h : Keeps World.outsideCache a) : Keeps World.slot a :=
  fun w => by
    have hw := h w
    simp only [World.outsideCache, World.outsideDownloads, Prod.mk.injEq] at hw
    simp only [World.slot, hw.1.2.1, hw.1.2.2.2.2.2.2.2, hw.2.1]

end Views

theorem TookSlot.of_slot {k : TrackId} {w w₁ w₂ : World} (h : w₁.slot = w.slot)
    (h' : TookSlot k w₁ w₂) : TookSlot k w w₂ := by
  simp only [World.slot, Prod.mk.injEq] at h
  obtain ⟨-, htransfers, hsessions, hid⟩ := h
  simp only [TookSlot, htransfers, hsessions] at h' ⊢
  rw [← hid]
  exact h'

end PlaybackEngine

namespace PlaybackEngine.Downloads

open World

theorem update_keeps_nextTransfer (track : TrackId) (n : Nat) (f : Download → Download) :
    Keeps (·.manager.nextTransfer) (update track n f) := by
  rw [keeps_iff]
  intro w
  simp only [update, holds_bind, holds_get]
  split <;> rfl

theorem abort_keeps_nextTransfer (track : TrackId) (n : Nat) :
    Keeps (·.manager.nextTransfer) (abort track n) := by
  rw [keeps_iff]
  intro w
  simp only [abort, holds_bind, holds_get]
  split
  · split
    · simp only [holds_bind, holds_discard, holds_pure]
      refine (update_keeps_nextTransfer _ _ _).holds fun _ w₁ h₁ => ?_
      simp only [holds_bind, holds_modify, holds_log, holds_notify, ite_true]
      exact h₁
    · rfl
  · rfl

theorem stopAll_keeps_nextTransfer : Keeps (·.manager.nextTransfer) stopAll := by
  rw [keeps_iff]
  intro w
  simp only [stopAll, holds_bind, holds_get]
  split
  · exact (abort_keeps_nextTransfer _ _).holds fun _ _ h => h
  · rfl

/-- Starting a download gives the slot to a transfer numbered with the counter, and moves the
counter on. -/
theorem start_slot (req : DownloadRequest) (w : World) :
    Holds (start req) (fun n w' => n = w.manager.nextTransfer ∧
      w'.manager.active = some (req.track, n) ∧ w'.manager.nextTransfer = n + 1) w := by
  simp only [start, holds_inSpan, holds_bind]
  refine stopAll_keeps_nextTransfer.holds fun _ w₁ h₁ => ?_
  simp only [holds_get, holds_set, holds_notify, holds_modify, holds_log, holds_pure,
    prune_nextTransfer, and_true]
  exact h₁

theorem start_takes (req : DownloadRequest) (w : World) :
    Holds (start req) (fun _ w' => TookSlot req.track w w') w := by
  refine (Holds.and (start_slot req w) ((start_outside req).holds fun _ _ h => h)).mono ?_
  rintro n w' ⟨⟨rfl, hactive, hnext⟩, hout⟩
  simp only [World.outsideDownloads, Prod.mk.injEq] at hout
  simp only [TookSlot, World.slot, hactive, hnext, hout.2.1, hout.2.2.2.2.2.2.2]

end PlaybackEngine.Downloads

namespace PlaybackEngine.Player

open PlaybackEngine.World

/-- Between `w` and `w'` a song was loaded: a decoder session number was drawn, a transfer
started after `w` holds the slot, and a session in output was opened after `w`. -/
structure Reloaded (w w' : World) : Prop where
  started : ∃ k n, w'.manager.active = some (k, n) ∧ w.manager.nextTransfer ≤ n
  opened : w.nextSession < w'.nextSession
  fresh : ∀ s, w'.controller.session = some s → w.nextSession ≤ s.id

/-- What the player's work from `w` to `w'` may do to the download slot: the counters only grow,
a session in output is the one of `w` or was opened after it, and the transfer holding the slot
keeps it unless a song was loaded. -/
structure Spared (w w' : World) : Prop where
  transfers : w.manager.nextTransfer ≤ w'.manager.nextTransfer
  sessions : w.nextSession ≤ w'.nextSession
  session : ∀ s, w'.controller.session = some s →
    w.controller.session.map (·.id) = some s.id ∨ w.nextSession ≤ s.id
  slot : ∀ k n, w.manager.active = some (k, n) → w'.manager.active = some (k, n) ∨ Reloaded w w'

section Relations

variable {w w₁ w₂ : World}

theorem Spared.of_slot (h : w₁.slot = w.slot) : Spared w w₁ := by
  simp only [World.slot, Prod.mk.injEq] at h
  obtain ⟨hactive, htransfers, hsessions, hid⟩ := h
  refine ⟨htransfers.ge, hsessions.ge, fun s hs => .inl ?_, fun k n hk => .inl (hactive ▸ hk)⟩
  rw [← hid, hs, Option.map_some]

theorem Spared.refl (w : World) : Spared w w := .of_slot rfl

/-- Unloading the session in output spares the slot. -/
theorem Spared.of_unload
    (h : w₁.slot = (w.manager.active, w.manager.nextTransfer, w.nextSession, none)) :
    Spared w w₁ := by
  simp only [World.slot, Prod.mk.injEq, Option.map_eq_none_iff] at h
  obtain ⟨hactive, htransfers, hsessions, hnone⟩ := h
  refine ⟨htransfers.ge, hsessions.ge, fun s hs => ?_, fun k n hk => .inl (hactive ▸ hk)⟩
  rw [hnone] at hs
  cases hs

/-- A transfer that took the free slot spares it. -/
theorem Spared.of_took_idle {k : TrackId} (hidle : w.manager.active = none)
    (h : TookSlot k w w₁) : Spared w w₁ := by
  simp only [TookSlot, World.slot, Prod.mk.injEq] at h
  obtain ⟨-, htransfers, hsessions, hid⟩ := h
  refine ⟨by omega, hsessions.ge, fun s hs => .inl ?_, fun k n hk => ?_⟩
  · rw [← hid, hs, Option.map_some]
  · rw [hidle] at hk
    cases hk

/-- A song loaded after a stretch that spared the slot was loaded over both. -/
theorem Reloaded.of_later (h₁ : Spared w w₁) (h₂ : Reloaded w₁ w₂) : Reloaded w w₂ where
  started := by
    obtain ⟨k, n, hk, hn⟩ := h₂.started
    exact ⟨k, n, hk, Nat.le_trans h₁.transfers hn⟩
  opened := Nat.lt_of_le_of_lt h₁.sessions h₂.opened
  fresh s hs := Nat.le_trans h₁.sessions (h₂.fresh s hs)

/-- A song loaded before a stretch that spares the slot stays loaded over both. -/
theorem Reloaded.then (h : Spared w w₁) (h₁ : Reloaded w w₁) (h₂ : Spared w₁ w₂) :
    Reloaded w w₂ where
  started := by
    obtain ⟨k, n, hk, hn⟩ := h₁.started
    rcases h₂.slot k n hk with hkept | hre
    · exact ⟨k, n, hkept, hn⟩
    · exact (Reloaded.of_later h hre).started
  opened := Nat.lt_of_lt_of_le h₁.opened h₂.sessions
  fresh s hs := by
    rcases h₂.session s hs with hsame | hlater
    · -- the session is the one loaded at `w₁`, opened after `w`
      obtain ⟨s₁, hs₁, hid⟩ := Option.map_eq_some_iff.mp hsame
      exact hid ▸ h₁.fresh s₁ hs₁
    · exact Nat.le_trans (Nat.le_of_lt h₁.opened) hlater

theorem Spared.trans (h₁ : Spared w w₁) (h₂ : Spared w₁ w₂) : Spared w w₂ where
  transfers := Nat.le_trans h₁.transfers h₂.transfers
  sessions := Nat.le_trans h₁.sessions h₂.sessions
  session s hs := by
    rcases h₂.session s hs with hsame | hlater
    · obtain ⟨s₁, hs₁, hid⟩ := Option.map_eq_some_iff.mp hsame
      exact hid ▸ h₁.session s₁ hs₁
    · exact .inr (Nat.le_trans h₁.sessions hlater)
  slot k n hk := by
    rcases h₁.slot k n hk with hkept | hre
    · rcases h₂.slot k n hkept with hkept₂ | hre₂
      · exact .inl hkept₂
      · exact .inr (Reloaded.of_later h₁ hre₂)
    · exact .inr (hre.then h₁ h₂)

/-- What keeps the slot after a stretch that spared it spares it too. -/
theorem Spared.keep (h : Spared w w₁) (h' : w₂.slot = w₁.slot) : Spared w w₂ :=
  h.trans (.of_slot h')

end Relations

/-- `a` spares the download slot from any world. -/
def SparesTransfer {α : Type} (a : Act α) : Prop := ∀ w, Holds a (fun _ w' => Spared w w') w

section Rules

variable {α β : Type} {a : Act α} {w w₁ : World}

theorem Spared.then (h : Spared w w₁) (ha : SparesTransfer a) :
    Holds a (fun _ w' => Spared w w') w₁ :=
  (ha w₁).mono fun _ _ h' => h.trans h'

/-- Run where the slot is as a stretch from `w` left it, what spares the slot goes on sparing it
for the stretch from `w`. -/
theorem SparesTransfer.after {w₂ : World} (ha : SparesTransfer a) (h : Spared w w₁)
    (h' : w₂.slot = w₁.slot) : Holds a (fun _ w' => Spared w w') w₂ :=
  (h.keep h').then ha

theorem SparesTransfer.of_keeps (h : Keeps World.slot a) : SparesTransfer a :=
  fun _ => h.holds fun _ _ h' => .of_slot h'

theorem SparesTransfer.bind {f : α → Act β} (ha : SparesTransfer a)
    (hf : ∀ x, SparesTransfer (f x)) : SparesTransfer (a >>= f) := fun w => by
  rw [holds_bind]
  exact (ha w).mono fun x _ h => h.then (hf x)

-- the spans a task or a span sets aside are no part of the slot
theorem SparesTransfer.detached (h : SparesTransfer a) : SparesTransfer (detached a) := fun w => by
  rw [holds_detached]
  refine (h _).mono fun _ w' h' => ?_
  have hin : Spared w { w with spans := [] } := .of_slot rfl
  have hout : Spared w' { w' with spans := w.spans } := .of_slot rfl
  exact (hin.trans h').trans hout

theorem SparesTransfer.inSpan (h : SparesTransfer a) (name : String) :
    SparesTransfer (inSpan name a) := fun w => by
  rw [holds_inSpan]
  refine (h _).mono fun _ w' h' => ?_
  have hin : Spared w { w with spans := name :: w.spans } := .of_slot rfl
  have hout : Spared w' { w' with spans := w'.spans.drop 1 } := .of_slot rfl
  exact (hin.trans h').trans hout

end Rules

/-! ## Loading a song -/

section Loading

theorem teardown_unloads (w : World) :
    Holds teardown (fun _ w' =>
      w'.slot = (w.manager.active, w.manager.nextTransfer, w.nextSession, none)) w := by
  simp only [teardown, holds_bind, holds_controller]
  split
  · rename_i hnone
    simp only [holds_pure, World.slot, hnone, Option.map_none]
  · simp only [holds_bind, holds_modifyController, holds_discard, holds_decoderCall]
    split
    · rfl
    · simp only [holds_log]
      rfl

theorem stop_unloads (w : World) :
    Holds stop (fun _ w' =>
      w'.slot = (w.manager.active, w.manager.nextTransfer, w.nextSession, none)) w := by
  simp only [stop, holds_bind]
  refine (teardown_unloads w).mono fun _ w₁ h₁ => ?_
  simp only [holds_controller, holds_setState]
  split <;> simp only [holds_modifyController, holds_modify] <;> exact h₁

theorem stop_spares : SparesTransfer stop :=
  fun w => (stop_unloads w).mono fun _ _ h => .of_unload h

/-- Opening a track's content keeps the slot, unless it succeeds after starting the track's
download, which takes the slot. -/
theorem materialize_takes (track : TrackId) (w : World) :
    Holds (materialize track).run (fun r w' => w'.slot = w.slot ∨
      (∃ x, r = .ok x) ∧ ∃ k, TookSlot k w w') w := by
  -- every step before the download's start keeps the slot, and a failure ends the attempt there
  unfold materialize
  refine Holds.attemptBind (P := fun _ w₁ => w₁.slot = w.slot)
    ((lookupTrack_keeps track).of_id _ |>.holds fun _ _ h => h) (fun t w₁ h₁ => ?_)
    fun _ _ h => .inl h
  refine Holds.attemptBind (P := fun _ w₂ => w₂.slot = w.slot)
    ((Cache.committedPath_outside t).slot_of_outsideCache.holds fun _ _ h => h.trans h₁)
    (fun cached w₂ h₂ => ?_) fun _ _ h => .inl h
  cases cached with
  | some path =>
    simp only [holds_attempt_bind, holds_liftM, holds_emitBuffer, holds_attempt_pure]
    exact .inl h₂
  | none =>
    dsimp only
    rw [holds_attempt_bind, holds_attempt_get]
    dsimp only
    split
    · simp only [holds_attempt_bind, holds_attempt_pure, holds_liftM, holds_emitBuffer]
      exact .inl h₂
    · refine Holds.attemptBind (P := fun _ w₃ => w₃.slot = w.slot)
        ((Cache.requestStorage_outside t).slot_of_outsideCache.holds fun _ _ h => h.trans h₂)
        (fun path w₃ h₃ => ?_) fun _ _ h => .inl h
      refine Holds.attemptBind (P := fun _ w₄ => w₄.slot = w.slot)
        ((Cache.partialLength_outside path).slot_of_outsideCache.holds fun _ _ h => h.trans h₃)
        (fun offset w₄ h₄ => ?_) fun _ _ h => .inl h
      simp only [holds_attempt_bind, holds_attempt_discard, holds_liftM, holds_attempt_pure,
        holds_emitBuffer]
      exact (Downloads.start_takes _ w₄).mono fun _ _ h₅ =>
        .inr ⟨⟨_, rfl⟩, _, TookSlot.of_slot h₄ h₅⟩

/-- Opening a track's content draws no session number, whether its download kept the slot or
took it. -/
theorem nextSession_of_takes {w w₁ : World}
    (h : w₁.slot = w.slot ∨ ∃ k, TookSlot k w w₁) : w₁.nextSession = w.nextSession := by
  rcases h with hkept | ⟨k, htook⟩
  · exact congrArg (·.2.2.1) hkept
  · exact congrArg (·.2.2.1) htook

/-- Drawing a session number after opening a track's content, for a player with nothing in
output, spares the slot: where the track's download took the slot, the number drawn after it
makes that a loading. -/
theorem Spared.of_drawn {w w₁ w₂ : World} (hw : w.controller.session = none)
    (h₁ : w₁.slot = w.slot ∨ ∃ k, TookSlot k w w₁)
    (h₂ : w₂.slot = (w₁.manager.active, w₁.manager.nextTransfer, w₁.nextSession + 1,
      w₁.controller.session.map (·.id))) :
    Spared w w₂ := by
  simp only [World.slot, Prod.mk.injEq] at h₂
  obtain ⟨hactive, htransfers, hsessions, hid⟩ := h₂
  rcases h₁ with hkept | ⟨k, htook⟩
  · simp only [World.slot, Prod.mk.injEq] at hkept
    refine ⟨by omega, by omega, fun s hs => .inl ?_, fun k n hk => .inl ?_⟩
    · rw [← hkept.2.2.2, ← hid, hs, Option.map_some]
    · rw [hactive, hkept.1, hk]
  · -- no session was in output when the track's transfer took the slot, and none is after it
    simp only [TookSlot, World.slot, Prod.mk.injEq, hw, Option.map_none] at htook
    have hnone : w₂.controller.session = none := by
      rw [← Option.map_eq_none_iff (f := (·.id)), hid, htook.2.2.2]
    refine ⟨by omega, by omega, fun s hs => ?_,
      fun _ _ _ => .inr ⟨?_, by omega, fun s hs => ?_⟩⟩
    · rw [hnone] at hs
      cases hs
    · exact ⟨k, w.manager.nextTransfer, by rw [hactive, htook.1], Nat.le_refl _⟩
    · rw [hnone] at hs
      cases hs

/-- Opening a track for a player with nothing in output spares the slot. The session opened is
numbered from the counter. -/
theorem openTrack_spared (track : TrackId) (w : World) (hw : w.controller.session = none) :
    Holds (openTrack track).run
      (fun r w' => Spared w w' ∧ ∀ s, r = .ok s → w.nextSession ≤ s.id) w := by
  refine openTrack_holds ((materialize_takes track w).mono fun r w₁ h₁ =>
    ⟨fun e he => ?_, fun t src hr _ => ?_⟩)
  · -- nothing was started, since the content failed to open
    refine ⟨.of_slot (h₁.resolve_right ?_), fun _ h => (by cases h)⟩
    rintro ⟨⟨_, h⟩, -⟩
    rw [he] at h
    cases h
  · -- the content opened, a number was drawn, and the decoder calls leave the slot alone
    have hopened := h₁.imp_right And.right
    refine ⟨⟨.of_drawn hw hopened rfl, fun s hs => ?_⟩,
      fun _ => ⟨.of_drawn hw hopened rfl, fun _ h => (by cases h)⟩⟩
    cases hs
    exact Nat.le_of_eq (nextSession_of_takes hopened).symm

theorem adoptSession_slot (paused : Bool) (q : PlayQueue) (track : TrackId) (s : Session)
    (w : World) :
    Holds (adoptSession paused q track s) (fun _ w' =>
      w'.slot = (w.manager.active, w.manager.nextTransfer, w.nextSession, some s.id)) w := by
  simp only [adoptSession, holds_log, holds_bind, holds_modifyController, holds_setState]
  split <;> split <;> rfl

/-- Taking up a session opened after `w` keeps a stretch from `w` spared. -/
theorem Spared.adopt {w w₁ w₂ : World} {s : Session} (h : Spared w w₁)
    (hs : w.nextSession ≤ s.id)
    (h₂ : w₂.slot =
      (w₁.manager.active, w₁.manager.nextTransfer, w₁.nextSession, some s.id)) :
    Spared w w₂ := by
  simp only [World.slot, Prod.mk.injEq] at h₂
  obtain ⟨hactive, htransfers, hsessions, hid⟩ := h₂
  -- the session in output is the one taken up
  have hnew : ∀ s', w₂.controller.session = some s' → w.nextSession ≤ s'.id := by
    intro s' hs'
    rw [hs', Option.map_some, Option.some.injEq] at hid
    exact hid ▸ hs
  refine ⟨htransfers ▸ h.transfers, hsessions ▸ h.sessions, fun s' hs' => .inr (hnew s' hs'),
    fun k n hk => ?_⟩
  rcases h.slot k n hk with hkept | hre
  · exact .inl (hactive ▸ hkept)
  · exact .inr ⟨hactive ▸ hre.started, hsessions ▸ hre.opened, hnew⟩

/-- Giving up a song keeps the slot, and unloads the player where it stops. -/
theorem skipUnopenable_slot (q : PlayQueue) (track : TrackId) (e : PlaybackError) (w : World) :
    Holds (skipUnopenable q track e) (fun _ w' => w'.slot = w.slot ∨
      w'.slot = (w.manager.active, w.manager.nextTransfer, w.nextSession, none)) w := by
  simp -zeta only [skipUnopenable, holds_log, holds_bind]
  extract_lets next skip
  have hskip : ∀ u w₂, w₂.slot = w.slot → Holds (skip u) (fun _ w' => w'.slot = w.slot ∨
      w'.slot = (w.manager.active, w.manager.nextTransfer, w.nextSession, none)) w₂ := by
    intro u w₂ h₂
    simp only [skip]
    split
    · simp only [holds_bind]
      refine (stop_unloads w₂).mono fun _ w₃ h₃ => ?_
      simp only [World.slot, Prod.mk.injEq] at h₂
      simp only [holds_selectPosition, holds_pure]
      rw [← h₂.1, ← h₂.2.1, ← h₂.2.2.1]
      exact .inr h₃
    · simp only [holds_bind, holds_selectPosition, holds_pure]
      exact .inl h₂
  clear_value skip
  split
  · simp only [holds_bind, holds_emitDownload]
    exact hskip () _ rfl
  · exact hskip () _ rfl

theorem skipUnopenable_spares (q : PlayQueue) (track : TrackId) (e : PlaybackError) :
    SparesTransfer (skipUnopenable q track e) := fun w =>
  (skipUnopenable_slot q track e w).mono fun _ _ h => h.elim .of_slot .of_unload

/-- The search for a song that opens, started with nothing in output, spares the slot: a song
that opens is taken up with a session opened in the search. -/
theorem FirstOpened.spared {paused : Bool} {w w' : World} {o : Option Int}
    (h : FirstOpened paused w o w') (hw : w.controller.session = none) : Spared w w' := by
  induction h with
  | @opened w w₁ t s hcur hopen =>
    obtain ⟨h₁, hs⟩ := (holds_of_run_eq hopen).mp (openTrack_spared t w hw)
    exact h₁.adopt (hs s rfl) (adoptSession_slot paused _ t s w₁)
  | @skipped w w₁ w₂ w' t e o hcur hopen hskip _ ih =>
    obtain ⟨h₁, -⟩ := (holds_of_run_eq hopen).mp (openTrack_spared t w hw)
    have hc₁ : w₁.controller = w.controller :=
      ((holds_of_run_eq hopen).mp (openTrack_frame t w)).1
    have h₂ := (holds_of_run_eq hskip).mp (skipUnopenable_slot _ t e w₁)
    -- the next attempt starts with nothing in output again
    have hw₂ : w₂.controller.session = none := by
      rw [← Option.map_eq_none_iff (f := (·.id))]
      rcases h₂ with h₂ | h₂ <;> simp only [World.slot, Prod.mk.injEq] at h₂ <;>
        rw [h₂.2.2.2]
      rw [hc₁, hw, Option.map_none]
    exact (h₁.trans (h₂.elim .of_slot .of_unload)).trans (ih hw₂)
  | @exhausted w w₁ w' t e hcur hopen hskip =>
    obtain ⟨h₁, -⟩ := (holds_of_run_eq hopen).mp (openTrack_spared t w hw)
    exact h₁.trans ((holds_of_run_eq hskip).mp (skipUnopenable_spares _ t e w₁))
  | @unselected w _ => exact stop_spares w

theorem startPlayback_spares (paused : Bool) : SparesTransfer (startPlayback paused) := fun w => by
  have hunload := teardown_unloads w
  have hnone : (teardown.run w).2.controller.session = none := by
    rw [← Option.map_eq_none_iff (f := (·.id))]
    exact congrArg (·.2.2.2) hunload
  refine (startPlayback_firstOpened paused w).mono ?_
  rintro _ _ ⟨_, ho, -⟩
  exact (Spared.of_unload hunload).trans (ho.spared hnone)

end Loading

/-! ## Prefetching and resuming -/

section Starting

/-- Prefetching a track keeps the slot, or gives it to the download of the track's catalog entry,
which was not committed. -/
theorem prefetchTrack_takes (track : TrackId) (w : World) :
    Holds (prefetchTrack track).run (fun _ w' => w'.slot = w.slot ∨
      ∃ info, w.catalog.lookup track = some info ∧
        ((Cache.committedPath info).run.run w).1 = .ok none ∧ TookSlot info.id w w') w := by
  simp only [prefetchTrack, lookupTrack, holds_attempt_bind, holds_attempt_get]
  split
  case h_2 => exact .inl rfl
  rename_i info hinfo
  simp only [holds_attempt_pure]
  -- the content is looked for where the track was looked up, and read without a change
  have hread : Holds (Cache.committedPath info).run (fun r w₂ =>
      r = ((Cache.committedPath info).run.run w).1 ∧ w₂ = w) w :=
    ⟨rfl, ((committedPath_spec info w)).1⟩
  refine hread.mono ?_
  rintro r w₂ ⟨hc, rfl⟩
  rcases r with e | cached
  · exact .inl rfl
  dsimp only
  split
  · exact .inl rfl
  rename_i hnot
  have hcached : cached = none := Option.not_isSome_iff_eq_none.mp hnot
  refine Holds.attemptBind (P := fun _ w₃ => w₃.slot = w₂.slot)
    ((Cache.requestStorage_outside info).slot_of_outsideCache.holds fun _ _ h => h)
    (fun path w₃ h₃ => ?_) fun _ _ h => .inl h
  refine Holds.attemptBind (P := fun _ w₄ => w₄.slot = w₂.slot)
    ((Cache.partialLength_outside path).slot_of_outsideCache.holds fun _ _ h => h.trans h₃)
    (fun offset w₄ h₄ => ?_) fun _ _ h => .inl h
  simp only [holds_attempt_discard, holds_liftM]
  exact (Downloads.start_takes _ w₄).mono fun _ _ h₅ =>
    .inr ⟨info, hinfo, hcached ▸ hc.symm, TookSlot.of_slot h₄ h₅⟩

/-- Prefetching starts nothing while a transfer holds the slot. -/
theorem prefetch_idle (w : World) (h : w.manager.active.isSome) : prefetch.run w = ((), w) := by
  have hrun : Holds prefetch (fun r w' => (r, w') = ((), w)) w := by
    simp only [prefetch, holds_bind, holds_controller, holds_get, h, Bool.or_true, ↓reduceIte]
    rfl
  exact hrun

theorem prefetch_spares : SparesTransfer prefetch := by
  intro w
  simp only [prefetch, holds_bind, holds_controller, holds_get]
  split
  · exact .refl w
  rename_i hguard
  have hidle : w.manager.active = none := by
    simp only [Bool.or_eq_true, not_or] at hguard
    exact Option.not_isSome_iff_eq_none.mp hguard.2
  split
  · simp only [holds_discard]
    refine (prefetchTrack_takes _ w).mono fun _ _ h => ?_
    rcases h with hkept | ⟨info, -, -, htook⟩
    · exact .of_slot hkept
    · exact .of_took_idle hidle htook
  · exact .refl w

theorem resume_spares : SparesTransfer Downloads.resume := by
  intro w
  simp only [Downloads.resume, holds_inSpan, holds_bind, holds_get]
  split
  · exact .of_slot rfl
  rename_i hguard
  have hidle : w.manager.active = none := Option.not_isSome_iff_eq_none.mp hguard
  split
  · simp only [holds_bind, holds_log, holds_discard, holds_pure]
    exact (Downloads.start_takes _ _).mono fun _ _ h =>
      .of_took_idle hidle (TookSlot.of_slot rfl h)
  · exact .of_slot rfl

end Starting

/-! ## Every handler spares the slot -/

section Handlers

theorem startPlayback_emitPlay_spares :
    SparesTransfer (do if ← startPlayback false then emitPlay) :=
  .bind (startPlayback_spares false) fun loaded => by
    split
    · exact .of_keeps keeps_loadState_emitPlay.slot_of_loadState
    · exact .of_keeps (keeps_pure _ _)

/-- A jump loads the song it selects, and prefetches when that is done; unselecting stops. -/
theorem jump_spares (i : Int) : SparesTransfer (jump i) := by
  unfold jump
  refine .inSpan (fun w => ?_) _
  simp only [holds_bind, holds_queue]
  split
  · exact .refl w
  split
  · simp only [holds_bind, holds_controller]
    split
    · rw [holds_bind]
      refine (stop_spares w).mono fun _ w₁ h₁ => ?_
      simp only [holds_bind, holds_selectPosition, holds_pure]
      exact h₁.keep rfl
    · simp only [holds_bind, holds_selectPosition, holds_pure]
      exact .of_slot rfl
  · simp only [holds_bind, holds_selectPosition, holds_queue]
    -- the song selected is announced or not; the search and the prefetch follow either way
    split
    all_goals
      simp only [holds_bind, holds_emitMove, holds_controller]
      refine Holds.mono ((startPlayback_spares _).after (.refl w) rfl) fun loaded w₂ h₂ => ?_
      split
      · rw [holds_bind, holds_emitMove]
        exact prefetch_spares.after h₂ rfl
      · exact h₂.then prefetch_spares

theorem next_spares : SparesTransfer next := by
  intro w
  simp only [next, holds_bind, holds_queue]
  split
  · exact jump_spares _ w
  · rw [holds_bind]
    refine (stop_spares w).mono fun _ w₁ h₁ => ?_
    simp only [holds_selectPosition]
    exact h₁.keep rfl

/-- Dropping the song in output unloads it before moving on. -/
theorem skipCurrent_spares : SparesTransfer skipCurrent := by
  intro w
  simp only [skipCurrent, holds_bind, holds_controller]
  split
  · simp only [holds_bind, holds_modifyController, holds_decoderCall]
    split
    · exact (Spared.of_unload (w := w) rfl).then next_spares
    · simp only [holds_bind, holds_log]
      exact (Spared.of_unload (w := w) rfl).then next_spares
  · exact next_spares w

theorem unpause_spares : SparesTransfer unpause := by
  intro w
  simp only [unpause, holds_bind, holds_controller]
  split
  · exact .refl w
  -- the resumption itself drops the offset and announces the unpause
  have resumed : ∀ w₁ : World, Spared w w₁ →
      Holds (do modifyController fun c => { c with pausedOffsetMs := none }; emitMove .unpause)
        (fun _ w' => Spared w w') w₁ := by
    intro w₁ h₁
    simp only [holds_bind, holds_modifyController, holds_emitMove]
    exact h₁.keep rfl
  split
  · rw [holds_bind, holds_decoderCall]
    split
    · simp only [holds_bind, holds_log]
      exact skipCurrent_spares.after (.refl w) rfl
    · rw [holds_bind, holds_setState]
      split <;> exact resumed _ (.of_slot rfl)
  · rw [holds_bind, holds_setState]
    split <;> exact resumed _ (.of_slot rfl)
  · rw [holds_bind]
    refine (startPlayback_spares false w).mono fun loaded w₁ h₁ => ?_
    cases loaded
    · exact h₁
    · exact resumed w₁ h₁

theorem play_spares : SparesTransfer play := by
  intro w
  simp only [play, holds_bind, holds_controller]
  split
  · exact unpause_spares w
  · exact .refl w
  · exact .refl w
  · simp only [holds_bind, holds_queue]
    split
    · split
      · exact .refl w
      · simp only [holds_bind, holds_selectPosition]
        exact startPlayback_emitPlay_spares.after (.refl w) rfl
    · exact startPlayback_emitPlay_spares w

theorem previous_spares : SparesTransfer previous := by
  intro w
  by_cases hne : w.controller.queue.tracks = []
  · simp only [previous, holds_bind, holds_queue, List.isEmpty_iff, hne, ↓reduceIte]
    refine (stop_spares w).mono fun _ w₁ h₁ => ?_
    simp only [holds_selectPosition]
    exact h₁.keep rfl
  by_cases hearly : w.controller.state.isPlaying = true ∧
      max (tell.run w).1 0 < w.controller.settings.restartThresholdMs
  · rw [holds_iff_of_run_eq (previous_restarts w hne hearly.1 hearly.2)]
    split
    · exact SparesTransfer.of_keeps (keeps_loadState_seek 0).slot_of_loadState w
    · exact .refl w
  · rw [holds_iff_of_run_eq (previous_jumps w hne hearly)]
    exact jump_spares _ w

/-- An insert plays the song inserted into a stopped player, and prefetches one inserted right
after the selection. -/
theorem insert_spares (t : TrackId) (i : Int) : SparesTransfer (insert t i) := by
  intro w
  simp only [insert, holds_bind, holds_queue]
  split
  · exact .refl w
  · simp only [holds_bind, holds_setQueue, holds_emitChange, holds_controller]
    split
    · simp only [holds_bind, holds_selectPosition]
      exact play_spares.after (.refl w) rfl
    · split
      · exact prefetch_spares.after (.refl w) rfl
      · exact .of_slot rfl

/-- A removal stops the song in output first when it removes that song. -/
theorem remove_spares (i : Int) : SparesTransfer (remove i) := by
  intro w
  simp only [remove, holds_bind, holds_queue]
  split
  · exact .refl w
  · simp only [holds_bind, holds_controller]
    split
    · rw [holds_bind]
      refine (stop_spares w).mono fun _ w₁ h₁ => ?_
      simp only [holds_bind, holds_queue]
      split
      · simp only [holds_bind, holds_setQueue, holds_emitChange]
        exact h₁.keep rfl
      · exact h₁
    · simp only [holds_bind, holds_queue]
      split
      · simp only [holds_bind, holds_setQueue, holds_emitChange]
        exact .of_slot rfl
      · exact .refl w

theorem moveSong_spares (src dst : Int) : SparesTransfer (moveSong src dst) := by
  intro w
  simp only [moveSong, holds_bind, holds_queue]
  split
  · exact .refl w
  · simp only [holds_bind, holds_setQueue, holds_emitChange]
    split
    · exact prefetch_spares.after (.refl w) rfl
    · exact .of_slot rfl

theorem clear_spares : SparesTransfer clear := by
  intro w
  simp only [clear, holds_bind]
  refine (stop_spares w).mono fun _ w₁ h₁ => ?_
  simp only [holds_queue, holds_setQueue, holds_emitChange]
  exact h₁.keep rfl

theorem releaseFailed_spares (track : TrackId) : SparesTransfer (releaseFailed track) :=
  .of_keeps (releaseFailed_outside track).slot_of_outsideCache

theorem releaseSuperseded_spares (track : TrackId) : SparesTransfer (releaseSuperseded track) :=
  .of_keeps (releaseSuperseded_outside track).slot_of_outsideCache

theorem apply_spares (c : Command) : SparesTransfer (apply c) := by
  cases c with
  | play => exact play_spares
  | pause => exact .of_keeps keeps_loadState_pause.slot_of_loadState
  | unpause => exact unpause_spares
  | stop => exact stop_spares
  | seek ms => exact .of_keeps (keeps_loadState_seek ms).slot_of_loadState
  | next => exact next_spares
  | previous => exact previous_spares
  | jump i => exact jump_spares i
  | insert t i => exact insert_spares t i
  | prepend t => exact insert_spares t 0
  | append t => exact .bind (.of_keeps fun _ => rfl) fun q => insert_spares t _
  | insertNext t => exact .bind (.of_keeps fun _ => rfl) fun q => insert_spares t _
  | remove i => exact remove_spares i
  | move src dst => exact moveSong_spares src dst
  | clear => exact clear_spares

theorem onCallState_spares (s : CallState) : SparesTransfer (onCallState s) := by
  intro w
  simp only [onCallState, holds_bind, holds_controller]
  split
  · split
    · simp only [holds_bind, holds_log]
      refine keeps_loadState_pause.slot_of_loadState.holds fun _ w₁ h₁ => ?_
      simp only [holds_modifyController]
      exact .of_slot h₁
    · exact .refl w
  · split
    · simp only [holds_bind, holds_log, holds_modifyController]
      exact unpause_spares.after (.refl w) rfl
    · exact .refl w

/-- A decoder callback keeps the number of the session in output, or drops the session and moves
on. -/
theorem onDecoderEvent_spares (e : DecoderEvent) : SparesTransfer (onDecoderEvent e) := by
  intro w
  simp only [onDecoderEvent, holds_bind, holds_controller]
  split
  · exact .refl w
  rename_i s hs
  split
  · exact .refl w
  split
  · simp only [holds_bind, holds_modifyController]
    -- marking the session prepared keeps its number
    have h₁ : Spared w { w with controller := { w.controller with
        session := some { s with prepared := true } } } :=
      .of_slot (by simp only [World.slot, hs, Option.map_some])
    split
    · rw [holds_bind, holds_decoderCall]
      split
      · simp only [holds_bind, holds_log]
        exact skipCurrent_spares.after h₁ rfl
      · rw [holds_setState]
        split <;> exact h₁.keep rfl
    · exact h₁
  · simp only [holds_bind, holds_log]
    exact skipCurrent_spares.after (.refl w) rfl
  · simp only [holds_bind, holds_log, holds_get]
    split
    · split
      · simp only [holds_bind, holds_emitDownload]
        exact skipCurrent_spares.after (.refl w) rfl
      · exact skipCurrent_spares.after (.refl w) rfl
    · exact skipCurrent_spares.after (.refl w) rfl
  · rw [holds_emitBuffer]
    exact .of_slot rfl

/-- A download notice prefetches after a finished download and skips the song in output when its
download failed for good. -/
theorem onDownloadEvent_spares (e : DownloadEvent) : SparesTransfer (onDownloadEvent e) := by
  intro w
  simp only [onDownloadEvent, holds_bind, holds_controller, holds_emitDownload]
  split
  · split
    · rw [holds_emitBuffer]
      exact .of_slot rfl
    · exact .of_slot rfl
  · split
    · rw [holds_bind, holds_emitBuffer]
      exact prefetch_spares.after (.refl w) rfl
    · exact prefetch_spares.after (.refl w) rfl
  · rw [holds_bind]
    refine Holds.mono ((releaseFailed_spares _).after (.refl w) rfl) fun _ w₂ h₂ => ?_
    split
    · simp only [holds_bind, holds_log]
      exact skipCurrent_spares.after h₂ rfl
    · exact h₂
  · exact (releaseSuperseded_spares _).after (.refl w) rfl
  · exact .of_slot rfl

theorem onSignal_spares (s : Signal) : SparesTransfer (onSignal s) := by
  cases s with
  | call s => exact onCallState_spares s
  | connectivityRestored => exact resume_spares

theorem SparesTransfer.handle {α : Type} {a : Act α} (h : SparesTransfer a) :
    SparesTransfer (handle a) :=
  .detached (.bind h fun _ =>
    .bind (.of_keeps keeps_loadState_saveIfDirty.slot_of_loadState) fun _ =>
      .of_keeps (keeps_pure _ _))

theorem SparesTransfer.request {α : Type} {a : Act α} (h : SparesTransfer a) :
    SparesTransfer (request a) := by
  intro w
  simp only [Player.request, holds_bind, holds_get]
  split
  · exact .refl w
  · simp only [holds_bind, holds_pure]
    exact h.handle w

theorem restore_spares (snap : Snapshot) : SparesTransfer (restore snap) := by
  intro w
  simp only [restore, holds_bind, holds_modifyController, holds_queue]
  split
  · exact .of_slot rfl
  · split
    · simp only [holds_bind, holds_modifyController, holds_publish, holds_log]
      exact .of_slot rfl
    · exact startPlayback_emitPlay_spares.after (.refl w) rfl

/-- A piece of pending work spares the slot, unless it runs a transfer's task. -/
theorem settleOnce_spares (w : World) : Holds settleOnce (fun _ w' => Spared w w' ∨
    ∃ t ∈ w.manager.tasks, w' = ((Downloads.runTask t).run w).2) w := by
  refine settleOnce_holds (fun _ _ => ?_) (fun _ _ _ _ => ?_) (fun _ _ _ _ _ => ?_)
    (fun _ _ _ t ht => .inr ⟨t, List.mem_of_find?_eq_some ht, rfl⟩)
    (fun _ _ _ _ => .inl (.refl w))
  · split
    · simp only [holds_detached]
      exact Holds.mono ((restore_spares _).after (.refl w) rfl) fun _ _ h => .inl (h.keep rfl)
    · exact .inl (.of_slot rfl)
  · split
    · exact Holds.mono ((onDecoderEvent_spares _).handle.after (.refl w) rfl) fun _ _ h => .inl h
    · exact .inl (.of_slot rfl)
  · split
    · exact Holds.mono ((onDownloadEvent_spares _).handle.after (.refl w) rfl) fun _ _ h => .inl h
    · exact .inl (.of_slot rfl)

end Handlers

/-! ## The slot in a running player -/

section Runs

/-- Prefetching gives the slot only to the download of the next song's content, when prefetching
is on, the slot was free and that content is not committed. -/
theorem prefetch_takes_next (w : World) {k : TrackId} {n : Nat}
    (h : (prefetch.run w).2.manager.active = some (k, n)) :
    w.manager.active = some (k, n) ∨
      w.manager.active = none ∧ w.controller.settings.prefetch = true ∧
        n = w.manager.nextTransfer ∧
        ∃ t info, w.controller.queue.songAt w.controller.queue.peekNext = some t ∧
          w.catalog.lookup t = some info ∧ info.id = k ∧
          ((Cache.committedPath info).run.run w).1 = .ok none := by
  -- the hypothesis is about the world the prefetch leaves, so it joins the postcondition
  revert h
  change Holds prefetch (fun _ w' => w'.manager.active = some (k, n) → _) w
  simp only [prefetch, holds_bind, holds_controller, holds_get]
  split
  · exact .inl
  rename_i hguard
  simp only [Bool.or_eq_true, not_or, Bool.not_eq_true', Bool.not_eq_false] at hguard
  have hidle : w.manager.active = none := Option.not_isSome_iff_eq_none.mp hguard.2
  split
  · rename_i t hsong
    simp only [holds_discard]
    refine (prefetchTrack_takes t w).mono fun _ w' h' hk => ?_
    rcases h' with hkept | ⟨info, hinfo, hcommitted, htook⟩
    · simp only [World.slot, Prod.mk.injEq] at hkept
      exact .inl (hkept.1 ▸ hk)
    · simp only [TookSlot, World.slot, Prod.mk.injEq] at htook
      rw [htook.1, Option.some.injEq, Prod.mk.injEq] at hk
      exact .inr ⟨hidle, hguard.1, hk.2.symm, t, info, hsong, hinfo, hk.1, hcommitted⟩
  · exact .inl

/-- Reconnecting resumes nothing while a transfer holds the slot. -/
theorem reconnect_idle (w : World) (h : w.manager.active.isSome) :
    (onSignal .connectivityRestored).run w = ((), w) := by
  have hrun : Holds (onSignal .connectivityRestored) (fun r w' => (r, w') = ((), w)) w := by
    simp only [onSignal, holds_discard]
    rw [holds_of_run_eq (Downloads.resume_unchanged w (.inl h))]
  exact hrun

/-- At a step of a running player, the transfer holding the slot keeps it, ends by its own run,
or is superseded by a song the step loaded. -/
theorem TransferStep.slot {w w' : World} (hw : Mirrored w) (h : TransferStep w w') {k : TrackId}
    {n : Nat} (hk : w.manager.active = some (k, n)) :
    w'.manager.active = some (k, n) ∨ Reloaded w w' ∨
      ∃ t ∈ w.manager.tasks, t.transfer = n ∧ Downloads.TaskRun t w w' := by
  -- a handled message spares the slot
  have spared : ∀ {w'}, Spared w w' → w'.manager.active = some (k, n) ∨ Reloaded w w' ∨
      ∃ t ∈ w.manager.tasks, t.transfer = n ∧ Downloads.TaskRun t w w' := fun hs =>
    (hs.slot k n hk).imp_right .inl
  cases h with
  | command c => exact spared ((apply_spares c).request w)
  | query q => exact spared (SparesTransfer.request (.of_keeps ((answer_keeps q).of_id _)) w)
  | signal s => exact spared ((onSignal_spares s).request w)
  | work =>
    rcases settleOnce_spares w with hs | ⟨t, ht, hrun⟩
    · exact spared hs
    -- every task is the one of the transfer holding the slot
    obtain ⟨d, hd, hn, -, ha⟩ := hw.sound.task_record ht
    have hslot := (hw.sound.tasks t ht).1
    rw [hk, Option.some.injEq, Prod.mk.injEq] at hslot
    refine .inr (.inr ⟨t, ht, hslot.2.symm, ?_⟩)
    rw [hrun]
    exact Downloads.runTask_spec t w hd hn ha
  | wake => exact .inl hk
  | host hd =>
    have hm : w'.manager = w.manager := congrArg (·.2.2.1) hd
    exact .inl (hm ▸ hk)

/-- The download slot in a running player. Prefetching and reconnecting leave a world whose slot
is taken as it is; prefetching gives the slot to nothing but the download of the next song's
content, not yet committed; and at every step the transfer holding the slot keeps it, ends by its
own run, or is superseded by a song the step loaded, after the session in output was unloaded. -/
structure OnlyLoadingSupersedes (w : World) : Prop where
  prefetch_idle : w.manager.active.isSome → prefetch.run w = ((), w)
  reconnect_idle : w.manager.active.isSome → (onSignal .connectivityRestored).run w = ((), w)
  prefetch_next : ∀ k n, (prefetch.run w).2.manager.active = some (k, n) →
    w.manager.active = some (k, n) ∨
      w.manager.active = none ∧ w.controller.settings.prefetch = true ∧
        n = w.manager.nextTransfer ∧
        ∃ t info, w.controller.queue.songAt w.controller.queue.peekNext = some t ∧
          w.catalog.lookup t = some info ∧ info.id = k ∧
          ((Cache.committedPath info).run.run w).1 = .ok none
  step : ∀ w', TransferStep w w' → ∀ k n, w.manager.active = some (k, n) →
    w'.manager.active = some (k, n) ∨ Reloaded w w' ∨
      ∃ t ∈ w.manager.tasks, t.transfer = n ∧ Downloads.TaskRun t w w'

theorem TransferRun.only_loading_supersedes {w : World} (h : TransferRun w) :
    OnlyLoadingSupersedes w where
  prefetch_idle := prefetch_idle w
  reconnect_idle := reconnect_idle w
  prefetch_next _ _ := prefetch_takes_next w
  step _ hs _ _ hk := hs.slot h.mirrored hk

/-- The player on the host whose server cannot be reached, with the track inserted: it loads the
track, whose download takes the slot. -/
def unreachableLoading : World :=
  ((command (.insert 1 0)).run ((spawn cacheSetup).run unreachableHost).2).2

theorem unreachable_loading_only_loading_supersedes :
    TransferRun unreachableLoading ∧ unreachableLoading.manager.active.isSome ∧
      OnlyLoadingSupersedes unreachableLoading :=
  have h : TransferRun unreachableLoading :=
    .step (.start unreachableHost cacheSetup rfl rfl rfl) (.command _ _)
  ⟨h, by decide +kernel, h.only_loading_supersedes⟩

end Runs

end PlaybackEngine.Player
