import PlaybackEngine.Proofs.Frames
import PlaybackEngine.Player.Actor

set_option autoImplicit false

/-!
# The player's state stays consistent

Between two messages the player's state agrees with itself: a player that is not stopped has a
song selected; a stopped one has nothing loaded; a song is loaded while it prepares or plays,
and it is prepared exactly when it plays; a pause with nothing loaded knows the offset it
stands at. The state last published is the state the player is in.

Handlers pass through states that break this (a song is unloaded before the next one loads),
so each one is specified from the weaker fact it needs, `Live`, and ends in a `Settled` state.
-/

namespace PlaybackEngine.Player

open World

/-- What each play state requires of the player's state. -/
def Consistent (c : Controller) : Prop :=
  match c.state with
  | .stopped => c.session = none
  | .preparing => c.queue.inBounds c.queue.position ∧ c.session.map (·.prepared) = some false
  | .playing => c.queue.inBounds c.queue.position ∧ c.session.map (·.prepared) = some true
  | .paused => c.queue.inBounds c.queue.position ∧ (c.session.isSome ∨ c.pausedOffsetMs.isSome)

instance (c : Controller) : Decidable (Consistent c) := by
  unfold Consistent
  split <;> infer_instance

/-- The player has taken up its recovered state, and it published the state it is in. -/
def Live (w : World) : Prop := w.controller.recovered = none ∧ w.published = w.controller.state

/-- The player between two messages. -/
def Settled (w : World) : Prop := Live w ∧ Consistent w.controller

/-- Stopped with nothing loaded. -/
def Stopped (w : World) : Prop := w.controller.state = .stopped ∧ w.controller.session = none

/-- A started player between two messages: settled, or stopped with the state it recovered
still to take up. -/
def Ready (w : World) : Prop :=
  Settled w ∨ (w.controller.recovered.isSome ∧ Stopped w ∧ w.published = .stopped)

section Access

variable {α : Type} {w : World}

@[simp] theorem holds_controller (Q : Controller → World → Prop) :
    Holds controller Q w ↔ Q w.controller w := Iff.rfl

@[simp] theorem holds_queue (Q : PlayQueue → World → Prop) :
    Holds queue Q w ↔ Q w.controller.queue w := Iff.rfl

@[simp] theorem holds_modifyController (f : Controller → Controller) (Q : Unit → World → Prop) :
    Holds (modifyController f) Q w ↔ Q () { w with controller := f w.controller } := Iff.rfl

@[simp] theorem holds_setQueue (q : PlayQueue) (Q : Unit → World → Prop) :
    Holds (setQueue q) Q w ↔
      Q () { w with controller := { w.controller with queue := q, dirty := true } } := Iff.rfl

@[simp] theorem holds_selectPosition (p : Int) (Q : Unit → World → Prop) :
    Holds (selectPosition p) Q w ↔
      Q () { w with controller := { w.controller with
        queue := (w.controller.queue.setPosition p).getD w.controller.queue, dirty := true } } :=
  Iff.rfl

theorem holds_setState (s : PlayState) (Q : Unit → World → Prop) :
    Holds (setState s) Q w ↔
      if w.controller.state ≠ s then
        Q () { w with controller := { w.controller with state := s, dirty := true },
                      published := s, stateChanges := w.stateChanges ++ [s] }
      else Q () w := by
  unfold setState
  simp only [holds_bind, holds_controller]
  split <;> rfl

end Access

theorem PlayQueue.inBounds_of_current {q : PlayQueue} {t : TrackId} (h : q.current = some t) :
    q.inBounds q.position := by
  unfold PlayQueue.current PlayQueue.songAt at h
  split at h
  · assumption
  · cases h

theorem World.controller_of_actor {w w' : World} (h : w'.actor = w.actor) :
    w'.controller = w.controller := congrArg Prod.fst h

theorem World.published_of_actor {w w' : World} (h : w'.actor = w.actor) :
    w'.published = w.published := congrArg (·.2.1) h

theorem Live.of_actor {w w' : World} (h : w'.actor = w.actor) (hw : Live w) : Live w' := by
  unfold Live
  rw [World.controller_of_actor h, World.published_of_actor h]
  exact hw

theorem Settled.of_actor {w w' : World} (h : w'.actor = w.actor) (hw : Settled w) : Settled w' := by
  refine ⟨hw.1.of_actor h, ?_⟩
  rw [World.controller_of_actor h]
  exact hw.2

theorem Stopped.consistent {w : World} (hs : Stopped w) : Consistent w.controller := by
  unfold Consistent
  rw [hs.1]
  exact hs.2

theorem Stopped.settled {w : World} (hl : Live w) (hs : Stopped w) : Settled w :=
  ⟨hl, hs.consistent⟩

theorem PlayQueue.peekNext_lt {q : PlayQueue} (h : 0 ≤ q.peekNext) : q.peekNext < q.length := by
  unfold PlayQueue.peekNext at h ⊢
  unfold PlayQueue.inBounds at h ⊢
  split at h
  · rename_i hb
    simp only [Bool.and_eq_true, decide_eq_true_eq] at hb
    simp only [Bool.and_eq_true, decide_eq_true_eq, hb, and_self, if_true]
  · omega

theorem PlayQueue.inBounds_iff {q : PlayQueue} {p : Int} :
    q.inBounds p ↔ 0 ≤ p ∧ p < q.tracks.length := by
  simp only [PlayQueue.inBounds, Bool.and_eq_true, decide_eq_true_eq]
  rfl

theorem PlayQueue.inBounds_of_songAt {q : PlayQueue} {p : Int} {t : TrackId}
    (h : q.songAt p = some t) : q.inBounds p := by
  unfold PlayQueue.songAt at h
  split at h
  · assumption
  · cases h

/-- Inserting a song keeps a selected song selected. -/
theorem PlayQueue.insert_inBounds {q q' : PlayQueue} {t : TrackId} {p : Int}
    (h : q.insert t p = some q') (hb : q.inBounds q.position) : q'.inBounds q'.position := by
  unfold PlayQueue.insert at h
  split at h
  · cases h
  · rename_i hp
    cases h
    simp only [Bool.or_eq_true, decide_eq_true_eq, not_or, Int.not_lt] at hp
    have hlen : p ≤ q.tracks.length := hp.2
    rw [PlayQueue.inBounds_iff] at hb ⊢
    dsimp only
    rw [List.length_insertIdx_of_le_length (by omega)]
    simp only [Bool.and_eq_true, decide_eq_true_eq]
    split <;> omega

/-- Removing a song other than the selected one keeps a song selected. -/
theorem PlayQueue.remove_inBounds {q q' : PlayQueue} {t : TrackId} {p : Int}
    (h : q.remove p = some (t, q')) (hne : p ≠ q.position) (hb : q.inBounds q.position) :
    q'.inBounds q'.position := by
  unfold PlayQueue.remove at h
  split at h
  · cases h
  · rename_i t' hsong
    have hp := PlayQueue.inBounds_iff.mp (PlayQueue.inBounds_of_songAt hsong)
    cases h
    rw [PlayQueue.inBounds_iff] at hb ⊢
    dsimp only
    rw [List.length_eraseIdx_of_lt (by omega)]
    split <;> omega

/-- Moving a song keeps a song selected. -/
theorem PlayQueue.move_inBounds {q q' : PlayQueue} {src dst : Int}
    (h : q.move src dst = some q') (hb : q.inBounds q.position) : q'.inBounds q'.position := by
  unfold PlayQueue.move at h
  split at h
  · cases h
  · rename_i hsd
    simp only [Bool.not_eq_true', Bool.and_eq_false_iff, not_or, Bool.not_eq_false] at hsd
    obtain ⟨hsrc, hdst⟩ := hsd
    split at h
    · cases h
      exact hb
    · split at h
      · cases h
      · cases h
        rw [PlayQueue.inBounds_iff] at hb hsrc hdst ⊢
        dsimp only
        rw [List.length_insertIdx_of_le_length (by rw [List.length_eraseIdx_of_lt (by omega)]; omega),
          List.length_eraseIdx_of_lt (by omega)]
        unfold PlayQueue.movedPosition
        simp only [Bool.and_eq_true, decide_eq_true_eq]
        repeat' split
        all_goals omega

/-- `Consistent` spelled out state by state. -/
theorem consistent_iff (c : Controller) :
    Consistent c ↔
      (c.state ≠ .stopped → 0 ≤ c.queue.position ∧ c.queue.position < c.queue.length) ∧
      (c.state = .stopped → c.session = none) ∧
      (c.state = .preparing → ∃ s, c.session = some s ∧ s.prepared = false) ∧
      (c.state = .playing → ∃ s, c.session = some s ∧ s.prepared = true) ∧
      (c.state = .paused → c.session = none → c.pausedOffsetMs.isSome) := by
  unfold Consistent
  cases hs : c.state <;> cases hsession : c.session <;>
    simp [PlayQueue.inBounds_iff, PlayQueue.length]

/-- A song just loaded is unprepared, paused or preparing to play. -/
theorem Consistent.of_loaded {c : Controller} {s : Session} (paused : Bool)
    (hstate : c.state = if paused then .paused else .preparing) (hsession : c.session = some s)
    (hs : s.prepared = false) (hb : c.queue.inBounds c.queue.position) : Consistent c := by
  unfold Consistent
  cases paused <;> simp_all

theorem PlayState.isOutputting_iff {s : PlayState} : s.isOutputting = true ↔ s ≠ .stopped := by
  cases s <;> simp [PlayState.isOutputting]

/-- The queue may change freely while stopped, and otherwise as long as a song stays
selected. -/
theorem Consistent.withQueue {c : Controller} (h : Consistent c) {q : PlayQueue}
    (hq : c.state ≠ .stopped → c.queue.inBounds c.queue.position → q.inBounds q.position) :
    Consistent { c with queue := q, dirty := true } := by
  unfold Consistent at h ⊢
  dsimp only
  cases hs : c.state <;> simp only [hs] at h ⊢
  · exact h
  · exact ⟨hq (by simp [hs]) h.1, h.2⟩
  · exact ⟨hq (by simp [hs]) h.1, h.2⟩
  · exact ⟨hq (by simp [hs]) h.1, h.2⟩

/-- Pausing a song that prepares or plays. -/
theorem Consistent.pause {c : Controller} (h : Consistent c)
    (hs : c.state = .playing ∨ c.state = .preparing) :
    Consistent { c with state := .paused, dirty := true } := by
  unfold Consistent at h ⊢
  dsimp only
  rcases hs with hs | hs <;> rw [hs] at h <;> refine ⟨h.1, Or.inl ?_⟩ <;>
    cases hsession : c.session <;> simp_all

/-- The loaded song becomes prepared while it does not wait to be prepared. -/
theorem Consistent.markPrepared {c : Controller} {s : Session} (h : Consistent c)
    (hs : c.session = some s) (hne : c.state ≠ .preparing) :
    Consistent { c with session := some { s with prepared := true } } := by
  unfold Consistent at h ⊢
  dsimp only
  cases hst : c.state <;> simp only [hst] at h ⊢
  · rw [hs] at h
    cases h
  · exact absurd hst hne
  · exact ⟨h.1, rfl⟩
  · exact ⟨h.1, Or.inl rfl⟩

theorem PlayQueue.ofParts_inBounds {ts : List TrackId} {p : Int}
    (h : 0 ≤ (PlayQueue.ofParts ts p).position) :
    (PlayQueue.ofParts ts p).inBounds (PlayQueue.ofParts ts p).position := by
  unfold PlayQueue.ofParts at h ⊢
  rw [PlayQueue.inBounds_iff]
  dsimp only at h ⊢
  split at h
  · rename_i hp
    simp only [Bool.and_eq_true, decide_eq_true_eq] at hp
    simp only [Bool.and_eq_true, decide_eq_true_eq, hp, and_self, if_true]
  · omega

theorem teardown_spec : Triple Live teardown fun _ w => Live w ∧ w.controller.session = none := by
  intro w hw
  simp only [teardown, holds_bind, holds_controller]
  split
  · exact ⟨hw, ‹_›⟩
  · simp only [holds_bind, holds_modifyController, holds_discard, holds_decoderCall]
    split
    · exact ⟨hw, rfl⟩
    · exact ⟨hw, rfl⟩

theorem stop_spec : Triple Live stop fun _ w => Live w ∧ Stopped w := by
  intro w hw
  simp only [stop, holds_bind]
  refine teardown_spec.holds hw ?_
  rintro _ w₁ ⟨h₁, hs⟩
  simp only [holds_controller, holds_setState]
  split
  · simp only [holds_modifyController, holds_modify, holds_emitMove]
    exact ⟨⟨h₁.1, rfl⟩, rfl, hs⟩
  · simp only [holds_modifyController, holds_modify, holds_pure]
    have hstate : w₁.controller.state = .stopped := Decidable.of_not_not ‹_›
    exact ⟨h₁, hstate, hs⟩

/-- A song that opened becomes the song in output: the player is settled with it loaded. -/
theorem adoptSession_spec (paused : Bool) (q : PlayQueue) (track : TrackId) {s : Session}
    (hsp : s.prepared = false) {w : World} (hw : Live w)
    (hb : w.controller.queue.inBounds w.controller.queue.position) :
    Holds (adoptSession paused q track s)
      (fun _ w' => Settled w' ∧ w'.controller.session.isSome) w := by
  simp only [adoptSession, holds_log, holds_bind, holds_modifyController, holds_setState]
  generalize htarget : (if paused = true then PlayState.paused else .preparing) = target
  split
  · exact ⟨⟨⟨hw.1, rfl⟩, Consistent.of_loaded paused htarget.symm rfl hsp hb⟩, rfl⟩
  · have hstate : w.controller.state = target := Decidable.of_not_not ‹_›
    exact ⟨⟨hw, Consistent.of_loaded paused (hstate.trans htarget.symm) rfl hsp hb⟩, rfl⟩

/-- Skipping a song that did not open keeps the player live, and stops it when no song is
left. -/
theorem skipUnopenable_spec (q : PlayQueue) (track : TrackId) (e : PlaybackError) :
    Triple Live (skipUnopenable q track e) fun more w => Live w ∧ (more = false → Stopped w) := by
  intro w hw
  simp -zeta only [skipUnopenable, holds_log, holds_bind]
  extract_lets next skip
  -- what follows the report, whether or not a storage fault was announced
  have hskip : ∀ u w₂, Live w₂ →
      Holds (skip u) (fun more w => Live w ∧ (more = false → Stopped w)) w₂ := by
    intro u w₂ hl₂
    simp only [skip]
    split
    · simp only [holds_bind]
      refine stop_spec.holds hl₂ ?_
      rintro _ w₃ ⟨hl₃, hs₃⟩
      simp only [holds_selectPosition, holds_pure]
      exact ⟨hl₃, fun _ => hs₃⟩
    · simp only [holds_bind, holds_selectPosition, holds_pure]
      exact ⟨hl₂, Bool.noConfusion⟩
  clear_value skip
  split
  · simp only [holds_bind, holds_emitDownload]
    exact hskip () _ hw
  · exact hskip () _ hw

theorem loadFromSelected_spec (paused : Bool) (fuel : Nat) :
    Triple Live (loadFromSelected paused fuel)
      fun r w => Settled w ∧ (r = true → w.controller.session.isSome) := by
  induction fuel with
  | zero =>
    intro w hw
    simp only [loadFromSelected, holds_bind]
    exact stop_spec.holds hw fun _ _ h => ⟨Stopped.settled h.1 h.2, Bool.noConfusion⟩
  | succ fuel ih =>
    intro w hw
    simp -zeta only [loadFromSelected, holds_bind, holds_queue]
    split
    · simp only [holds_bind]
      exact stop_spec.holds hw fun _ _ h => ⟨Stopped.settled h.1 h.2, Bool.noConfusion⟩
    · rename_i track hcur
      simp -zeta only [holds_bind]
      refine (openTrack_spec track w).mono ?_
      rintro r w₁ ⟨h₁, hprep⟩
      have hl₁ : Live w₁ := hw.of_actor h₁
      have hq : w₁.controller.queue = w.controller.queue := by
        rw [World.controller_of_actor h₁]
      cases r with
      | ok s =>
        have hb : w₁.controller.queue.inBounds w₁.controller.queue.position :=
          hq ▸ PlayQueue.inBounds_of_current hcur
        simp only [holds_bind, holds_pure]
        exact (adoptSession_spec paused _ track (hprep s rfl) hl₁ hb).mono
          fun _ _ h => ⟨h.1, fun _ => h.2⟩
      | error e =>
        simp only [holds_bind]
        refine (skipUnopenable_spec _ track e).holds hl₁ ?_
        rintro more w₂ ⟨hl₂, hstop⟩
        cases more with
        | true => exact ih _ hl₂
        | false => exact ⟨Stopped.settled hl₂ (hstop rfl), Bool.noConfusion⟩

theorem startPlayback_spec (paused : Bool) :
    Triple Live (startPlayback paused)
      fun r w => Settled w ∧ (r = true → w.controller.session.isSome) := by
  intro w hw
  simp only [startPlayback, holds_bind]
  refine teardown_spec.holds hw fun _ w₁ h₁ => ?_
  simp only [holds_queue]
  exact loadFromSelected_spec paused _ w₁ h₁.1

theorem jump_spec (p : Int) :
    Triple (fun w => Live w ∧ (Consistent w.controller ∨ 0 ≤ p ∧ p < w.controller.queue.length))
      (jump p) fun _ => Settled := by
  rintro w ⟨hw, hpre⟩
  simp -zeta only [jump, holds_inSpan, holds_bind, holds_queue]
  refine Holds.mono (Q := fun _ => Settled) ?_ fun _ _ h => h
  split
  · rename_i hout
    have hc : Consistent w.controller := hpre.resolve_right fun hsel => by
      obtain ⟨h0, hlt⟩ := hsel
      simp only [Bool.or_eq_true, decide_eq_true_eq] at hout
      omega
    exact ⟨hw, hc⟩
  split
  · -- `-1`: stop if in output, and select nothing
    rename_i hin hm
    simp -zeta only [holds_bind, holds_controller]
    extract_lets -underBinder +onlyGivenNames unselect
    have hunselect : ∀ u w₂, Live w₂ → Stopped w₂ → Holds (unselect u) (fun _ => Settled) w₂ := by
      intro u w₂ hl hs
      simp only [unselect, holds_bind, holds_selectPosition, holds_pure]
      exact Stopped.settled hl hs
    clear_value unselect
    split
    · simp only [holds_bind]
      exact stop_spec.holds hw fun _ w₂ h₂ => hunselect () w₂ h₂.1 h₂.2
    · rename_i hidle
      have hc : Consistent w.controller := hpre.resolve_right fun hsel => by
        obtain ⟨h0, -⟩ := hsel
        omega
      have hstopped : w.controller.state = .stopped := by
        revert hidle
        cases w.controller.state <;> simp [PlayState.isOutputting]
      unfold Consistent at hc
      rw [hstopped] at hc
      exact hunselect () _ hw ⟨hstopped, hc⟩
  · -- a song of the queue: select it and load it
    simp -zeta only [holds_bind, holds_selectPosition, holds_queue]
    extract_lets -underBinder +onlyGivenNames load
    have hload : ∀ u w₂, Live w₂ → Holds (load u) (fun _ => Settled) w₂ := by
      intro u w₂ hl
      simp -zeta only [load, holds_bind, holds_controller]
      extract_lets -underBinder +onlyGivenNames was
      simp -zeta only [holds_bind]
      refine (startPlayback_spec _).holds hl ?_
      rintro loaded w₃ ⟨hs₃, _⟩
      extract_lets -underBinder +onlyGivenNames after
      have hafter : ∀ u w₄, Settled w₄ → Holds (after u) (fun _ => Settled) w₄ :=
        fun _ _ h => prefetch_keeps.holds fun _ _ h₅ => h.of_actor h₅
      clear_value after
      split
      · simp only [holds_bind, holds_emitMove]
        exact hafter () _ hs₃
      · exact hafter () _ hs₃
    clear_value load
    split
    · simp only [holds_bind, holds_emitMove]
      exact hload () _ hw
    · exact hload () _ hw

theorem next_spec : Triple Live next fun _ => Settled := by
  intro w hw
  simp only [next, holds_bind, holds_queue]
  split
  · rename_i hn
    exact jump_spec _ w ⟨hw, Or.inr ⟨hn, PlayQueue.peekNext_lt hn⟩⟩
  · simp only [holds_bind]
    refine stop_spec.holds hw ?_
    rintro _ w₁ ⟨hl, hs⟩
    simp only [holds_selectPosition]
    exact Stopped.settled hl hs

theorem skipCurrent_spec : Triple Live skipCurrent fun _ => Settled := by
  intro w hw
  simp only [skipCurrent, holds_bind, holds_controller]
  split
  · simp only [holds_bind, holds_modifyController, holds_decoderCall]
    split
    · exact next_spec _ hw
    · simp only [holds_bind, holds_log]
      exact next_spec _ hw
  · exact next_spec _ hw

theorem Consistent.inBounds_of_paused {c : Controller} (h : Consistent c)
    (hp : c.state = .paused) : c.queue.inBounds c.queue.position := by
  unfold Consistent at h
  rw [hp] at h
  exact h.1

theorem unpause_spec : Triple Settled unpause fun _ => Settled := by
  rintro w ⟨hw, hc⟩
  simp -zeta only [unpause, holds_bind, holds_controller]
  split
  · exact ⟨hw, hc⟩
  rename_i hpaused
  have hp : w.controller.state = .paused := Decidable.of_not_not hpaused
  have hb := hc.inBounds_of_paused hp
  extract_lets -underBinder +onlyGivenNames resumed
  -- the pause is over: forget its offset and announce the resume
  have hresumed : ∀ u w₂, Live w₂ → Consistent { w₂.controller with pausedOffsetMs := none } →
      Holds (resumed u) (fun _ => Settled) w₂ := by
    intro u w₂ hl₂ hc₂
    simp only [resumed, holds_bind, holds_modifyController, holds_emitMove]
    exact ⟨hl₂, hc₂⟩
  clear_value resumed
  split
  · rename_i hprep
    simp -zeta only [holds_bind, holds_decoderCall]
    cases (w.decoder.call .start "start").1 with
    | error e =>
      simp only [holds_log, holds_bind]
      exact skipCurrent_spec.holds hw fun _ _ h => h
    | ok u =>
      simp -zeta only [holds_bind, holds_setState]
      rw [if_pos (by rw [hp]; exact PlayState.noConfusion)]
      refine hresumed () _ ⟨hw.1, rfl⟩ ?_
      simp only [Consistent]
      exact ⟨hb, hprep⟩
  · rename_i hprep
    simp -zeta only [holds_bind, holds_setState]
    rw [if_pos (by rw [hp]; exact PlayState.noConfusion)]
    refine hresumed () _ ⟨hw.1, rfl⟩ ?_
    simp only [Consistent]
    exact ⟨hb, hprep⟩
  · simp -zeta only [holds_bind]
    refine (startPlayback_spec false).holds hw ?_
    rintro r w₃ ⟨⟨hl₃, hc₃⟩, hs₃⟩
    split
    · exact ⟨hl₃, hc₃⟩
    · rename_i hr
      have hs : w₃.controller.session.isSome := hs₃ (by simpa using hr)
      refine hresumed () _ hl₃ ?_
      unfold Consistent at hc₃ ⊢
      split at hc₃ <;> simp_all

theorem play_spec : Triple Settled play fun _ => Settled := by
  rintro w ⟨hw, hc⟩
  simp -zeta only [play, holds_bind, holds_controller]
  split
  · exact unpause_spec _ ⟨hw, hc⟩
  · exact ⟨hw, hc⟩
  · exact ⟨hw, hc⟩
  · simp -zeta only [holds_bind, holds_queue]
    extract_lets -underBinder +onlyGivenNames start
    have hstart : ∀ u w₂, Live w₂ → Holds (start u) (fun _ => Settled) w₂ := by
      intro u w₂ hl₂
      simp only [start, holds_bind]
      refine (startPlayback_spec false).holds hl₂ ?_
      rintro r w₃ ⟨hs₃, _⟩
      split
      · exact emitPlay_keeps.actor_of_engine.holds fun _ _ h => hs₃.of_actor h
      · exact hs₃
    clear_value start
    split
    · split
      · exact ⟨hw, hc⟩
      · simp only [holds_bind, holds_selectPosition]
        exact hstart () _ hw
    · exact hstart () _ hw

theorem pause_spec : Triple Settled pause fun _ => Settled := by
  rintro w ⟨hw, hc⟩
  simp -zeta only [pause, holds_bind, holds_controller]
  split
  · rename_i hplaying
    simp -zeta only [holds_bind, holds_decoderCall]
    extract_lets -underBinder +onlyGivenNames paused
    -- whether or not the decoder paused, the player does
    have hpaused : ∀ u w₂, w₂.controller = w.controller → w₂.published = w.published →
        Holds (paused u) (fun _ => Settled) w₂ := by
      intro u w₂ hc₂ hp₂
      simp only [paused, holds_bind]
      refine tell_keeps.holds fun _ w₃ h₃ => ?_
      change w₃ = w₂ at h₃
      subst h₃
      rw [holds_setState, if_pos (by rw [hc₂, hplaying]; exact PlayState.noConfusion)]
      simp only [holds_emitMove]
      refine ⟨⟨by rw [hc₂]; exact hw.1, rfl⟩, ?_⟩
      rw [hc₂]
      exact hc.pause (Or.inl hplaying)
    clear_value paused
    split
    · simp only [holds_bind, holds_log]
      exact hpaused () _ rfl rfl
    · exact hpaused () _ rfl rfl
  · rename_i hpreparing
    simp only [holds_bind, holds_setState]
    rw [if_pos (by rw [hpreparing]; exact PlayState.noConfusion)]
    simp only [holds_emitMove]
    exact ⟨⟨hw.1, rfl⟩, hc.pause (Or.inr hpreparing)⟩
  · exact ⟨hw, hc⟩
  · exact ⟨hw, hc⟩

theorem previous_spec : Triple Settled previous fun _ => Settled := by
  rintro w ⟨hw, hc⟩
  simp -zeta only [previous, holds_bind, holds_queue]
  split
  · simp only [holds_bind]
    refine stop_spec.holds hw ?_
    rintro _ w₁ ⟨hl₁, hs₁⟩
    simp only [holds_selectPosition, holds_pure]
    exact Stopped.settled hl₁ hs₁
  · simp -zeta only [holds_bind, holds_controller]
    extract_lets -underBinder +onlyGivenNames back
    have hback : ∀ u, Holds (back u) (fun _ => Settled) w := by
      intro u
      simp only [back]
      exact jump_spec _ w ⟨hw, Or.inl hc⟩
    clear_value back
    split
    · simp -zeta only [holds_bind]
      refine tell_keeps.holds fun _ w₁ h₁ => ?_
      change w₁ = w at h₁
      subst h₁
      extract_lets -underBinder +onlyGivenNames elapsed
      split
      · -- a song that has played only briefly restarts instead
        extract_lets -underBinder +onlyGivenNames done
        split
        · simp only [holds_bind]
          exact (seek_keeps 0).actor_of_engine.holds fun _ _ h => Settled.of_actor h ⟨hw, hc⟩
        · exact ⟨hw, hc⟩
      · exact hback ()
    · exact hback ()

theorem insert_spec (track : TrackId) (p : Int) : Triple Settled (insert track p) fun _ => Settled := by
  rintro w ⟨hw, hc⟩
  simp only [insert, holds_bind, holds_queue]
  split
  · exact ⟨hw, hc⟩
  · rename_i q hins
    simp only [holds_bind, holds_setQueue, holds_emitChange, holds_controller]
    have hc' : Consistent { w.controller with queue := q, dirty := true } :=
      hc.withQueue fun _ hb => PlayQueue.insert_inBounds hins hb
    split
    · rename_i hstopped
      simp only [holds_bind, holds_selectPosition]
      exact play_spec _ ⟨hw, hc'.withQueue fun hst => absurd hstopped hst⟩
    · split
      · exact prefetch_keeps.holds fun _ _ h => Settled.of_actor h ⟨hw, hc'⟩
      · exact ⟨hw, hc'⟩

theorem remove_spec (p : Int) : Triple Settled (remove p) fun _ => Settled := by
  rintro w ⟨hw, hc⟩
  simp -zeta only [remove, holds_bind, holds_queue]
  split
  · exact ⟨hw, hc⟩
  · simp -zeta only [holds_bind, holds_controller]
    extract_lets -underBinder +onlyGivenNames drop
    -- the song leaves the queue; it is not the one in output
    have hdrop : ∀ u w₂, Live w₂ → Consistent w₂.controller →
        (w₂.controller.state ≠ .stopped → p ≠ w₂.controller.queue.position) →
        Holds (drop u) (fun _ => Settled) w₂ := by
      intro u w₂ hl₂ hc₂ hne
      simp only [drop, holds_bind, holds_queue]
      split
      · rename_i q' hrem
        simp only [holds_bind, holds_setQueue, holds_emitChange]
        exact ⟨hl₂, hc₂.withQueue fun hst hb => PlayQueue.remove_inBounds hrem (hne hst) hb⟩
      · exact ⟨hl₂, hc₂⟩
    clear_value drop
    split
    · simp only [holds_bind]
      refine stop_spec.holds hw ?_
      rintro _ w₂ ⟨hl₂, hs₂⟩
      exact hdrop () w₂ hl₂ (Stopped.settled hl₂ hs₂).2 fun h => absurd hs₂.1 h
    · rename_i hkeep
      refine hdrop () w hw hc fun hst heq => hkeep ?_
      simp only [Bool.and_eq_true, decide_eq_true_eq, PlayState.isOutputting_iff]
      exact ⟨heq, hst⟩

theorem moveSong_spec (src dst : Int) : Triple Settled (moveSong src dst) fun _ => Settled := by
  rintro w ⟨hw, hc⟩
  simp only [moveSong, holds_bind, holds_queue]
  split
  · exact ⟨hw, hc⟩
  · rename_i q' hmove
    simp only [holds_bind, holds_setQueue, holds_emitChange]
    have hc' := hc.withQueue fun _ hb => PlayQueue.move_inBounds hmove hb
    split
    · exact prefetch_keeps.holds fun _ _ h => Settled.of_actor h ⟨hw, hc'⟩
    · exact ⟨hw, hc'⟩

theorem clear_spec : Triple Live clear fun _ => Settled := by
  intro w hw
  simp only [clear, holds_bind]
  refine stop_spec.holds hw ?_
  rintro _ w₁ ⟨hl₁, hs₁⟩
  simp only [holds_queue, holds_setQueue, holds_emitChange]
  exact Stopped.settled hl₁ hs₁

theorem apply_spec (c : Command) : Triple Settled (apply c) fun _ => Settled := by
  intro w hw
  cases c with
  | play => exact play_spec w hw
  | pause => exact pause_spec w hw
  | unpause => exact unpause_spec w hw
  | stop => exact stop_spec.holds hw.1 fun _ _ h => Stopped.settled h.1 h.2
  | seek ms => exact (seek_keeps ms).actor_of_engine.holds fun _ _ h => hw.of_actor h
  | next => exact next_spec w hw.1
  | previous => exact previous_spec w hw
  | jump p => exact jump_spec p w ⟨hw.1, Or.inl hw.2⟩
  | insert t p => exact insert_spec t p w hw
  | prepend t => exact insert_spec t 0 w hw
  | append t => exact insert_spec t _ w hw
  | insertNext t => exact insert_spec t _ w hw
  | remove p => exact remove_spec p w hw
  | move src dst => exact moveSong_spec src dst w hw
  | clear => exact clear_spec w hw.1

theorem onCallState_spec (s : CallState) : Triple Settled (onCallState s) fun _ => Settled := by
  intro w hw
  simp only [onCallState, holds_bind, holds_controller]
  split
  · split
    · simp only [holds_bind, holds_log]
      refine Holds.mono (pause_spec _ hw) fun _ _ h => ?_
      simp only [holds_modifyController]
      exact h
    · exact hw
  · split
    · simp only [holds_bind, holds_log, holds_modifyController]
      exact unpause_spec _ hw
    · exact hw

theorem onDecoderEvent_spec (e : DecoderEvent) :
    Triple Settled (onDecoderEvent e) fun _ => Settled := by
  rintro w ⟨hw, hc⟩
  simp only [onDecoderEvent, holds_bind, holds_controller]
  split
  · exact ⟨hw, hc⟩
  rename_i s hs
  split
  · exact ⟨hw, hc⟩
  split
  · -- prepared: mark the session, and start it if it was waiting for that
    simp only [holds_bind, holds_modifyController]
    split
    · rename_i hpreparing
      simp only [holds_bind, holds_decoderCall]
      split
      · simp only [holds_bind, holds_log]
        exact skipCurrent_spec _ hw
      · rw [holds_setState, if_pos (by rw [hpreparing]; exact PlayState.noConfusion)]
        refine ⟨⟨hw.1, rfl⟩, ?_⟩
        unfold Consistent at hc ⊢
        rw [hpreparing] at hc
        exact ⟨hc.1, rfl⟩
    · exact ⟨hw, hc.markPrepared hs ‹_›⟩
  · simp only [holds_bind, holds_log]
    exact skipCurrent_spec _ hw
  · simp only [holds_bind, holds_log, holds_get]
    split
    · split
      · simp only [holds_bind, holds_emitDownload]
        exact skipCurrent_spec _ hw
      · exact skipCurrent_spec _ hw
    · exact skipCurrent_spec _ hw
  · simp only [holds_emitBuffer]
    exact ⟨hw, hc⟩

theorem onDownloadEvent_spec (e : DownloadEvent) :
    Triple Settled (onDownloadEvent e) fun _ => Settled := by
  intro w hw
  simp only [onDownloadEvent, holds_bind, holds_emitDownload, holds_controller]
  split
  · split
    · simp only [holds_emitBuffer]
      exact hw
    · exact hw
  · split
    · simp only [holds_bind, holds_emitBuffer]
      exact prefetch_keeps.holds fun _ _ h => hw.of_actor h
    · exact prefetch_keeps.holds fun _ _ h => hw.of_actor h
  · simp only [holds_bind]
    refine (releaseFailed_keeps _).actor_of_engine.holds fun _ w₁ h₁ => ?_
    have hs₁ : Settled w₁ := Settled.of_actor h₁ hw
    split
    · simp only [holds_bind, holds_log]
      exact skipCurrent_spec _ hs₁.1
    · exact hs₁
  · exact (releaseSuperseded_keeps _).actor_of_engine.holds fun _ _ h => Settled.of_actor h hw
  · exact hw

theorem answer_keeps (q : Query) : Keeps id (answer q) := by
  cases q with
  | tell => exact Keeps.bind tell_keeps fun _ => keeps_pure _ _
  | duration => exact Keeps.bind duration_keeps fun _ => keeps_pure _ _
  | _ => exact fun _ => rfl

theorem onSignal_spec (s : Signal) : Triple Settled (onSignal s) fun _ => Settled := by
  intro w hw
  cases s with
  | call s => exact onCallState_spec s w hw
  | connectivityRestored =>
    exact (Keeps.discard Downloads.resume_keeps).holds fun _ _ h => hw.of_actor h

theorem save_spec : Triple Settled save fun _ => Settled := by
  intro w hw
  simp -zeta only [save, holds_bind, holds_controller]
  extract_lets -underBinder +onlyGivenNames write
  -- the save only clears the changed mark, and only if it succeeded
  have hwrite : ∀ offset w₁, w₁.actor = w.actor → Holds (write offset) (fun _ => Settled) w₁ := by
    intro offset w₁ h₁
    simp only [write, holds_bind]
    refine (Persistence.save_keeps _ _).holds fun r w₂ h₂ => ?_
    have hs₂ : Settled w₂ := Settled.of_actor (h₂.trans h₁) hw
    split
    · simp only [holds_modifyController]
      exact hs₂
    · simp only [holds_log]
      exact hs₂
  clear_value write
  split
  · simp only [holds_bind]
    exact tell_keeps.holds fun _ w₁ h₁ => hwrite _ w₁ (congrArg World.actor h₁)
  · simp only [holds_bind, holds_pure]
    exact hwrite _ w rfl

theorem handle_spec {α : Type} {a : Act α} (h : Triple Settled a fun _ => Settled) :
    Triple Settled (handle a) fun _ => Settled := by
  intro w hw
  simp only [handle, holds_detached, holds_bind]
  refine Holds.mono (h _ hw) fun _ w₁ hw₁ => ?_
  simp only [saveIfDirty, holds_bind, holds_controller]
  split
  · exact save_spec _ hw₁
  · exact hw₁

theorem request_spec {α : Type} {a : Act α} (h : Triple Settled a fun _ => Settled) :
    Triple Settled (request a) fun _ => Settled := by
  intro w hw
  simp only [request, holds_bind, holds_get]
  split
  · exact hw
  · simp only [holds_bind]
    exact handle_spec h _ hw

theorem restore_spec (snap : Snapshot) :
    Triple (fun w => Live w ∧ Stopped w) (restore snap) fun _ => Settled := by
  rintro w ⟨hw, hs⟩
  simp only [restore, holds_bind, holds_modifyController, holds_queue]
  split
  · exact Stopped.settled hw hs
  · rename_i hplay
    simp only [Bool.or_eq_true, Bool.not_eq_true', decide_eq_true_eq, not_or, Int.not_lt] at hplay
    have hb := PlayQueue.ofParts_inBounds hplay.2
    split
    · -- a pause is restored with nothing loaded, at its offset
      simp only [holds_bind, holds_modifyController, holds_publish, holds_log]
      refine ⟨⟨hw.1, rfl⟩, ?_⟩
      simp only [Consistent]
      exact ⟨hb, Or.inr rfl⟩
    · simp only [holds_bind]
      refine (startPlayback_spec false).holds hw ?_
      rintro r w₁ ⟨hs₁, _⟩
      split
      · exact emitPlay_keeps.actor_of_engine.holds fun _ _ h => hs₁.of_actor h
      · exact hs₁

/-- A piece of work done only while the player runs, after which `settleOnce` reports work. -/
theorem holds_ifRunning {running : Bool} {a : Act Unit} {Q : Bool → World → Prop} {w : World}
    (h : Holds (if running then a else pure ()) (fun _ => Q true) w) :
    Holds (if running then (a >>= fun _ => pure true) else pure true) Q w := by
  cases running
  · exact h
  · exact h

/-- The pieces of work `settleOnce` may do, in the order it looks for them: take up the
recovered state, handle the oldest decoder callback, handle the oldest download notice (each
dropped from the world first, and handled only while the player runs), run the first ready
transfer task, or find nothing to do. -/
theorem settleOnce_holds {Q : Bool → World → Prop} {w : World}
    (hrestore : ∀ snap, w.controller.recovered = some snap →
      Holds (if w.running then detached (restore snap) else pure ()) (fun _ => Q true)
        { w with controller := { w.controller with recovered := none } })
    (hdecoder : w.controller.recovered = none → ∀ e rest, w.decoderEvents = e :: rest →
      Holds (if w.running then handle (onDecoderEvent e) else pure ()) (fun _ => Q true)
        { w with decoderEvents := rest })
    (hnotice : w.controller.recovered = none → w.decoderEvents = [] → ∀ e rest,
      w.notices.pop? = some (e, rest) →
      Holds (if w.running then handle (onDownloadEvent e) else pure ()) (fun _ => Q true)
        { w with notices := rest })
    (htask : w.controller.recovered = none → w.decoderEvents = [] → w.notices.pop? = none →
      ∀ t, w.manager.tasks.find? Downloads.isReady = some t →
        Holds (Downloads.runTask t) (fun _ => Q true) w)
    (hidle : w.controller.recovered = none → w.decoderEvents = [] → w.notices.pop? = none →
      w.manager.tasks.find? Downloads.isReady = none → Q false w) :
    Holds settleOnce Q w := by
  simp only [settleOnce, holds_bind, holds_get]
  split
  · rename_i snap hsnap
    simp only [holds_bind, holds_set]
    exact holds_ifRunning (hrestore snap hsnap)
  · rename_i hnone
    split
    · rename_i e rest hevents
      simp only [holds_bind, holds_set]
      exact holds_ifRunning (hdecoder hnone e rest hevents)
    · rename_i e rest hevents hpop
      simp only [holds_bind, holds_set]
      exact holds_ifRunning (hnotice hnone hevents e rest hpop)
    · rename_i hevents hpop
      simp only [Downloads.nextReadyTask, holds_bind, holds_get, holds_pure]
      split
      · rename_i t ht
        exact htask hnone hevents hpop t ht
      · rename_i ht
        exact hidle hnone hevents hpop ht

/-- A ready player whose recovered state is still to be taken up is stopped with nothing loaded,
and has published so. -/
theorem Ready.stopped_of_recovered {w : World} {snap : Snapshot} (hw : Ready w)
    (h : w.controller.recovered = some snap) : Stopped w ∧ w.published = .stopped := by
  rcases hw with ⟨⟨hnone, _⟩, _⟩ | ⟨_, hs, hp⟩
  · rw [h] at hnone
    cases hnone
  · exact ⟨hs, hp⟩

/-- A ready player with no recovered state to take up is settled. -/
theorem Ready.settled {w : World} (hw : Ready w) (h : w.controller.recovered = none) :
    Settled w :=
  hw.resolve_right fun hrec => by
    rw [h] at hrec
    cases hrec.1

theorem settleOnce_spec : Triple Ready settleOnce fun _ => Ready := by
  intro w hw
  refine settleOnce_holds (fun snap hsnap => ?_) (fun hnone _ _ _ => ?_) (fun hnone _ _ _ _ => ?_)
    (fun hnone _ _ t _ => ?_) (fun hnone _ _ _ => Or.inl (hw.settled hnone))
  · -- the recovered state is taken up by a stopped player
    have hstop := hw.stopped_of_recovered hsnap
    have hl : Live { w with controller := { w.controller with recovered := none } } :=
      ⟨rfl, hstop.2.trans hstop.1.1.symm⟩
    split
    · simp only [holds_detached]
      exact Holds.mono (restore_spec snap _ ⟨hl, hstop.1⟩) fun _ _ h => Or.inl h
    · exact Or.inl (Stopped.settled hl hstop.1)
  · split
    · exact Holds.mono (handle_spec (onDecoderEvent_spec _) _ (hw.settled hnone))
        fun _ _ h => Or.inl h
    · exact Or.inl (hw.settled hnone)
  · split
    · exact Holds.mono (handle_spec (onDownloadEvent_spec _) _ (hw.settled hnone))
        fun _ _ h => Or.inl h
    · exact Or.inl (hw.settled hnone)
  · exact (Downloads.runTask_keeps t).holds fun _ _ h => Or.inl ((hw.settled hnone).of_actor h)

theorem spawn_spec (s : Setup) (w : World) :
    Holds (spawn s) (fun r w' => r = .ok () → Ready w') w := by
  simp only [spawn, holds_bind, holds_modify]
  -- whatever recovery did, the player's state is then made afresh
  refine holds_of_forall fun r w₁ => ?_
  cases r with
  | error e =>
    intro h
    cases h
  | ok recovered =>
    simp only [holds_bind, holds_modify, holds_log, holds_modifyController, holds_pure]
    intro _
    cases recovered with
    | none => exact Or.inl (Stopped.settled ⟨rfl, rfl⟩ ⟨rfl, rfl⟩)
    | some snap => exact Or.inr ⟨rfl, ⟨rfl, rfl⟩, rfl⟩

/-- One step of a started player, between two messages: a command, a query or a signal handled
once the recovered state is taken up, a piece of pending work done (a decoder callback, a
download notice, a transfer), or any change to what the player does not own, such as the host
queueing decoder callbacks and download notices. -/
inductive PlayerStep : World → World → Prop
  | command {w : World} (c : Command) (h : w.controller.recovered = none) :
      PlayerStep w ((command c).run w).2
  | query {w : World} (q : Query) (h : w.controller.recovered = none) :
      PlayerStep w ((query q).run w).2
  | signal {w : World} (s : Signal) (h : w.controller.recovered = none) :
      PlayerStep w ((signal s).run w).2
  | work {w : World} : PlayerStep w (settleOnce.run w).2
  | host {w w' : World} (hc : w'.controller = w.controller) (hp : w'.published = w.published) :
      PlayerStep w w'

/-- The worlds a player reaches: started from any world, then stepped. -/
inductive PlayerRun : World → Prop
  | start (w : World) (s : Setup) (h : ((spawn s).run w).1 = .ok ()) :
      PlayerRun ((spawn s).run w).2
  | step {w w' : World} (h : PlayerRun w) (hs : PlayerStep w w') : PlayerRun w'

theorem PlayerStep.ready {w w' : World} (h : PlayerStep w w') (hw : Ready w) : Ready w' := by
  -- a handled message starts and ends settled, since the recovered state was taken up
  have settled : w.controller.recovered = none → Settled w := fun hnone =>
    hw.resolve_right fun ⟨h, _⟩ => by
      rw [hnone] at h
      cases h
  cases h with
  | command c hnone => exact Or.inl (request_spec (apply_spec c) w (settled hnone))
  | query q hnone =>
    refine Or.inl (request_spec (fun w' hw' => (answer_keeps q).holds fun _ w'' h => ?_) w
      (settled hnone))
    change w'' = w' at h
    rw [h]
    exact hw'
  | signal s hnone => exact Or.inl (request_spec (onSignal_spec s) w (settled hnone))
  | work => exact settleOnce_spec w hw
  | host hc hp =>
    unfold Ready Settled Live Stopped
    rw [hc, hp]
    exact hw

theorem PlayerRun.ready {w : World} (h : PlayerRun w) : Ready w := by
  induction h with
  | start w s h => exact spawn_spec s w h
  | step _ hs ih => exact hs.ready ih

end PlaybackEngine.Player
