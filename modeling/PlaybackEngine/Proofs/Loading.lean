import PlaybackEngine.Proofs.QueueEdits
import PlaybackEngine.Proofs.HubDelivery

set_option autoImplicit false

/-!
# Loading a song, and what it announces

Loading tries the selected song and, while songs fail to open, each song after it in turn.
`FirstOpened` is that search as it ran: one failed attempt per position from the selected one
on, ending with the position of the song that opened, or with nothing left to try.
`loadFromSelected_firstOpened` shows that the loop runs such a search whenever its fuel covers
the queue, and the lemmas after it read the outcome off the search: the songs queued and the
queue-change channel are untouched; the player ends in the state asked for with the opened song
selected, or stopped with nothing selected; and the only move announced is the stop of a player
that was not stopped.

What a step sends on a channel is stated with `Channel.broadcastAll`: the channel after is the
channel before with these events sent, in order; a listener with room receives exactly them
(`Channel.Sound.broadcastAll_box`).
-/

namespace PlaybackEngine

namespace Channel

variable {E : Type}

/-- Sends events to every listener, one after another. -/
def broadcastAll (c : Channel E) (es : List E) : Channel E := es.foldl broadcast c

@[simp] theorem broadcastAll_nil (c : Channel E) : c.broadcastAll [] = c := rfl

@[simp] theorem broadcastAll_cons (c : Channel E) (e : E) (es : List E) :
    c.broadcastAll (e :: es) = (c.broadcast e).broadcastAll es := rfl

theorem broadcastAll_append (c : Channel E) (es es' : List E) :
    c.broadcastAll (es ++ es') = (c.broadcastAll es).broadcastAll es' :=
  List.foldl_append

/-- A listener whose open mailbox has room for all of `es` receives exactly `es`, in order, and
stays listed. -/
theorem Sound.broadcastAll_box {c : Channel E} (hc : c.Sound) {l : SubscriberId × Nat}
    (hl : l ∈ c.listeners) {b : Mailbox E} (hb : c.boxes[l.2]? = some b) (hopen : b.closed = false)
    {es : List E} (hroom : b.queued.length + es.length ≤ b.capacity) :
    (c.broadcastAll es).boxes[l.2]? = some { b with queued := b.queued ++ es } ∧
      l ∈ (c.broadcastAll es).listeners := by
  induction es generalizing c b with
  | nil => exact ⟨by simpa using hb, hl⟩
  | cons e es ih =>
    have hdeliver : b.deliver e = some { b with queued := b.queued ++ [e] } := by
      simp only [Mailbox.deliver, hopen, Bool.false_or, decide_eq_true_eq, ite_eq_right_iff,
        reduceCtorEq, imp_false, Nat.not_le]
      simp only [List.length_cons] at hroom
      omega
    -- the broadcast of `e` reaches the listener and keeps it
    have hkept : l ∈ (c.broadcast e).listeners := by
      rw [hc.broadcast_listeners]
      exact List.mem_filter.mpr ⟨hl, by simp [accepts, hb, hdeliver]⟩
    have hbox : (c.broadcast e).boxes[l.2]? = some { b with queued := b.queued ++ [e] } := by
      rw [hc.broadcast_box, if_pos (List.mem_map_of_mem hl), hb]
      simp [offer, hdeliver]
    have hroom' : (b.queued ++ [e]).length + es.length ≤ b.capacity := by
      simp only [List.length_append, List.length_cons, List.length_nil] at hroom ⊢
      omega
    have hsound : (c.broadcast e).Sound := hc.exec (.broadcast e)
    obtain ⟨h₁, h₂⟩ := ih hsound hkept hbox hopen hroom'
    exact ⟨by simpa using h₁, h₂⟩

end Channel

@[simp] theorem Hub.emitMove_moves (h : Hub) (e : MoveEvent) :
    (h.emitMove e).2.moves = h.moves.broadcast e := rfl

@[simp] theorem Hub.emitMove_changes (h : Hub) (e : MoveEvent) :
    (h.emitMove e).2.changes = h.changes := rfl

@[simp] theorem Hub.emitChange_moves (h : Hub) (e : ChangeEvent) :
    (h.emitChange e).2.moves = h.moves := rfl

@[simp] theorem Hub.emitChange_changes (h : Hub) (e : ChangeEvent) :
    (h.emitChange e).2.changes = h.changes.broadcast e := rfl

@[simp] theorem Hub.emitDownload_moves (h : Hub) (e : DownloadEvent) :
    (h.emitDownload e).2.moves = h.moves := rfl

@[simp] theorem Hub.emitDownload_changes (h : Hub) (e : DownloadEvent) :
    (h.emitDownload e).2.changes = h.changes := rfl

@[simp] theorem Hub.clearBuffer_moves (h : Hub) : h.clearBuffer.moves = h.moves := rfl

@[simp] theorem Hub.clearBuffer_changes (h : Hub) : h.clearBuffer.changes = h.changes := rfl

namespace Player

open PlaybackEngine.World

/-- Between two worlds the player sent the moves `ms` and the queue changes `cs`, in order, and
nothing else on those two channels. -/
def Announced (ms : List MoveEvent) (cs : List ChangeEvent) (w w' : World) : Prop :=
  w'.hub.moves = w.hub.moves.broadcastAll ms ∧ w'.hub.changes = w.hub.changes.broadcastAll cs

theorem Announced.of_hub {w w' : World} (h : w'.hub = w.hub) : Announced [] [] w w' :=
  ⟨by simp [h], by simp [h]⟩

theorem Announced.trans {ms ms' : List MoveEvent} {cs cs' : List ChangeEvent} {w w₁ w₂ : World}
    (h₁ : Announced ms cs w w₁) (h₂ : Announced ms' cs' w₁ w₂) :
    Announced (ms ++ ms') (cs ++ cs') w w₂ := by
  constructor
  · rw [h₂.1, h₁.1, Channel.broadcastAll_append]
  · rw [h₂.2, h₁.2, Channel.broadcastAll_append]

/-- What stopping a player in state `s` announces: a stop, unless it was stopped already. -/
def stopMoves (s : PlayState) : List MoveEvent := if s = .stopped then [] else [.stop]

/-! ## The pieces of loading -/

theorem Controller.with_session_none {c : Controller} (h : c.session = none) :
    { c with session := none } = c := by
  cases c
  simp_all

/-- Unloading changes only the session, on the player's side. -/
theorem teardown_frame (w : World) :
    Holds teardown (fun _ w' => w'.hub = w.hub ∧
      w'.controller = { w.controller with session := none }) w := by
  simp only [teardown, holds_bind, holds_controller]
  split
  · exact ⟨rfl, (Controller.with_session_none ‹_›).symm⟩
  · simp only [holds_bind, holds_modifyController, holds_discard, holds_decoderCall]
    split <;> exact ⟨rfl, rfl⟩

/-- Stopping announces a stop unless the player was stopped, and keeps the queue. -/
theorem stop_announces (w : World) :
    Holds stop (fun _ w' => Announced (stopMoves w.controller.state) [] w w' ∧
      w'.controller.state = .stopped ∧ w'.controller.queue = w.controller.queue) w := by
  simp only [stop, holds_bind]
  refine (teardown_frame w).mono ?_
  rintro _ w₁ ⟨hhub, hc⟩
  have hstate : w₁.controller.state = w.controller.state := by rw [hc]
  simp only [holds_controller, holds_setState]
  split
  · rename_i hrun
    have hwas : w.controller.state ≠ .stopped := hstate ▸ hrun
    simp only [holds_modifyController, holds_modify, holds_emitMove]
    refine ⟨⟨?_, ?_⟩, ?_, ?_⟩ <;> simp [stopMoves, hwas, hhub, hc]
  · rename_i hidle
    have hs : w₁.controller.state = .stopped := Decidable.of_not_not hidle
    have hwas : w.controller.state = .stopped := hstate ▸ hs
    simp only [holds_modifyController, holds_modify, hs, holds_pure]
    refine ⟨⟨?_, ?_⟩, ?_, ?_⟩ <;> simp [stopMoves, hwas, hhub, hc]

/-- A song that opened is taken up in the state asked for, with the queue as it was. -/
theorem adoptSession_frame (paused : Bool) (q : PlayQueue) (track : TrackId) (s : Session)
    (w : World) :
    Holds (adoptSession paused q track s) (fun _ w' => w'.hub = w.hub ∧
      w'.controller.queue = w.controller.queue ∧
      w'.controller.state = (if paused then .paused else .preparing)) w := by
  simp only [adoptSession, holds_log, holds_bind, holds_modifyController, holds_setState]
  generalize (if paused = true then PlayState.paused else .preparing) = target
  split
  · simp
  · rename_i hsame
    simpa using Decidable.of_not_not hsame

/-- Giving up a song that did not open keeps the songs queued and announces no queue change. When
a later song is left it selects it, in the same state and with no move announced; otherwise it
stops with nothing selected. -/
theorem skipUnopenable_frame (q : PlayQueue) (track : TrackId) (e : PlaybackError) (w : World)
    (hq : w.controller.queue = q) :
    Holds (skipUnopenable q track e) (fun more w' =>
      w'.controller.queue.tracks = q.tracks ∧
      (more = true → Announced [] [] w w' ∧ w'.controller.state = w.controller.state ∧
        w'.controller.queue.position = q.peekNext ∧ 0 ≤ q.peekNext) ∧
      (more = false → Announced (stopMoves w.controller.state) [] w w' ∧
        w'.controller.state = .stopped ∧ w'.controller.queue.position = -1)) w := by
  simp -zeta only [skipUnopenable, holds_log, holds_bind]
  extract_lets next skip
  -- what follows the report, from any world that kept the moves, queue changes and controller
  have hskip : ∀ u w₂, w₂.hub.moves = w.hub.moves → w₂.hub.changes = w.hub.changes →
      w₂.controller = w.controller →
      Holds (skip u) (fun more w' =>
        w'.controller.queue.tracks = q.tracks ∧
        (more = true → Announced [] [] w w' ∧ w'.controller.state = w.controller.state ∧
          w'.controller.queue.position = q.peekNext ∧ 0 ≤ q.peekNext) ∧
        (more = false → Announced (stopMoves w.controller.state) [] w w' ∧
          w'.controller.state = .stopped ∧ w'.controller.queue.position = -1)) w₂ := by
    intro u w₂ hm hch hc
    simp only [skip]
    split
    · simp only [holds_bind]
      refine (stop_announces w₂).mono ?_
      rintro _ w₃ ⟨han, hs₃, hq₃⟩
      simp only [holds_selectPosition, holds_pure]
      refine ⟨by simp [PlayQueue.setPosition, hq₃, hc, hq], Bool.noConfusion, fun _ => ?_⟩
      refine ⟨⟨?_, ?_⟩, hs₃, by simp [PlayQueue.setPosition]⟩
      · simpa [hc, hm] using han.1
      · simpa [hch] using han.2
    · rename_i hlast
      have hnext : 0 ≤ next := Int.not_lt.mp hlast
      have hin : (w₂.controller.queue.setPosition next).getD w₂.controller.queue =
          { q with position := next } := by
        have hb : q.inBounds next = true := by
          simp only [PlayQueue.inBounds, Bool.and_eq_true, decide_eq_true_eq]
          exact ⟨hnext, PlayQueue.peekNext_lt hnext⟩
        simp [PlayQueue.setPosition, hc, hq, hb]
      simp only [holds_bind, holds_selectPosition, holds_pure, hin]
      exact ⟨trivial, fun _ => ⟨⟨by simp [hm], by simp [hch]⟩, by rw [hc], rfl, hnext⟩,
        Bool.noConfusion⟩
  clear_value skip
  split
  · simp only [holds_bind, holds_emitDownload]
    exact hskip () _ rfl rfl rfl
  · exact hskip () _ rfl rfl rfl

/-- Opening a song leaves the player's state, the moves and the queue changes. -/
theorem openTrack_frame (track : TrackId) (w : World) :
    Holds (openTrack track).run (fun r w' => w'.controller = w.controller ∧
      Announced [] [] w w' ∧ ∀ s, r = .ok s → s.prepared = false) w := by
  refine (openTrack_loads track w).mono ?_
  rintro r w' ⟨h, hprep⟩
  simp only [World.outsideLoading, Prod.mk.injEq] at h
  exact ⟨h.1, ⟨by simp [h.2.2.2.2.2.1], by simp [h.2.2.2.2.2.2.1]⟩, hprep⟩

theorem PlayQueue.peekNext_eq {q : PlayQueue} (h : 0 ≤ q.peekNext) :
    q.peekNext = q.position + 1 := by
  unfold PlayQueue.peekNext at h ⊢
  by_cases hb : q.inBounds (q.position + 1) = true
  · rw [if_pos hb]
  · rw [if_neg hb] at h
    omega

@[simp] theorem PlayQueue.setPosition_getD_tracks (q : PlayQueue) (p : Int) :
    ((q.setPosition p).getD q).tracks = q.tracks := by
  unfold PlayQueue.setPosition
  split <;> rfl

theorem holds_of_run_eq {α : Type} {a : Act α} {w w' : World} {x : α} (h : a.run w = (x, w'))
    {Q : α → World → Prop} : Holds a Q w ↔ Q x w' := by
  unfold Holds
  rw [h]

/-! ## The search for a song that opens -/

/-- The loading loop as it ran from `w` to `w'`: the selected song is tried and, while songs fail
to open, each song after it. It ends with `some p` when the song at `p` opened and was taken up,
paused or preparing to play; with `none` when the last song failed too, or when nothing was
selected to begin with. -/
inductive FirstOpened (paused : Bool) : World → Option Int → World → Prop
  | opened {w w₁ : World} {t : TrackId} {s : Session}
      (hcur : w.controller.queue.current = some t)
      (hopen : (openTrack t).run.run w = (.ok s, w₁)) :
      FirstOpened paused w (some w.controller.queue.position)
        ((adoptSession paused w.controller.queue t s).run w₁).2
  | skipped {w w₁ w₂ w' : World} {t : TrackId} {e : PlaybackError} {o : Option Int}
      (hcur : w.controller.queue.current = some t)
      (hopen : (openTrack t).run.run w = (.error e, w₁))
      (hskip : (skipUnopenable w.controller.queue t e).run w₁ = (true, w₂))
      (hrest : FirstOpened paused w₂ o w') :
      FirstOpened paused w o w'
  | exhausted {w w₁ w' : World} {t : TrackId} {e : PlaybackError}
      (hcur : w.controller.queue.current = some t)
      (hopen : (openTrack t).run.run w = (.error e, w₁))
      (hskip : (skipUnopenable w.controller.queue t e).run w₁ = (false, w')) :
      FirstOpened paused w none w'
  | unselected {w : World} (hcur : w.controller.queue.current = none) :
      FirstOpened paused w none (stop.run w).2

/-- The loop runs the search whenever its fuel covers the songs from the selected one to the
end of the queue; whether a song loaded is whether one opened. -/
theorem loadFromSelected_firstOpened (paused : Bool) (fuel : Nat) (w : World)
    (hfuel : w.controller.queue.length + 1 ≤ fuel + w.controller.queue.position.toNat) :
    Holds (loadFromSelected paused fuel)
      (fun r w' => ∃ o, FirstOpened paused w o w' ∧ r = o.isSome) w := by
  induction fuel generalizing w with
  | zero =>
    -- fuel runs out only past the end of the queue, where nothing is selected
    have hout : w.controller.queue.inBounds w.controller.queue.position = false := by
      simp only [PlayQueue.inBounds, Bool.and_eq_false_iff, decide_eq_false_iff_not]
      omega
    have hcur : w.controller.queue.current = none := by
      simp [PlayQueue.current, PlayQueue.songAt, hout]
    exact ⟨none, .unselected hcur, rfl⟩
  | succ fuel ih =>
    simp -zeta only [loadFromSelected, holds_bind, holds_queue]
    split
    · rename_i hcur
      exact ⟨none, .unselected hcur, rfl⟩
    · rename_i t hcur
      simp -zeta only [holds_bind]
      rcases hopen : (openTrack t).run.run w with ⟨r, w₁⟩
      obtain ⟨hc₁, -, -⟩ := (holds_of_run_eq hopen).mp (openTrack_frame t w)
      rw [holds_of_run_eq hopen]
      cases r with
      | ok s =>
        simp only [holds_bind, holds_pure]
        unfold Holds
        exact ⟨_, .opened hcur hopen, rfl⟩
      | error e =>
        simp only [holds_bind]
        rcases hskip : (skipUnopenable w.controller.queue t e).run w₁ with ⟨more, w₂⟩
        rw [holds_of_run_eq hskip]
        cases more with
        | false => exact ⟨none, .exhausted hcur hopen hskip, rfl⟩
        | true =>
          obtain ⟨htracks, hmore, -⟩ := (holds_of_run_eq hskip).mp
            (skipUnopenable_frame _ t e w₁ (by rw [hc₁]))
          obtain ⟨-, -, hpos, hnext⟩ := hmore rfl
          -- the next attempt is one position further on, with one less fuel
          have hfuel₂ : w₂.controller.queue.length + 1 ≤ fuel + w₂.controller.queue.position.toNat := by
            have h0 : 0 ≤ w.controller.queue.position :=
              (PlayQueue.inBounds_iff.mp (PlayQueue.inBounds_of_current hcur)).1
            have hlen : w₂.controller.queue.length = w.controller.queue.length :=
              congrArg List.length htracks
            rw [hlen, hpos, PlayQueue.peekNext_eq hnext]
            omega
          refine (ih w₂ hfuel₂).mono ?_
          rintro _ _ ⟨o, ho, hr⟩
          exact ⟨o, .skipped hcur hopen hskip ho, hr⟩

/-- Unloading and then loading from the selection runs the search from the unloaded world. -/
theorem startPlayback_firstOpened (paused : Bool) (w : World) :
    Holds (startPlayback paused)
      (fun r w' => ∃ o, FirstOpened paused (teardown.run w).2 o w' ∧ r = o.isSome) w := by
  simp only [startPlayback, holds_bind, holds_queue]
  exact loadFromSelected_firstOpened paused
    ((teardown.run w).2.controller.queue.length + 1) (teardown.run w).2 (by omega)

/-! ## What the search leaves -/

section Attempts

variable {paused : Bool} {w w₁ w₂ : World} {t : TrackId}

/-- A song that opened is taken up in the state asked for, with nothing announced and the queue
as it was. -/
theorem opened_attempt {s : Session} (hopen : (openTrack t).run.run w = (.ok s, w₁)) (q : PlayQueue) :
    Announced [] [] w ((adoptSession paused q t s).run w₁).2 ∧
      ((adoptSession paused q t s).run w₁).2.controller.queue = w.controller.queue ∧
      ((adoptSession paused q t s).run w₁).2.controller.state =
        (if paused then .paused else .preparing) := by
  obtain ⟨hc₁, han₁, -⟩ := (holds_of_run_eq hopen).mp (openTrack_frame t w)
  obtain ⟨hhub, hq, hstate⟩ := adoptSession_frame paused q t s w₁
  exact ⟨by simpa using han₁.trans (Announced.of_hub hhub), by rw [hq, hc₁], hstate⟩

/-- A song that failed to open is given up: the next song is selected in the same state, or the
player stops with nothing selected. -/
theorem failed_attempt {e : PlaybackError} {more : Bool}
    (hopen : (openTrack t).run.run w = (.error e, w₁))
    (hskip : (skipUnopenable w.controller.queue t e).run w₁ = (more, w₂)) :
    w₂.controller.queue.tracks = w.controller.queue.tracks ∧
      (more = true → Announced [] [] w w₂ ∧ w₂.controller.state = w.controller.state ∧
        w₂.controller.queue.position = w.controller.queue.position + 1 ∧
        w₂.controller.queue.position < w.controller.queue.length) ∧
      (more = false → Announced (stopMoves w.controller.state) [] w w₂ ∧
        w₂.controller.state = .stopped ∧ w₂.controller.queue.position = -1) := by
  obtain ⟨hc₁, han₁, -⟩ := (holds_of_run_eq hopen).mp (openTrack_frame t w)
  obtain ⟨htracks, hmore, hlast⟩ := (holds_of_run_eq hskip).mp
    (skipUnopenable_frame _ t e w₁ (by rw [hc₁]))
  have hstate : w₁.controller.state = w.controller.state := by rw [hc₁]
  refine ⟨htracks, fun h => ?_, fun h => ?_⟩
  · obtain ⟨han₂, hs₂, hpos, hnext⟩ := hmore h
    have hlt := PlayQueue.peekNext_lt hnext
    exact ⟨by simpa using han₁.trans han₂, hs₂.trans hstate,
      hpos.trans (PlayQueue.peekNext_eq hnext), hpos ▸ hlt⟩
  · obtain ⟨han₂, hs₂, hpos⟩ := hlast h
    exact ⟨by simpa [hstate] using han₁.trans han₂, hs₂, hpos⟩

end Attempts

namespace FirstOpened

variable {paused : Bool} {w w' : World} {o : Option Int}

/-- The search keeps the songs queued. -/
theorem tracks (h : FirstOpened paused w o w') :
    w'.controller.queue.tracks = w.controller.queue.tracks := by
  induction h with
  | opened _ hopen => rw [(opened_attempt hopen _).2.1]
  | skipped _ hopen hskip _ ih => rw [ih, (failed_attempt hopen hskip).1]
  | exhausted _ hopen hskip => exact (failed_attempt hopen hskip).1
  | @unselected w _ => rw [(stop_announces w).2.2]

/-- The search announces no queue change, and no move but the stop of a player that was not
stopped, when no song opened. -/
theorem announced (h : FirstOpened paused w o w') :
    Announced (if o.isSome then [] else stopMoves w.controller.state) [] w w' := by
  induction h with
  | opened _ hopen => exact (opened_attempt hopen _).1
  | skipped _ hopen hskip _ ih =>
    obtain ⟨han, hstate, -⟩ := (failed_attempt hopen hskip).2.1 rfl
    simpa [hstate] using han.trans ih
  | exhausted _ hopen hskip => exact ((failed_attempt hopen hskip).2.2 rfl).1
  | @unselected w _ => exact (stop_announces w).1

/-- When a song opened, the player is in the state asked for with that song selected, at or
after the selection the search started from. -/
theorem of_some (h : FirstOpened paused w o w') :
    ∀ p, o = some p → w'.controller.state = (if paused then .paused else .preparing) ∧
      w'.controller.queue.position = p ∧ w.controller.queue.position ≤ p ∧
      p < w.controller.queue.length := by
  induction h with
  | @opened w w₁ t s hcur hopen =>
    rintro p ⟨⟩
    obtain ⟨-, hq, hstate⟩ := @opened_attempt paused _ _ _ _ hopen w.controller.queue
    have hb := PlayQueue.inBounds_iff.mp (PlayQueue.inBounds_of_current hcur)
    exact ⟨hstate, by rw [hq], Int.le_refl _, hb.2⟩
  | skipped _ hopen hskip _ ih =>
    intro p hp
    obtain ⟨htracks, hmore, -⟩ := failed_attempt hopen hskip
    obtain ⟨-, -, hpos, -⟩ := hmore rfl
    obtain ⟨hstate, hat, hle, hlt⟩ := ih p hp
    have hlen : _ = _ := congrArg List.length htracks
    exact ⟨hstate, hat, by omega, by simpa only [PlayQueue.length, hlen] using hlt⟩
  | exhausted => rintro p ⟨⟩
  | unselected => rintro p ⟨⟩

/-- When no song opened, the player is stopped, with nothing selected if a song was selected to
begin with. -/
theorem of_none (h : FirstOpened paused w o w') :
    o = none → w'.controller.state = .stopped ∧
      (w.controller.queue.current.isSome → w'.controller.queue.position = -1) := by
  induction h with
  | opened => rintro ⟨⟩
  | skipped hcur hopen hskip _ ih =>
    intro hnone
    obtain ⟨htracks, hmore, -⟩ := failed_attempt hopen hskip
    obtain ⟨-, -, hpos, hlt⟩ := hmore rfl
    -- the song after a selected one is selected in turn
    have h0 := (PlayQueue.inBounds_iff.mp (PlayQueue.inBounds_of_current hcur)).1
    have hsel : _ = _ := congrArg List.length htracks
    refine ⟨(ih hnone).1, fun _ => (ih hnone).2 ?_⟩
    rw [PlayQueue.current, PlayQueue.songAt_isSome, PlayQueue.inBounds_iff]
    simp only [PlayQueue.length] at hlt
    omega
  | exhausted _ hopen hskip =>
    intro _
    obtain ⟨-, hs, hpos⟩ := (failed_attempt hopen hskip).2.2 rfl
    exact ⟨hs, fun _ => hpos⟩
  | @unselected w hcur =>
    intro _
    refine ⟨(stop_announces w).2.1, fun h => ?_⟩
    rw [hcur] at h
    cases h

end FirstOpened

/-- Loading from the selection keeps the songs queued and announces no queue change. -/
theorem startPlayback_keeps_tracks (paused : Bool) (w : World) :
    Holds (startPlayback paused) (fun _ w' =>
      w'.controller.queue.tracks = w.controller.queue.tracks ∧ w'.hub.changes = w.hub.changes) w := by
  refine (startPlayback_firstOpened paused w).mono ?_
  rintro _ w' ⟨o, ho, _⟩
  obtain ⟨hhub, hc⟩ := teardown_frame w
  refine ⟨by rw [ho.tracks, hc], ?_⟩
  rw [ho.announced.2, Channel.broadcastAll_nil, hhub]

/-- What announcing the selected song's play sends: its position and track, if a song is
selected. -/
def playMoves (q : PlayQueue) : List MoveEvent :=
  match q.current with
  | some t => [.play q.position t]
  | none => []

theorem emitPlay_announces (w : World) :
    Holds emitPlay (fun _ w' => w'.controller = w.controller ∧
      Announced (playMoves w.controller.queue) [] w w') w := by
  simp only [emitPlay, holds_bind, holds_queue, playMoves]
  cases w.controller.queue.current with
  | some t =>
    simp only [holds_emitMove]
    exact ⟨trivial, by simp, by simp⟩
  | none => exact ⟨rfl, rfl, rfl⟩

end Player

end PlaybackEngine
