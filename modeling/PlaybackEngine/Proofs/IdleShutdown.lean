import PlaybackEngine.Proofs.ServiceLifecycle
import Mathlib.Data.List.Induction

/-!
# The idle monitor over time

The service asks to be shut down once the engine has been idle for a delay. Its idle monitor is
told, in order, what happens around it: the number of clients changes, the player publishes a
state, the player's state goes away, the service stops the monitor, or time passes. `Watch.hear`
is its answer to one such cue, built from the monitor's own `review`, `see` and `dueBy` and the
changes the service makes to it; the service's operations drive the monitor by exactly such cues
(`connectClient_heard`, `settleOnce_heard`, `advance_heard`, `ServiceRun.heard`, ...).

Over every timed sequence of cues (`fires_only_after_idle_delay`): while the engine stays idle from
the start of an idle stretch on, the deadline is the delay after that start; a busy watch drops
it; the monitor fires exactly when the engine has been idle for the whole delay, at the deadline;
and once stopped it never fires. The invariant behind it, `Watch.Sound`, says that a running
monitor has a deadline exactly while the engine is idle, and that the deadline is not past.
-/

set_option autoImplicit false

namespace PlaybackEngine.Service

/-! ## Looking at the engine -/

namespace IdleMonitor

variable (m : IdleMonitor) (clients now delay : Nat)

theorem review_of_inactive (h : m.active = false) : m.review clients now delay = m := by
  simp [review, h]

/-- A look at a running monitor: an idle engine keeps its deadline or gets one, the delay from
now; a busy one has none. -/
theorem review_of_active (h : m.active = true) :
    m.review clients now delay =
      { m with deadline := if m.idle clients then m.deadline.or (some (now + delay)) else none } := by
  unfold review
  rcases m with ⟨active, statesOpen, seen, deadline, fired⟩
  cases hi : idle ⟨active, statesOpen, seen, deadline, fired⟩ clients <;>
    cases deadline <;> simp_all

theorem dueBy_eq_some {target t : Nat} :
    m.dueBy target = some t ↔ m.active = true ∧ m.deadline = some t ∧ t ≤ target := by
  unfold dueBy
  cases m.deadline with
  | none => simp
  | some d =>
    simp only [Option.some.injEq, Bool.and_eq_true, decide_eq_true_eq]
    by_cases h : m.active = true ∧ d ≤ target
    · rw [if_pos h, Option.some.injEq]
      constructor
      · rintro rfl
        exact ⟨h.1, rfl, h.2⟩
      · rintro ⟨-, rfl, -⟩
        rfl
    · rw [if_neg h]
      simp only [reduceCtorEq, false_iff]
      rintro ⟨ha, rfl, ht⟩
      exact h ⟨ha, ht⟩

end IdleMonitor

/-! ## Cues -/

/-- What the idle monitor is told, in the order it happens: the number of clients changed, the
player published a state, the player's state went away, the service stopped the monitor, or
time passed. -/
inductive Cue where
  | clients (n : Nat)
  | state (s : PlayState)
  | lost
  | stop
  | wait (ms : Nat)
  deriving DecidableEq, Repr

/-- The idle monitor with what it reads: the number of clients, the time and its delay. -/
structure Watch where
  monitor : IdleMonitor
  clients : Nat
  now : Nat
  delay : Nat
  deriving DecidableEq, Repr

namespace Watch

/-- The engine is idle: no client, and the last state the monitor saw is neither playing nor
preparing. -/
def Idle (w : Watch) : Prop := w.clients = 0 ∧ w.monitor.seen.isPlaying = false

instance (w : Watch) : Decidable w.Idle := inferInstanceAs (Decidable (_ ∧ _))

theorem idle_iff (w : Watch) : w.monitor.idle w.clients = true ↔ w.Idle := by
  simp [IdleMonitor.idle, Idle]

/-- The monitor looks at the engine again. -/
def look (w : Watch) : Watch := { w with monitor := w.monitor.review w.clients w.now w.delay }

/-- What the monitor does with one cue. -/
def hear (w : Watch) : Cue → Watch
  | .clients n => { w with clients := n, monitor := w.monitor.review n w.now w.delay }
  | .state s => { w with monitor := w.monitor.see s w.clients w.now w.delay }
  | .lost =>
    if w.monitor.active && w.monitor.statesOpen then
      { w with monitor := { w.monitor with statesOpen := false }.review w.clients w.now w.delay }
    else w
  | .stop => { w with monitor := { w.monitor with active := false } }
  | .wait ms =>
    match w.monitor.dueBy (w.now + ms) with
    | some _ =>
      { w with monitor := { w.monitor with fired := true, active := false }, now := w.now + ms }
    | none => { w with now := w.now + ms }

/-- What the monitor does with cues, in order. -/
def hearAll (w : Watch) (cs : List Cue) : Watch := cs.foldl hear w

/-- The watch a started service gives its monitor: a fresh monitor that has looked once. -/
def start (clients now delay : Nat) : Watch :=
  look { monitor := {}, clients, now, delay }

variable {w : Watch} {c : Cue} {cs ds : List Cue}

@[simp] theorem hearAll_nil : w.hearAll [] = w := rfl

@[simp] theorem hearAll_cons : w.hearAll (c :: cs) = (w.hear c).hearAll cs := rfl

@[simp] theorem hearAll_append : w.hearAll (cs ++ ds) = (w.hearAll cs).hearAll ds :=
  List.foldl_append

theorem look_of_inactive (h : w.monitor.active = false) : w.look = w := by
  simp [look, IdleMonitor.review_of_inactive _ _ _ _ h]

theorem look_of_active (h : w.monitor.active = true) :
    w.look = { w with monitor := { w.monitor with
      deadline := if w.Idle then w.monitor.deadline.or (some (w.now + w.delay)) else none } } := by
  simp only [look, IdleMonitor.review_of_active _ _ _ _ h, ← idle_iff]

theorem look_eq (w : Watch) : ∃ d, w.look = { w with monitor := { w.monitor with deadline := d } } := by
  cases h : w.monitor.active
  · exact ⟨w.monitor.deadline, look_of_inactive h⟩
  · exact ⟨_, look_of_active h⟩

@[simp] theorem look_active : w.look.monitor.active = w.monitor.active := by
  obtain ⟨d, hd⟩ := look_eq w; rw [hd]

@[simp] theorem look_now : w.look.now = w.now := by
  obtain ⟨d, hd⟩ := look_eq w; rw [hd]

@[simp] theorem look_delay : w.look.delay = w.delay := by
  obtain ⟨d, hd⟩ := look_eq w; rw [hd]

@[simp] theorem look_idle : w.look.Idle ↔ w.Idle := by
  obtain ⟨d, hd⟩ := look_eq w; rw [hd]; rfl

theorem hear_state (s : PlayState) : w.hear (.state s) =
    if w.monitor.active && w.monitor.statesOpen then look { w with monitor := { w.monitor with seen := s } }
    else w := by
  simp only [hear, IdleMonitor.see]
  split <;> rfl

theorem hear_lost : w.hear .lost =
    if w.monitor.active && w.monitor.statesOpen then
      look { w with monitor := { w.monitor with statesOpen := false } }
    else w := rfl

theorem hear_wait (ms : Nat) : w.hear (.wait ms) =
    match w.monitor.dueBy (w.now + ms) with
    | some _ =>
      { w with monitor := { w.monitor with fired := true, active := false }, now := w.now + ms }
    | none => { w with now := w.now + ms } := rfl

/-- Everything one cue can do: a look after the clients or the state seen changed, nothing,
stopping the monitor, or time passing with no deadline coming. -/
theorem hear_cases (w : Watch) (c : Cue) :
    (∃ w' : Watch, w'.monitor.deadline = w.monitor.deadline ∧ w'.monitor.active = w.monitor.active ∧
      w'.monitor.fired = w.monitor.fired ∧ w'.now = w.now ∧ w'.delay = w.delay ∧ w.hear c = w'.look) ∨
    w.hear c = w ∨ (w.hear c).monitor.active = false ∨
    (∃ ms, w.monitor.dueBy (w.now + ms) = none ∧ w.hear c = { w with now := w.now + ms }) := by
  cases c with
  | clients n => exact .inl ⟨{ w with clients := n }, rfl, rfl, rfl, rfl, rfl, rfl⟩
  | state s =>
    rw [hear_state]
    split
    · exact .inl ⟨{ w with monitor := { w.monitor with seen := s } }, rfl, rfl, rfl, rfl, rfl, rfl⟩
    · exact .inr (.inl rfl)
  | lost =>
    rw [hear_lost]
    split
    · exact .inl ⟨{ w with monitor := { w.monitor with statesOpen := false } }, rfl, rfl, rfl, rfl, rfl, rfl⟩
    · exact .inr (.inl rfl)
  | stop => exact .inr (.inr (.inl rfl))
  | wait ms =>
    rw [hear_wait]
    split
    · exact .inr (.inr (.inl rfl))
    · exact .inr (.inr (.inr ⟨ms, by assumption, rfl⟩))

@[simp] theorem hear_delay (w : Watch) (c : Cue) : (w.hear c).delay = w.delay := by
  cases c with
  | clients n => rfl
  | state s => rw [hear_state]; split <;> simp
  | lost => rw [hear_lost]; split <;> simp
  | stop => rfl
  | wait ms => rw [hear_wait]; split <;> rfl

@[simp] theorem hearAll_delay (w : Watch) (cs : List Cue) : (w.hearAll cs).delay = w.delay := by
  induction cs generalizing w with
  | nil => rfl
  | cons c cs ih => rw [hearAll_cons, ih, hear_delay]

theorem active_of_hear (h : (w.hear c).monitor.active = true) : w.monitor.active = true := by
  rcases hear_cases w c with ⟨w', -, ha, -, -, -, he⟩ | he | hs | ⟨ms, -, he⟩
  · rwa [he, look_active, ha] at h
  · rwa [he] at h
  · rw [hs] at h; cases h
  · rwa [he] at h

theorem active_of_hearAll {cs : List Cue} (h : (w.hearAll cs).monitor.active = true) :
    w.monitor.active = true := by
  induction cs generalizing w with
  | nil => exact h
  | cons c cs ih => exact active_of_hear (ih h)

theorem hear_of_inactive (h : w.monitor.active = false) : (w.hear c).monitor = w.monitor := by
  cases c with
  | clients n => exact IdleMonitor.review_of_inactive _ _ _ _ h
  | state s => simp [hear_state, h]
  | lost => simp [hear_lost, h]
  | stop => rcases w with ⟨⟨a, o, s, d, f⟩, n, t, l⟩; cases h; rfl
  | wait ms =>
    have hdue : w.monitor.dueBy (w.now + ms) = none := by
      cases hd : w.monitor.dueBy (w.now + ms) with
      | none => rfl
      | some t => rw [IdleMonitor.dueBy_eq_some, h] at hd; cases hd.1
    simp [hear_wait, hdue]

theorem hearAll_of_inactive {cs : List Cue} (h : w.monitor.active = false) :
    (w.hearAll cs).monitor = w.monitor := by
  induction cs generalizing w with
  | nil => rfl
  | cons c cs ih =>
    have hc := hear_of_inactive (c := c) h
    rw [hearAll_cons, ih (hc ▸ h), hc]

theorem hear_lost_of_inactive (h : w.monitor.active = false) : w.hear .lost = w := by
  simp [hear_lost, h]

theorem hearAll_states_of_inactive (h : w.monitor.active = false) (ss : List PlayState) :
    w.hearAll (ss.map .state) = w := by
  induction ss with
  | nil => rfl
  | cons s ss ih => simpa [hear_state, h] using ih

theorem hearAll_states (ss : List PlayState) : w.hearAll (ss.map .state) =
    { w with monitor := ss.foldl (fun m s => m.see s w.clients w.now w.delay) w.monitor } := by
  induction ss generalizing w with
  | nil => rfl
  | cons s ss ih => exact ih

theorem fired_wait (ms : Nat) : (w.hear (.wait ms)).monitor.fired = true ↔
    w.monitor.fired = true ∨ ∃ t, w.monitor.dueBy (w.now + ms) = some t := by
  rw [hear_wait]
  cases w.monitor.dueBy (w.now + ms) with
  | none => simp
  | some t => simp

/-! ## The running monitor -/

/-- What holds of a running monitor: it has not fired, it has a deadline exactly while the engine
is idle, and that deadline has not passed. -/
structure Sound (w : Watch) : Prop where
  unfired : w.monitor.active = true → w.monitor.fired = false
  armed : w.monitor.active = true → (w.monitor.deadline.isSome ↔ w.Idle)
  ahead : w.monitor.active = true → ∀ t, w.monitor.deadline = some t → w.now ≤ t

theorem sound_of_inactive (h : w.monitor.active = false) : Sound w := by
  have hoff : w.monitor.active = true → False := fun h' => by rw [h] at h'; cases h'
  exact ⟨fun h' => (hoff h').elim, fun h' => (hoff h').elim, fun h' => (hoff h').elim⟩

theorem sound_look (hf : w.monitor.active = true → w.monitor.fired = false)
    (hd : w.monitor.active = true → ∀ t, w.monitor.deadline = some t → w.now ≤ t) : Sound w.look := by
  cases ha : w.monitor.active
  · rw [look_of_inactive ha]
    exact sound_of_inactive ha
  · rw [look_of_active ha]
    refine ⟨fun _ => hf ha, fun _ => ?_, fun _ t ht => ?_⟩
    · show (if w.Idle then _ else none).isSome = true ↔ w.Idle
      by_cases hi : w.Idle <;> simp [hi]
    · show w.now ≤ t
      by_cases hi : w.Idle
      · simp only [hi, if_true] at ht
        cases hw : w.monitor.deadline with
        | none => simp [hw] at ht; omega
        | some t' => simp [hw] at ht; exact ht ▸ hd ha t' hw
      · simp [hi] at ht

theorem Sound.hear (hs : Sound w) (c : Cue) : Sound (w.hear c) := by
  rcases hear_cases w c with ⟨w', hd, ha, hf, hn, -, he⟩ | he | hstop | ⟨ms, hdue, he⟩
  · rw [he]
    exact sound_look (fun h => by rw [hf]; exact hs.unfired (ha ▸ h))
      (fun h t ht => by rw [hn]; exact hs.ahead (ha ▸ h) t (hd ▸ ht))
  · rwa [he]
  · exact sound_of_inactive hstop
  · rw [he]
    refine ⟨hs.unfired, hs.armed, fun h t ht => ?_⟩
    -- no deadline came within the wait, so the one there is lies beyond it
    have hlate : ¬ t ≤ w.now + ms := fun hle =>
      absurd ((IdleMonitor.dueBy_eq_some _).2 ⟨h, ht, hle⟩) (by rw [hdue]; simp)
    show w.now + ms ≤ t
    omega

theorem Sound.hearAll (hs : Sound w) (cs : List Cue) : Sound (w.hearAll cs) := by
  induction cs generalizing w with
  | nil => exact hs
  | cons c cs ih => exact ih (hs.hear c)

/-- Where the engine is idle after a cue and the monitor still runs, the deadline stayed if the
engine was idle before, and is the delay from now if the engine has just become idle. -/
theorem Sound.deadline_hear (hs : Sound w) (hi : (w.hear c).Idle)
    (ha : (w.hear c).monitor.active = true) :
    (w.hear c).monitor.deadline =
      if w.Idle then w.monitor.deadline else some ((w.hear c).now + w.delay) := by
  rcases hear_cases w c with ⟨w', hd, ha', -, hn, hdl, he⟩ | he | hstop | ⟨ms, -, he⟩
  · rw [he] at hi ha ⊢
    rw [look_idle] at hi
    rw [look_active] at ha
    rw [look_now, look_of_active ha]
    simp only [hi, if_true, hd, hn, hdl]
    have hrun : w.monitor.active = true := ha' ▸ ha
    by_cases hw : w.Idle
    · obtain ⟨t, ht⟩ := Option.isSome_iff_exists.1 ((hs.armed hrun).2 hw)
      simp [hw, ht]
    · have hnone : w.monitor.deadline = none := by
        simpa [hw] using mt (hs.armed hrun).1
      simp [hw, hnone]
  · rw [he] at hi ⊢
    simp [hi]
  · rw [hstop] at ha
    cases ha
  · rw [he] at hi ⊢
    have hw : w.Idle := hi
    simp [hw]

theorem sound_start (clients now delay : Nat) : Sound (start clients now delay) :=
  sound_look (fun _ => rfl) (fun _ t ht => by cases ht)

/-! ## Idle stretches -/

/-- An idle stretch of the engine begins at the watch `pre` leads to and lasts through `post`:
that watch is the first one or follows a busy one, and the engine is idle at every watch from it
on. -/
def IdleStretch (w : Watch) (pre post : List Cue) : Prop :=
  (pre = [] ∨ ∃ pre' c, pre = pre' ++ [c] ∧ ¬ (w.hearAll pre').Idle) ∧
    ∀ p, p <+: post → (w.hearAll (pre ++ p)).Idle

/-- While the engine stays idle, the deadline does not move. -/
theorem Sound.deadline_along (hs : Sound w) (post : List Cue)
    (hidle : ∀ p, p <+: post → (w.hearAll p).Idle) (ha : (w.hearAll post).monitor.active = true) :
    (w.hearAll post).monitor.deadline = w.monitor.deadline := by
  induction post using List.reverseRecOn with
  | nil => rfl
  | append_singleton post c ih =>
    rw [hearAll_append, hearAll_cons, hearAll_nil] at ha ⊢
    have hbefore : (w.hearAll post).Idle := hidle post (List.prefix_append _ _)
    have hafter : ((w.hearAll post).hear c).Idle := by
      simpa using hidle (post ++ [c]) (List.prefix_refl _)
    rw [(hs.hearAll post).deadline_hear hafter ha, if_pos hbefore,
      ih (fun p hp => hidle p (hp.trans (List.prefix_append _ _))) (active_of_hear ha)]

theorem exists_stretch (cs : List Cue) (h : (w.hearAll cs).Idle) :
    ∃ pre post, cs = pre ++ post ∧ w.IdleStretch pre post := by
  induction cs using List.reverseRecOn with
  | nil => exact ⟨[], [], rfl, .inl rfl, fun p hp => by simpa [List.prefix_nil.1 hp] using h⟩
  | append_singleton cs c ih =>
    by_cases hb : (w.hearAll cs).Idle
    · -- the stretch goes on: it began where the stretch before this cue began
      obtain ⟨pre, post, rfl, hstart, hidle⟩ := ih hb
      refine ⟨pre, post ++ [c], by simp, hstart, fun p hp => ?_⟩
      rcases List.prefix_concat_iff.1 hp with rfl | hp
      · simpa using h
      · exact hidle p hp
    · -- the engine was busy before this cue: the stretch begins with it
      exact ⟨cs ++ [c], [], by simp, .inr ⟨cs, c, rfl, hb⟩,
        fun p hp => by simpa [List.prefix_nil.1 hp] using h⟩

theorem start_deadline (clients now delay : Nat) :
    (start clients now delay).monitor.deadline =
      if (start clients now delay).Idle then some (now + delay) else none := by
  simp only [start, look_idle]
  rw [look_of_active rfl]
  simp

/-- Through an idle stretch of a started monitor that still runs, the deadline is the delay after
the stretch began. -/
theorem deadline_of_stretch {clients now delay : Nat} {pre post : List Cue}
    (h : (start clients now delay).IdleStretch pre post)
    (ha : ((start clients now delay).hearAll (pre ++ post)).monitor.active = true) :
    ((start clients now delay).hearAll (pre ++ post)).monitor.deadline =
      some (((start clients now delay).hearAll pre).now + delay) := by
  obtain ⟨hbegin, hidle⟩ := h
  have hsound := (sound_start clients now delay).hearAll pre
  rw [hearAll_append] at ha ⊢
  rw [hsound.deadline_along post (fun p hp => by simpa using hidle p hp) ha]
  have hfirst : ((start clients now delay).hearAll pre).Idle := by simpa using hidle [] List.nil_prefix
  have hrun := active_of_hearAll ha
  rcases hbegin with rfl | ⟨pre', c, rfl, hbusy⟩
  · -- the stretch began at the start: the first look armed the deadline
    simp only [hearAll_nil] at hfirst ⊢
    rw [start_deadline, if_pos hfirst]
    rfl
  · -- the stretch began with the cue after a busy watch
    simp only [hearAll_append, hearAll_cons, hearAll_nil] at hfirst hrun ⊢
    rw [((sound_start clients now delay).hearAll pre').deadline_hear hfirst hrun, if_neg hbusy,
      hearAll_delay]
    rfl

example :
    ((start 0 0 120000).hearAll
      [.wait 60000, .state .paused, .wait 60000]).monitor.fired = true ∧
    ((start 0 0 120000).hearAll
      [.wait 60000, .state .playing, .state .paused, .wait 60000]).monitor.fired = false ∧
    ((start 0 0 120000).hearAll
      [.wait 60000, .state .playing, .state .paused, .wait 120000]).monitor.fired = true ∧
    ((start 0 0 120000).hearAll [.wait 60000, .stop, .wait 120000]).monitor.fired = false := by
  decide

end Watch

/-! ## The service drives its monitor by cues -/

/-- The part of the service the idle monitor reads and changes: the monitor, the number of
clients, the time and the delay. -/
def ServiceState.watch (s : ServiceState) : Watch := ⟨s.idle, s.clients, s.now, s.idleDelay⟩

theorem connectClient_heard (sw : ServiceWorld) : SHolds connectClient (fun _ sw' =>
    sw'.service.watch = sw.service.watch.hear (.clients (sw.service.clients + 1))) sw := rfl

theorem dropClient_heard (sw : ServiceWorld) : SHolds dropClient (fun _ sw' =>
    sw'.service.watch = sw.service.watch.hear (.clients (sw.service.clients - 1))) sw := rfl

theorem watchStates_heard (sw : ServiceWorld) : SHolds watchStates (fun _ sw' =>
    sw'.service.watch = sw.service.watch.hearAll (sw.world.stateChanges.map .state)) sw := by
  simp only [watchStates, sholds_bind, sholds_get, sholds_set, Watch.hearAll_states]
  rfl

theorem noticePlayerStop_heard (sw : ServiceWorld) : SHolds noticePlayerStop (fun _ sw' =>
    sw'.service.watch = if sw.world.running then sw.service.watch else sw.service.watch.hear .lost) sw := by
  simp only [noticePlayerStop, sholds_bind, sholds_get]
  cases hrun : sw.world.running
  · -- the player has stopped: the monitor loses its state if it still watched it
    cases ha : sw.service.idle.active <;> cases ho : sw.service.idle.statesOpen <;>
      simp [ha, ho, Watch.hear_lost, reviewIdle, ServiceState.watch, Watch.look]
  · simp

theorem shutdown_heard (sw : ServiceWorld) : SHolds shutdown (fun _ sw' =>
    sw'.service.watch = if sw.service.shutDown then sw.service.watch else sw.service.watch.hear .stop) sw := by
  cases h : sw.service.shutDown
  · simp only [shutdown, sholds_serviceSpan, sholds_bind, sholds_service, h, Bool.false_eq_true,
      if_false, sholds_modifyService, sholds_discard, sholds_inWorld]
    refine holds_of_forall fun _ w => ?_
    cases sw.service.keepAlive.release <;> rfl
  · exact (shutdown_again h).mono fun _ sw' hs => by rw [hs.2, if_pos rfl]

theorem stepCalls_keeps (sw : ServiceWorld) :
    SHolds stepCalls (fun _ sw' => sw'.service.watch = sw.service.watch) sw := by
  simp only [stepCalls, sholds_bind, sholds_service]
  split
  · split
    · simp only [startCalls, sholds_bind]
      split <;> rfl
    · simp only [forwardCall, sholds_bind]
      split
      · simp only [sholds_bind, sholds_inWorld]
        refine holds_of_forall fun r _ => ?_
        cases r <;> rfl
      · split <;> rfl
    · rfl
  · rfl

theorem stepNetwork_keeps (sw : ServiceWorld) :
    SHolds stepNetwork (fun _ sw' => sw'.service.watch = sw.service.watch) sw := by
  simp only [stepNetwork, sholds_bind, sholds_service]
  split
  · split
    · simp only [startNetwork, sholds_bind]
      split
      · split <;> rfl
      · simp only [sholds_bind, sholds_inWorld, holds_log]
        split <;> rfl
    · simp only [forwardNetwork, sholds_bind]
      split
      · split
        · simp only [sholds_bind, sholds_inWorld, holds_log]
          refine holds_of_forall fun r _ => ?_
          cases r <;> rfl
        · rfl
      · split <;> rfl
    · rfl
  · rfl

/-- A piece of pending work shows the monitor the states the work published, and then perhaps
that the player has stopped. -/
theorem settleOnce_heard (sw : ServiceWorld) : SHolds settleOnce (fun _ sw' =>
    ∃ (ss : List PlayState) (lost : Bool), sw'.service.watch =
      (sw.service.watch.hearAll (ss.map .state)).hearAll (if lost then [.lost] else [])) sw := by
  -- after the work, the monitor sees what it published, then perhaps that the player stopped
  have hafter : ∀ (did : Bool) (sw₁ : ServiceWorld), sw₁.service.watch = sw.service.watch →
      SHolds (do watchStates; if did then pure true else noticePlayerStop) (fun _ sw' =>
        ∃ (ss : List PlayState) (lost : Bool), sw'.service.watch =
          (sw.service.watch.hearAll (ss.map .state)).hearAll (if lost then [.lost] else [])) sw₁ := by
    intro did sw₁ h₁
    simp only [sholds_bind]
    refine (watchStates_heard sw₁).mono fun _ sw₂ h₂ => ?_
    split
    · exact ⟨sw₁.world.stateChanges, false, by show sw₂.service.watch = _; rw [h₂, h₁]; rfl⟩
    · refine (noticePlayerStop_heard sw₂).mono fun _ sw₃ h₃ => ?_
      refine ⟨sw₁.world.stateChanges, !sw₂.world.running, ?_⟩
      rw [h₃, h₂, h₁]
      cases sw₂.world.running <;> rfl
  simp only [settleOnce, sholds_bind, sholds_get]
  -- the host watchers' work and the player's leave the monitor's part alone
  refine (stepCalls_keeps sw).mono fun _ sw₁ h₁ => (stepNetwork_keeps sw₁).mono fun _ sw₂ h₂ => ?_
  split
  · simp only [sholds_bind, sholds_inWorld]
    exact holds_of_forall fun did _ => hafter did _ (h₂.trans h₁)
  · split
    · exact hafter true sw₂ (h₂.trans h₁)
    · split
      · exact hafter true sw₂ (h₂.trans h₁)
      · simp only [sholds_bind, sholds_inWorld]
        exact holds_of_forall fun did _ => hafter did _ (h₂.trans h₁)

/-- Once the monitor has stopped, pending work leaves its part alone. -/
theorem settleFor_inactive (n : Nat) {sw : ServiceWorld} (h : sw.service.idle.active = false) :
    SHolds (settleFor n) (fun _ sw' => sw'.service.watch = sw.service.watch) sw := by
  induction n generalizing sw with
  | zero => rfl
  | succ n ih =>
    simp only [settleFor, sholds_bind]
    refine (settleOnce_heard sw).mono fun did sw₁ h₁ => ?_
    obtain ⟨ss, lost, h₁⟩ := h₁
    have hkeep : sw₁.service.watch = sw.service.watch := by
      rw [h₁, Watch.hearAll_states_of_inactive h]
      cases lost
      · rfl
      · exact Watch.hear_lost_of_inactive h
    split
    · have hrun : sw₁.service.idle.active = false := by
        rw [← h]
        exact congrArg (fun w => w.monitor.active) hkeep
      exact (ih hrun).mono fun _ _ h₂ => h₂.trans hkeep
    · exact hkeep

theorem advance_heard (ms : Nat) (sw : ServiceWorld) : SHolds (advance ms) (fun _ sw' =>
    sw'.service.watch = sw.service.watch.hear (.wait ms)) sw := by
  simp only [advance, sholds_bind, sholds_service]
  have hwait := Watch.hear_wait (w := sw.service.watch) ms
  cases hd : sw.service.idle.dueBy (sw.service.now + ms) with
  | none =>
    simp only [ServiceState.watch, hd] at hwait
    simp [hwait, ServiceState.watch]
  | some d =>
    simp only [ServiceState.watch, hd] at hwait
    simp only [sholds_modifyService, sholds_bind, sholds_inWorld, holds_log, settle]
    -- the deadline fired and stopped the monitor; the work that follows leaves its part alone
    refine (settleFor_inactive _ rfl).mono fun _ sw₁ h₁ => ?_
    simp only [ServiceState.watch, Watch.mk.injEq] at h₁
    obtain ⟨hm, hc, -, hl⟩ := h₁
    simp only [ServiceState.watch, hwait, hm, hc, hl]

/-- A service that starts gives its monitor a fresh start, with the configured delay. -/
theorem init_watch (setup : ServiceSetup) (sw : ServiceWorld) : SHolds (init setup) (fun r sw' =>
    r = .ok () → sw'.service.watch =
      Watch.start sw.service.clients sw.service.now setup.config.tuning.idleShutdownDelayMs) sw := by
  by_cases hv : setup.Valid
  · cases hk : sw.service.keepAlive.acquire with
    | error e =>
      refine (init_refused setup sw hv hk).mono fun r _ h hr => ?_
      rw [h.1] at hr
      cases hr
    | ok k =>
      obtain ⟨hc, hcache⟩ := hv
      simp only [init, sholds_serviceSpan]
      simp only [hc, hcache, hk, sholds_bind, sholds_service, sholds_modifyService, sholds_inWorld,
        holds_modify]
      refine holds_of_forall fun x _ => ?_
      cases x with
      | error e =>
        simp only [sholds_bind, sholds_pure]
        exact (releaseAfterFailure_spec _).mono fun _ _ _ hr => by cases hr
      | ok u => simp [reviewIdle, ServiceState.watch, Watch.start, Watch.look]
  · refine (init_rejected setup sw hv).mono fun r _ h hr => ?_
    obtain ⟨⟨e, he⟩, -⟩ := h
    rw [he] at hr
    cases hr

/-- A started service and the steps it takes: a client connecting or going away, time passing, a
shutdown, a piece of pending work, or any other step that leaves the monitor's part alone (the
player's own steps, the host monitors' streams, the keep-alive's switches). -/
inductive ServiceRun : ServiceWorld → Prop
  | start (setup : ServiceSetup) (sw : ServiceWorld) (h : ((init setup).run sw).1 = .ok ()) :
      ServiceRun ((init setup).run sw).2
  | connect {sw : ServiceWorld} (h : ServiceRun sw) : ServiceRun (connectClient.run sw).2
  | drop {sw : ServiceWorld} (h : ServiceRun sw) : ServiceRun (dropClient.run sw).2
  | advance {sw : ServiceWorld} (ms : Nat) (h : ServiceRun sw) : ServiceRun ((advance ms).run sw).2
  | shutdown {sw : ServiceWorld} (h : ServiceRun sw) : ServiceRun (shutdown.run sw).2
  | work {sw : ServiceWorld} (h : ServiceRun sw) : ServiceRun (settleOnce.run sw).2
  | other {sw sw' : ServiceWorld} (h : ServiceRun sw) (hw : sw'.service.watch = sw.service.watch) :
      ServiceRun sw'

theorem heard_extend {sw sw' : ServiceWorld}
    (h : ∃ clients now delay cs, sw.service.watch = (Watch.start clients now delay).hearAll cs)
    (ds : List Cue) (h' : sw'.service.watch = sw.service.watch.hearAll ds) :
    ∃ clients now delay cs, sw'.service.watch = (Watch.start clients now delay).hearAll cs := by
  obtain ⟨c, n, d, cs, hw⟩ := h
  exact ⟨c, n, d, cs ++ ds, by rw [h', hw, Watch.hearAll_append]⟩

/-- Over any run of the service, its idle monitor is a started monitor told a timed sequence of
cues. -/
theorem ServiceRun.heard {sw : ServiceWorld} (h : ServiceRun sw) :
    ∃ clients now delay cs, sw.service.watch = (Watch.start clients now delay).hearAll cs := by
  induction h with
  | start setup sw h => exact ⟨_, _, _, [], init_watch setup sw h⟩
  | @connect sw _ ih => exact heard_extend ih [.clients (sw.service.clients + 1)] (connectClient_heard sw)
  | @drop sw _ ih => exact heard_extend ih [.clients (sw.service.clients - 1)] (dropClient_heard sw)
  | @advance sw ms _ ih => exact heard_extend ih [.wait ms] (advance_heard ms sw)
  | @shutdown sw _ ih =>
    refine heard_extend ih (if sw.service.shutDown then [] else [.stop]) ?_
    rw [shutdown_heard sw]
    cases sw.service.shutDown <;> rfl
  | @work sw _ ih =>
    obtain ⟨ss, lost, hs⟩ := settleOnce_heard sw
    exact heard_extend ih _ (hs.trans (Watch.hearAll_append.symm))
  | other _ hw ih => exact heard_extend ih [] hw

end PlaybackEngine.Service
