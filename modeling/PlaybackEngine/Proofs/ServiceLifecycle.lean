import PlaybackEngine.Service.Lifecycle
import PlaybackEngine.Proofs.Hoare

/-!
# The keep-alive over the service's life

Starting the service checks its configuration, takes the host's keep-alive and starts the
player; shutting it down stops the watchers and the idle monitor, ends the player's task and
gives the keep-alive back, and a second shutdown does nothing. Over a whole life, a start
followed by any number of shutdowns, the keep-alive is given back at most once and only after it
was taken: by the start itself when the player cannot start, and otherwise by the first
shutdown, after which every request to the player fails as stopped. The main statement is
`keepAlive_given_back_once`.

`SHolds a Q sw` is the weakest precondition of a service operation, as `Holds` is of an engine
operation; its rules take a service's `do` block apart and hand the engine's part to `Holds`.
-/

set_option autoImplicit false

namespace PlaybackEngine.Service

/-! ## Reasoning about service operations -/

variable {α β : Type}

/-- `Q` holds of what `a` returns from `sw` and of the state it leaves. -/
def SHolds (a : ServiceAct α) (Q : α → ServiceWorld → Prop) (sw : ServiceWorld) : Prop :=
  Q (a.run sw).1 (a.run sw).2

@[simp] theorem sholds_pure (x : α) (Q : α → ServiceWorld → Prop) (sw : ServiceWorld) :
    SHolds (pure x) Q sw ↔ Q x sw := Iff.rfl

@[simp] theorem sholds_bind (a : ServiceAct α) (f : α → ServiceAct β) (Q : β → ServiceWorld → Prop)
    (sw : ServiceWorld) : SHolds (a >>= f) Q sw ↔ SHolds a (fun x sw' => SHolds (f x) Q sw') sw :=
  Iff.rfl

@[simp] theorem sholds_get (Q : ServiceWorld → ServiceWorld → Prop) (sw : ServiceWorld) :
    SHolds get Q sw ↔ Q sw sw := Iff.rfl

@[simp] theorem sholds_set (sw' : ServiceWorld) (Q : PUnit → ServiceWorld → Prop) (sw : ServiceWorld) :
    SHolds (set sw') Q sw ↔ Q () sw' := Iff.rfl

@[simp] theorem sholds_modify (f : ServiceWorld → ServiceWorld) (Q : PUnit → ServiceWorld → Prop)
    (sw : ServiceWorld) : SHolds (modify f) Q sw ↔ Q () (f sw) := Iff.rfl

@[simp] theorem sholds_service (Q : ServiceState → ServiceWorld → Prop) (sw : ServiceWorld) :
    SHolds service Q sw ↔ Q sw.service sw := Iff.rfl

@[simp] theorem sholds_modifyService (f : ServiceState → ServiceState) (Q : Unit → ServiceWorld → Prop)
    (sw : ServiceWorld) :
    SHolds (modifyService f) Q sw ↔ Q () { sw with service := f sw.service } := Iff.rfl

@[simp] theorem sholds_inWorld (a : Act α) (Q : α → ServiceWorld → Prop) (sw : ServiceWorld) :
    SHolds (inWorld a) Q sw ↔ Holds a (fun x w => Q x { sw with world := w }) sw.world := Iff.rfl

@[simp] theorem sholds_map (f : α → β) (a : ServiceAct α) (Q : β → ServiceWorld → Prop)
    (sw : ServiceWorld) : SHolds (f <$> a) Q sw ↔ SHolds a (fun x => Q (f x)) sw := Iff.rfl

@[simp] theorem sholds_discard (a : ServiceAct α) (Q : Unit → ServiceWorld → Prop)
    (sw : ServiceWorld) : SHolds (discard a) Q sw ↔ SHolds a (fun _ => Q ()) sw := Iff.rfl

theorem SHolds.mono {a : ServiceAct α} {Q R : α → ServiceWorld → Prop} {sw : ServiceWorld}
    (h : SHolds a Q sw) (hq : ∀ x sw', Q x sw' → R x sw') : SHolds a R sw :=
  hq _ _ h

theorem sholds_serviceSpan (name : String) (a : ServiceAct α) (Q : α → ServiceWorld → Prop)
    (sw : ServiceWorld) :
    SHolds (serviceSpan name a) Q sw ↔
      SHolds a (fun x sw' => Q x { sw' with world := { sw'.world with spans := sw'.world.spans.drop 1 } })
        { sw with world := { sw.world with spans := name :: sw.world.spans } } := Iff.rfl

end PlaybackEngine.Service

namespace PlaybackEngine.KeepAlive

/-- The keep-alive after one call to give it back: given back, or as it was when that failed. -/
def releasedOnce (k : KeepAlive) : KeepAlive :=
  match k.release with
  | .ok k' => k'
  | .error _ => k

/-- What a shutdown that gives the keep-alive back reports: done, or why giving it back
failed. -/
def releaseReport (k : KeepAlive) : Except Service.ServiceError Unit :=
  match k.release with
  | .ok _ => .ok ()
  | .error e => .error (.bridge e)

end PlaybackEngine.KeepAlive

namespace PlaybackEngine.Player

/-! ## The player's start and end, as the service sees them -/

theorem spawn_running (s : Setup) (w : World) :
    Holds (spawn s) (fun r w' => r = .ok () → w'.running = true) w := by
  simp only [spawn, holds_bind, holds_modify]
  refine holds_of_forall fun r w₁ => ?_
  cases r with
  | error e => simp
  | ok recovered => simp [modifyController]

theorem requestShutdown_ends (w : World) :
    Holds requestShutdown (fun _ w' => w'.running = false) w := by
  unfold requestShutdown halt
  simp only [holds_bind, holds_get]
  split
  · rename_i h
    simpa using h
  · simp only [holds_detached, holds_bind, holds_modify, holds_pure]
    trivial

theorem request_stopped {α : Type} (a : Act α) {w : World} (h : w.running = false) :
    (request a).run w = (.error .engineStopped, w) := by
  simp [request, h]
  rfl

end PlaybackEngine.Player

namespace PlaybackEngine.Service

/-! ## Starting -/

/-- What starting the service checks before it takes the keep-alive: the configuration, and the
cache settings made from it. -/
def ServiceSetup.Valid (setup : ServiceSetup) : Prop :=
  setup.config.check = .ok () ∧
    ({ baseDir := setup.config.cacheDir, leaveFreeBytes := setup.config.leaveFreeBytes } :
      CacheSettings).check = .ok ()

theorem releaseAfterFailure_spec (sw : ServiceWorld) :
    SHolds releaseAfterFailure (fun _ sw' =>
      sw'.service = { sw.service with keepAlive := sw.service.keepAlive.releasedOnce } ∧
        sw'.world.running = sw.world.running) sw := by
  unfold releaseAfterFailure KeepAlive.releasedOnce
  simp only [sholds_bind, sholds_service]
  cases hr : sw.service.keepAlive.release with
  | ok k' => simp
  | error e => simp

theorem init_acquired (setup : ServiceSetup) (sw : ServiceWorld) (hv : setup.Valid) {k : KeepAlive}
    (hk : sw.service.keepAlive.acquire = .ok k) :
    SHolds (init setup) (fun r sw' =>
      (r = .ok () ∧ sw'.service.keepAlive = k ∧ sw'.world.running = true ∧
        sw'.service.shutDown = sw.service.shutDown) ∨
      (∃ e, r = .error (.playback e) ∧ sw'.service.keepAlive = k.releasedOnce)) sw := by
  obtain ⟨hc, hcache⟩ := hv
  simp only [init, sholds_serviceSpan]
  simp only [hc, hcache, hk, sholds_bind, sholds_service, sholds_modifyService, sholds_inWorld,
    holds_modify]
  refine Holds.mono (Player.spawn_running _ _) ?_
  intro x w hrun
  cases x with
  | error e =>
    -- the player did not start: the keep-alive is given back once
    simp only [sholds_bind, sholds_pure]
    refine (releaseAfterFailure_spec _).mono ?_
    rintro _ sw' ⟨hs, -⟩
    exact Or.inr ⟨e, rfl, by rw [hs]⟩
  | ok u =>
    have hrun := hrun rfl
    simp [reviewIdle, hrun]

theorem init_rejected (setup : ServiceSetup) (sw : ServiceWorld) (hv : ¬ setup.Valid) :
    SHolds (init setup) (fun r sw' => (∃ e, r = .error (.runtime e)) ∧ sw' = sw) sw := by
  unfold ServiceSetup.Valid at hv
  simp only [init, sholds_serviceSpan]
  cases hc : setup.config.check with
  | error e => simp
  | ok u =>
    cases hcache : ({ baseDir := setup.config.cacheDir, leaveFreeBytes := setup.config.leaveFreeBytes } :
        CacheSettings).check with
    | error m => simp
    | ok u' => exact absurd ⟨hc, hcache⟩ hv

theorem init_refused (setup : ServiceSetup) (sw : ServiceWorld) (hv : setup.Valid) {e : HostError}
    (hk : sw.service.keepAlive.acquire = .error e) :
    SHolds (init setup) (fun r sw' => r = .error (.bridge e) ∧ sw' = sw) sw := by
  obtain ⟨hc, hcache⟩ := hv
  simp only [init, sholds_serviceSpan]
  simp [hc, hcache, hk]

/-! ## Shutting down -/

theorem shutdown_again {sw : ServiceWorld} (h : sw.service.shutDown = true) :
    SHolds shutdown (fun r sw' => r = .ok () ∧ sw' = sw) sw := by
  simp [shutdown, sholds_serviceSpan, h]

theorem shutdown_first {sw : ServiceWorld} (h : sw.service.shutDown = false) :
    SHolds shutdown (fun r sw' => r = sw.service.keepAlive.releaseReport ∧
      sw'.service.keepAlive = sw.service.keepAlive.releasedOnce ∧ sw'.service.shutDown = true ∧
      sw'.world.running = false ∧ sw'.service.idle.active = false ∧
      (∀ c ∈ sw'.service.calls, c.phase = .ended) ∧
      (∀ n ∈ sw'.service.network, n.phase = .ended)) sw := by
  simp only [shutdown, sholds_serviceSpan, sholds_bind, sholds_service, h, Bool.false_eq_true,
    if_false, sholds_modifyService, sholds_discard, sholds_inWorld]
  -- the player's task has ended before the keep-alive is given back
  refine (Player.requestShutdown_ends _).mono ?_
  intro _ w hrun
  unfold KeepAlive.releaseReport KeepAlive.releasedOnce
  cases hr : sw.service.keepAlive.release with
  | error e => simp [hrun, CallWatch.stop, NetworkWatch.stop]
  | ok k => simp [hrun, CallWatch.stop, NetworkWatch.stop]

/-- `n` calls to shut the service down, one after another; what each returned. -/
def shutdownTimes : Nat → ServiceAct (List (Except ServiceError Unit))
  | 0 => pure []
  | n + 1 => do
    let r ← shutdown
    let rs ← shutdownTimes n
    pure (r :: rs)

/-- Starting the service and, if it started, `n` calls to shut it down: what starting returned,
and what each shutdown returned. -/
def lifecycle (setup : ServiceSetup) (n : Nat) :
    ServiceAct (Except ServiceError Unit × List (Except ServiceError Unit)) := do
  match ← init setup with
  | .error e => pure (.error e, [])
  | .ok () =>
    let rs ← shutdownTimes n
    pure (.ok (), rs)

theorem shutdownTimes_again {sw : ServiceWorld} (h : sw.service.shutDown = true) (n : Nat) :
    SHolds (shutdownTimes n) (fun rs sw' => rs = List.replicate n (.ok ()) ∧ sw' = sw) sw := by
  induction n with
  | zero => simp [shutdownTimes]
  | succ n ih =>
    simp only [shutdownTimes, sholds_bind]
    refine (shutdown_again h).mono ?_
    rintro r sw' ⟨rfl, rfl⟩
    refine ih.mono ?_
    rintro rs sw'' ⟨rfl, rfl⟩
    simp [List.replicate_succ]

theorem shutdownTimes_first {sw : ServiceWorld} (h : sw.service.shutDown = false) (n : Nat) :
    SHolds (shutdownTimes (n + 1)) (fun rs sw' =>
      rs = sw.service.keepAlive.releaseReport :: List.replicate n (.ok ()) ∧
      sw'.service.keepAlive = sw.service.keepAlive.releasedOnce ∧ sw'.world.running = false ∧
      sw'.service.idle.active = false ∧ (∀ c ∈ sw'.service.calls, c.phase = .ended) ∧
      (∀ n ∈ sw'.service.network, n.phase = .ended)) sw := by
  simp only [shutdownTimes, sholds_bind]
  refine (shutdown_first h).mono ?_
  rintro r sw' ⟨rfl, hk, hdown, hrun, hidle, hcalls, hnet⟩
  -- every later call finds the service shut down and changes nothing
  refine (shutdownTimes_again hdown n).mono ?_
  rintro rs sw'' ⟨rfl, rfl⟩
  exact ⟨rfl, hk, hrun, hidle, hcalls, hnet⟩

theorem lifecycle_rejected (setup : ServiceSetup) (sw : ServiceWorld) (n : Nat)
    (hv : ¬ setup.Valid) :
    SHolds (lifecycle setup n) (fun out sw' =>
      (∃ e, out.1 = .error (.runtime e)) ∧ sw'.service.keepAlive = sw.service.keepAlive) sw := by
  simp only [lifecycle, sholds_bind]
  refine (init_rejected setup sw hv).mono ?_
  rintro r sw' ⟨⟨e, rfl⟩, rfl⟩
  exact ⟨⟨e, rfl⟩, rfl⟩

theorem lifecycle_refused (setup : ServiceSetup) (sw : ServiceWorld) (n : Nat) (hv : setup.Valid)
    {e : HostError} (hk : sw.service.keepAlive.acquire = .error e) :
    SHolds (lifecycle setup n) (fun out sw' =>
      out.1 = .error (.bridge e) ∧ sw'.service.keepAlive = sw.service.keepAlive) sw := by
  simp only [lifecycle, sholds_bind]
  refine (init_refused setup sw hv hk).mono ?_
  rintro r sw' ⟨rfl, rfl⟩
  exact ⟨rfl, rfl⟩

/-- After a start, `n` shutdowns: none leaves the keep-alive held, and the first of several gives
it back once and stops the service's tasks. -/
theorem shutdowns_after_start {sw : ServiceWorld} {k : KeepAlive} (hkeep : sw.service.keepAlive = k)
    (hdown : sw.service.shutDown = false) (n : Nat) :
    SHolds (shutdownTimes n >>= fun rs => pure ((.ok () : Except ServiceError Unit), rs))
      (fun out sw' => out.1 = .ok () ∧ (n = 0 → sw'.service.keepAlive = k) ∧
        (0 < n → out.2 = k.releaseReport :: List.replicate (n - 1) (.ok ()) ∧
          sw'.service.keepAlive = k.releasedOnce ∧ sw'.service.idle.active = false ∧
          (∀ c ∈ sw'.service.calls, c.phase = .ended) ∧
          (∀ m ∈ sw'.service.network, m.phase = .ended) ∧ sw'.world.running = false)) sw := by
  subst hkeep
  cases n with
  | zero => exact ⟨rfl, fun _ => rfl, fun h => absurd h (Nat.lt_irrefl 0)⟩
  | succ n =>
    simp only [sholds_bind]
    refine (shutdownTimes_first hdown n).mono ?_
    rintro rs sw' ⟨rfl, hk', hrun, hidle, hcalls, hnet⟩
    exact ⟨rfl, fun h => absurd h (Nat.succ_ne_zero n), fun _ => ⟨rfl, hk', hidle, hcalls, hnet, hrun⟩⟩

theorem lifecycle_acquired (setup : ServiceSetup) (sw : ServiceWorld) (n : Nat) (hv : setup.Valid)
    {k : KeepAlive} (hk : sw.service.keepAlive.acquire = .ok k) (hfresh : sw.service.shutDown = false) :
    SHolds (lifecycle setup n) (fun out sw' =>
      ((∃ e, out.1 = .error (.playback e)) ∧ sw'.service.keepAlive = k.releasedOnce) ∨
      (out.1 = .ok () ∧ (n = 0 → sw'.service.keepAlive = k) ∧
        (0 < n → out.2 = k.releaseReport :: List.replicate (n - 1) (.ok ()) ∧
          sw'.service.keepAlive = k.releasedOnce ∧ sw'.service.idle.active = false ∧
          (∀ c ∈ sw'.service.calls, c.phase = .ended) ∧
          (∀ m ∈ sw'.service.network, m.phase = .ended) ∧ sw'.world.running = false))) sw := by
  simp only [lifecycle, sholds_bind]
  refine (init_acquired setup sw hv hk).mono ?_
  rintro r sw₁ (⟨rfl, hkeep, -, hdown⟩ | ⟨e, rfl, hkeep⟩)
  · -- started: the keep-alive is given back by the first shutdown, and only by it
    rw [hfresh] at hdown
    exact Or.inr (shutdowns_after_start hkeep hdown n)
  · exact Or.inl ⟨⟨e, rfl⟩, hkeep⟩

/-- Over a whole life of the service, the keep-alive is given back at most once, and only after
it was taken. A configuration that fails its checks, or a keep-alive that cannot be taken, leaves
it as it was. Once taken, it is given back exactly once: by the start itself when the player
cannot start, or else by the first of any number of shutdowns, which reports whether giving it
back failed while every later one reports success and does nothing; by then the watchers and
the idle monitor have stopped and the player's task has ended, so every request to the player
fails as stopped. -/
theorem keepAlive_given_back_once (setup : ServiceSetup) (w : World) (k : KeepAlive) (n : Nat) :
    SHolds (lifecycle setup n) (fun out sw' =>
      (¬ setup.Valid → (∃ e, out.1 = .error (.runtime e)) ∧ sw'.service.keepAlive = k) ∧
      (setup.Valid → ∀ e, k.acquire = .error e →
        out.1 = .error (.bridge e) ∧ sw'.service.keepAlive = k) ∧
      (setup.Valid → ∀ k₁, k.acquire = .ok k₁ →
        ((∃ e, out.1 = .error (.playback e)) ∧ sw'.service.keepAlive = k₁.releasedOnce) ∨
        (out.1 = .ok () ∧ (n = 0 → sw'.service.keepAlive = k₁) ∧
          (0 < n → out.2 = k₁.releaseReport :: List.replicate (n - 1) (.ok ()) ∧
            sw'.service.keepAlive = k₁.releasedOnce ∧ sw'.service.idle.active = false ∧
            (∀ c ∈ sw'.service.calls, c.phase = .ended) ∧
            (∀ m ∈ sw'.service.network, m.phase = .ended) ∧ sw'.world.running = false ∧
            ∀ (α : Type) (a : Act α),
              (Player.request a).run sw'.world = (.error .engineStopped, sw'.world)))))
      ⟨w, { keepAlive := k }⟩ := by
  refine ⟨fun hv => lifecycle_rejected setup _ n hv, fun hv e hk => lifecycle_refused setup _ n hv hk,
    fun hv k₁ hk => ?_⟩
  rcases lifecycle_acquired setup ⟨w, { keepAlive := k }⟩ n hv hk rfl with hfail | ⟨hok, hzero, hsome⟩
  · exact Or.inl hfail
  · refine Or.inr ⟨hok, hzero, fun hn => ?_⟩
    obtain ⟨hrs, hkeep, hidle, hcalls, hnet, hrun⟩ := hsome hn
    exact ⟨hrs, hkeep, hidle, hcalls, hnet, hrun, fun _ a => Player.request_stopped a hrun⟩

end PlaybackEngine.Service
