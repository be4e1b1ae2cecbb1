import PlaybackEngine.Proofs.StateFileFrame
import PlaybackEngine.Proofs.QueueEdits

set_option autoImplicit false

/-!
# Every change of the queue or the play state is marked

After each message the player saves its queue and play state if it marked them changed
(`dirty`), and a successful save clears the mark. So the state file falls behind the player only
if a handler changes the queue or the state without marking it, or if something other than a
save writes the file.

`Guarded f a` rules out both for an action `a`: it keeps `Placed f` (the state file is `f`, the
queue selects a song or nothing, and neither the loaded song's file nor any file the cache
reaches is at `f`), and it does no more than `Kept f` (the file at `f` stays as it was, a mark
stays, and a player left unmarked has the queue and play state it had). Every command
(`apply_guarded`), query, signal (`onSignal_guarded`), decoder callback
(`onDecoderEvent_guarded`) and download notice (`onDownloadEvent_guarded`) is `Guarded`, and so
is every transfer (`runTask_guarded`).
-/

namespace PlaybackEngine

/-- A request the manager holds writes no file at `f`. -/
theorem Manager.requestFor_apart {f : String} {m : Manager} (h : m.spares f = true)
    {track : TrackId} {req : DownloadRequest} (hr : Downloads.requestFor m track = some req) :
    Path.same f req.destination = false := by
  obtain ⟨t, hget, rfl⟩ := Option.map_eq_some_iff.mp hr
  have ht := Manager.spares_of_mem_records h (Table.mem_of_get? hget)
  simp only [Tracked.spares, Bool.and_eq_true, Bool.not_eq_true'] at ht
  exact ht.1


namespace Player

open PlaybackEngine.World

/-- Where a player stands towards its state file `f`: it is the player's state file, the queue
selects a song or nothing, the loaded song's file is elsewhere, and so is every file the cache
reaches. -/
structure Placed (f : String) (w : World) : Prop where
  stateFile : w.controller.stateFile = f
  selects : w.controller.queue.Selects
  session : w.controller.session.all (!Path.same f ·.path) = true
  cache : w.CacheApart f

/-- What an operation other than a save does from `w` to `w'`: the file at `f` stays as it was,
a change mark stays, and a player left unmarked has the queue and play state it had. -/
structure Kept (f : String) (w w' : World) : Prop where
  file : w'.volume.file? f = w.volume.file? f
  marked : w.controller.dirty = true → w'.controller.dirty = true
  clean : w'.controller.dirty = false →
    w'.controller.queue = w.controller.queue ∧ w'.controller.state = w.controller.state

namespace Kept

variable {f : String} {w₁ w₂ w₃ : World}

theorem refl (f : String) (w : World) : Kept f w w := ⟨rfl, id, fun _ => ⟨rfl, rfl⟩⟩

theorem trans (h₁ : Kept f w₁ w₂) (h₂ : Kept f w₂ w₃) : Kept f w₁ w₃ where
  file := h₂.file.trans h₁.file
  marked := h₂.marked ∘ h₁.marked
  clean hd := by
    -- the end is unmarked, so the middle was: a mark would have stayed
    have hd₂ : w₂.controller.dirty = false := by
      cases h : w₂.controller.dirty with
      | false => rfl
      | true => rw [h₂.marked h] at hd; cases hd
    obtain ⟨hq₂, hs₂⟩ := h₂.clean hd
    obtain ⟨hq₁, hs₁⟩ := h₁.clean hd₂
    exact ⟨hq₂.trans hq₁, hs₂.trans hs₁⟩

theorem of_marked (hv : w₂.volume.file? f = w₁.volume.file? f)
    (hd : w₂.controller.dirty = true) : Kept f w₁ w₂ :=
  ⟨hv, fun _ => hd, fun h => by rw [hd] at h; cases h⟩

theorem of_controller (hv : w₂.volume.file? f = w₁.volume.file? f)
    (hc : w₂.controller = w₁.controller) : Kept f w₁ w₂ :=
  ⟨hv, fun h => hc ▸ h, fun _ => ⟨by rw [hc], by rw [hc]⟩⟩

end Kept

theorem Placed.of_controller {f : String} {w w' : World} (hw : Placed f w)
    (hc : w'.controller = w.controller) (hcache : w'.CacheApart f) : Placed f w' := by
  refine ⟨?_, ?_, ?_, hcache⟩ <;> rw [hc]
  · exact hw.stateFile
  · exact hw.selects
  · exact hw.session

/-- `a` keeps the player placed towards `f`, and does no more than `Kept f`. -/
def Guarded (f : String) {α : Type} (a : Act α) : Prop := Preserves (Placed f) (Kept f) a

namespace Guarded

variable {f : String} {α β ε : Type} {a : Act α} {w w₀ : World}

/-- Runs a guarded action from a world reached from `w₀`, keeping the relation to `w₀`. -/
theorem holds_from {Q : α → World → Prop} (h : Guarded f a) (hw : Placed f w) (hk : Kept f w₀ w)
    (hq : ∀ x w', Placed f w' → Kept f w₀ w' → Q x w') : Holds a Q w :=
  (h w hw).mono fun x w' ⟨hp, hk'⟩ => hq x w' hp (hk.trans hk')

theorem bind {g : α → Act β} (ha : Guarded f a) (hg : ∀ x, Guarded f (g x)) :
    Guarded f (a >>= g) :=
  Preserves.bind (fun h₁ h₂ => h₁.trans h₂) ha hg

theorem attemptBind {x : ExceptT ε Act α} {g : α → ExceptT ε Act β} (hx : Guarded f x.run)
    (hg : ∀ a, Guarded f (g a).run) : Guarded f (x >>= g).run :=
  Preserves.attemptBind (fun h₁ h₂ => h₁.trans h₂) hx hg

/-- What keeps the player's own state and spares the state file is guarded. -/
theorem of_spares (hs : Spares f a) (hk : Keeps World.actor a) : Guarded f a := by
  intro w hw
  refine ((hs w hw.cache).and ((keeps_iff _ _).mp hk w)).mono fun _ w' ⟨⟨hc, hv⟩, ha⟩ => ?_
  have hctl : w'.controller = w.controller := World.controller_of_actor ha
  exact ⟨hw.of_controller hctl hc, Kept.of_controller hv hctl⟩

/-- What keeps the player's own state and the cache's view is guarded. -/
theorem of_keeps (h : Keeps (fun w => (w.controller, w.cacheView)) a) : Guarded f a := by
  intro w hw
  refine h.holds fun _ w' h' => ?_
  simp only [Prod.mk.injEq] at h'
  obtain ⟨hc, hview⟩ := h'
  exact ⟨hw.of_controller hc (World.cacheApart_of_view hview hw.cache),
    Kept.of_controller (World.file?_of_view hview f) hc⟩

theorem pure (x : α) : Guarded f (Pure.pure x : Act α) := of_keeps (keeps_pure _ _)

theorem discard (h : Guarded f a) : Guarded f (Functor.discard a) := h

/-- Spans are not part of what a guard looks at. -/
theorem spans {Q : α → World → Prop} (h : Guarded f a) {w : World} (hw : Placed f w)
    (s : List String) (hq : ∀ x w', Placed f w' → Kept f w w' → Q x w') :
    Holds a Q { w with spans := s } :=
  (h { w with spans := s } ⟨hw.stateFile, hw.selects, hw.session, hw.cache⟩).mono fun x w' ⟨hp, hk⟩ =>
    hq x w' hp ⟨hk.file, hk.marked, hk.clean⟩

theorem inSpan (h : Guarded f a) (name : String) : Guarded f (World.inSpan name a) := by
  intro w hw
  rw [holds_inSpan]
  exact h.spans hw _ fun _ _ hp hk =>
    ⟨⟨hp.stateFile, hp.selects, hp.session, hp.cache⟩, ⟨hk.file, hk.marked, hk.clean⟩⟩

theorem detached (h : Guarded f a) : Guarded f (World.detached a) := by
  intro w hw
  rw [holds_detached]
  exact h.spans hw _ fun _ _ hp hk =>
    ⟨⟨hp.stateFile, hp.selects, hp.session, hp.cache⟩, ⟨hk.file, hk.marked, hk.clean⟩⟩

/-- Reading the world, the continuation may use that the player is placed. -/
theorem bind_get {g : World → Act β} (hg : ∀ w, Placed f w → Guarded f (g w)) :
    Guarded f (get >>= g) := by
  intro w hw
  rw [holds_bind, holds_get]
  exact hg w hw w hw

theorem bind_controller {g : Controller → Act β}
    (hg : ∀ c, c.queue.Selects → c.session.all (!Path.same f ·.path) = true → Guarded f (g c)) :
    Guarded f (controller >>= g) := by
  intro w hw
  rw [holds_bind, holds_controller]
  exact hg _ hw.selects hw.session w hw

theorem bind_queue {g : PlayQueue → Act β} (hg : ∀ q, q.Selects → Guarded f (g q)) :
    Guarded f (queue >>= g) := by
  intro w hw
  rw [holds_bind, holds_queue]
  exact hg _ hw.selects w hw

end Guarded

section Primitives

variable {f : String}

theorem controller_guarded : Guarded f controller := Guarded.of_keeps fun _ => rfl

theorem queue_guarded : Guarded f queue := Guarded.of_keeps fun _ => rfl

theorem get_guarded : Guarded f (get : Act World) := Guarded.of_keeps fun _ => rfl

theorem log_guarded (l : LogLevel) (target message : String) (fields : List (String × String)) :
    Guarded f (log l target message fields) :=
  Guarded.of_keeps (keeps_log (fun _ _ => rfl) _ _ _ _)

theorem emitMove_guarded (e : MoveEvent) : Guarded f (emitMove e) := Guarded.of_keeps fun _ => rfl

theorem emitChange_guarded (e : ChangeEvent) : Guarded f (emitChange e) :=
  Guarded.of_keeps fun _ => rfl

theorem emitBuffer_guarded (track : TrackId) (percent : Nat) : Guarded f (emitBuffer track percent) :=
  Guarded.of_keeps fun _ => rfl

theorem emitDownload_guarded (e : DownloadEvent) : Guarded f (emitDownload e) :=
  Guarded.of_keeps fun _ => rfl

theorem decoderCall_guarded (g : Decoder → Except HostError Unit × Decoder) :
    Guarded f (decoderCall g) :=
  Guarded.of_keeps fun _ => rfl

theorem clearBuffer_guarded :
    Guarded f (modify fun w => { w with hub := w.hub.clearBuffer } : Act Unit) :=
  Guarded.of_keeps fun _ => rfl

/-- Replacing the queue marks the change. -/
theorem setQueue_guarded {q : PlayQueue} (hq : q.Selects) : Guarded f (setQueue q) := by
  intro w hw
  rw [holds_setQueue]
  exact ⟨⟨hw.stateFile, hq, hw.session, hw.cache⟩, Kept.of_marked rfl rfl⟩

theorem selectPosition_guarded (p : Int) : Guarded f (selectPosition p) := by
  intro w hw
  rw [holds_selectPosition]
  exact ⟨⟨hw.stateFile, hw.selects.setPosition p, hw.session, hw.cache⟩, Kept.of_marked rfl rfl⟩

/-- Moving to another play state marks the change; staying does nothing. -/
theorem setState_guarded (st : PlayState) : Guarded f (setState st) := by
  intro w hw
  rw [holds_setState]
  split
  · exact ⟨⟨hw.stateFile, hw.selects, hw.session, hw.cache⟩, Kept.of_marked rfl rfl⟩
  · exact ⟨hw, Kept.refl f w⟩

/-- A change of the player's own state that keeps its state file, queue, play state and mark,
and loads no song at `f`. -/
theorem modifyController_guarded {g : Controller → Controller}
    (hkeep : ∀ c, (g c).stateFile = c.stateFile ∧ (g c).queue = c.queue ∧ (g c).state = c.state ∧
      (g c).dirty = c.dirty)
    (hsession : ∀ c, c.session.all (!Path.same f ·.path) = true →
      (g c).session.all (!Path.same f ·.path) = true) :
    Guarded f (modifyController g) := by
  intro w hw
  rw [holds_modifyController]
  obtain ⟨hfile, hq, hst, hd⟩ := hkeep w.controller
  refine ⟨⟨?_, ?_, hsession _ hw.session, hw.cache⟩, ⟨rfl, fun h => ?_, fun _ => ⟨hq, hst⟩⟩⟩
  · exact hfile.trans hw.stateFile
  · exact hq ▸ hw.selects
  · exact hd.trans h

theorem dropSession_guarded : Guarded f (modifyController fun c => { c with session := none }) :=
  modifyController_guarded (fun _ => ⟨rfl, rfl, rfl, rfl⟩) fun _ _ => rfl

theorem clearOffset_guarded :
    Guarded f (modifyController fun c => { c with pausedOffsetMs := none }) :=
  modifyController_guarded (fun _ => ⟨rfl, rfl, rfl, rfl⟩) fun _ h => h

theorem teardown_guarded : Guarded f teardown := by
  unfold teardown
  refine Guarded.bind controller_guarded fun c => ?_
  split
  · exact Guarded.pure _
  · refine Guarded.bind dropSession_guarded fun _ => ?_
    refine Guarded.bind (decoderCall_guarded _).discard fun _ => ?_
    refine Guarded.bind (decoderCall_guarded _) fun r => ?_
    split
    · exact Guarded.pure _
    · exact log_guarded _ _ _ _

theorem stop_guarded : Guarded f stop := by
  unfold stop
  refine Guarded.bind teardown_guarded fun _ => Guarded.bind controller_guarded fun c => ?_
  refine Guarded.bind (setState_guarded _) fun _ => Guarded.bind clearOffset_guarded fun _ => ?_
  refine Guarded.bind clearBuffer_guarded fun _ => ?_
  split
  · exact emitMove_guarded _
  · exact Guarded.pure _

end Primitives

section Loading

variable {f : String}

theorem lookupTrack_found (track : TrackId) (w : World) :
    Holds (lookupTrack track).run
      (fun r w' => w' = w ∧ ∀ t, r = .ok t → w.catalog.lookup track = some t) w := by
  simp only [lookupTrack, holds_attempt_bind, holds_attempt_get]
  split
  · rename_i t ht
    exact ⟨rfl, fun t' h => by cases h; exact ht⟩
  · exact ⟨rfl, fun _ h => by cases h⟩

theorem partialLength_reads (path : String) : Keeps id (Cache.partialLength path).run := by
  rw [keeps_iff]
  intro w
  simp only [Cache.partialLength, holds_attempt_bind, holds_fileLen]
  rcases w.volume.fileLen path with _ | _
  · exact trivial
  · rfl

theorem activeRecord_apart {m : Manager} (h : m.spares f = true) {d : Download}
    (hd : Downloads.activeRecord m = some d) : Path.same f d.destination = false := by
  unfold Downloads.activeRecord Downloads.snapshot at hd
  split at hd
  · obtain ⟨t, ht, rfl⟩ := Option.map_eq_some_iff.mp hd
    have hs := Manager.spares_of_mem_records h (Table.mem_of_get? ht)
    simp only [Tracked.spares, Bool.and_eq_true, Bool.not_eq_true'] at hs
    exact hs.2
  · cases hd

/-- The source a track is played from is its committed file, the active transfer's file or a
file the cache allocates for it: never `f`. -/
theorem materialize_apart (track : TrackId) (w : World) (hw : w.CacheApart f) :
    Holds (materialize track).run (fun r w' => (w'.CacheApart f ∧
      w'.volume.file? f = w.volume.file? f) ∧
      ∀ t src, r = .ok (t, src) → Path.same f src.path = false) w := by
  unfold materialize
  rw [holds_attempt_bind]
  refine (lookupTrack_found track w).mono ?_
  rintro r w₁ ⟨hw₁, ht⟩
  subst w₁
  cases r with
  | error e => exact ⟨⟨hw, rfl⟩, fun _ _ h => by cases h⟩
  | ok t =>
    have hts : t.spares f w.store.settings.baseDir = true :=
      Catalog.spares_of_lookup hw.1 (ht t rfl)
    dsimp only
    rw [holds_attempt_bind]
    refine ((Cache.committedPath_recorded t w).and
      ((keeps_iff _ _).mp (Cache.committedPath_reads t) w)).mono ?_
    rintro r w₂ ⟨hrec, hw₂⟩
    change w₂ = w at hw₂
    subst w₂
    cases r with
    | error e => exact ⟨⟨hw, rfl⟩, fun _ _ h => by cases h⟩
    | ok cached =>
      cases cached with
      | some path =>
        simp only [holds_attempt_bind, holds_liftM, holds_emitBuffer, holds_attempt_pure]
        refine ⟨⟨hw, trivial⟩, fun t' src h => ?_⟩
        cases h
        exact TrackInfo.cachedPath_apart hts (hrec path rfl)
      | none =>
        simp only [holds_attempt_bind, holds_attempt_get]
        split
        · -- the active transfer writes the song's file
          rename_i d hd
          have hd' : Downloads.activeRecord w.manager = some d := (Option.filter_eq_some_iff.mp hd).1
          simp only [holds_attempt_bind, holds_attempt_pure, holds_liftM, holds_emitBuffer]
          refine ⟨⟨hw, trivial⟩, fun t' src h => ?_⟩
          cases h
          exact activeRecord_apart hw.2 hd'
        · -- a fresh transfer writes the file the cache allocates
          rw [holds_attempt_bind]
          -- the allocation is named, so that matching it against its lemma does not unfold it
          have key := Cache.requestStorage_spares t w hw hts
          generalize (Cache.requestStorage t).run = x at key ⊢
          refine key.mono ?_
          intro r w₃ hr
          obtain ⟨⟨hc₃, hv₃⟩, hpath⟩ := hr
          cases r with
          | error e => exact ⟨⟨hc₃, hv₃⟩, fun _ _ h => by cases h⟩
          | ok path =>
            have hp : Path.same f path = false := hpath path rfl
            dsimp only
            rw [holds_attempt_bind]
            refine (partialLength_reads path).holds fun r w₄ hw₄ => ?_
            change w₄ = w₃ at hw₄
            subst w₄
            cases r with
            | error e => exact ⟨⟨hc₃, hv₃⟩, fun _ _ h => by cases h⟩
            | ok offset =>
              simp only [holds_attempt_bind, holds_attempt_discard, holds_liftM]
              refine (Downloads.start_spares (downloadRequest t path offset) hp w₃ hc₃).mono
                ?_
              rintro _ w₅ ⟨hc₅, hv₅⟩
              simp only [holds_attempt_pure, holds_emitBuffer]
              refine ⟨⟨hc₅, hv₅.trans hv₃⟩, fun t' src h => ?_⟩
              cases h
              exact hp

/-- A song is opened from a file other than `f`. -/
theorem openTrack_apart (track : TrackId) (w : World) (hw : w.CacheApart f) :
    Holds (openTrack track).run (fun r w' => (w'.CacheApart f ∧
      w'.volume.file? f = w.volume.file? f) ∧ ∀ s, r = .ok s → Path.same f s.path = false) w := by
  refine openTrack_holds ((materialize_apart track w hw).mono fun r w₁ h₁ =>
    ⟨fun _ _ => ⟨h₁.1, fun _ h => (by cases h)⟩, fun t src hr _ => ?_⟩)
  have hp : Path.same f src.path = false := h₁.2 t src hr
  exact ⟨⟨h₁.1, fun s hs => by cases hs; exact hp⟩, fun _ => ⟨h₁.1, fun _ h => (by cases h)⟩⟩

/-- Opening a song is guarded, and what it opens is not at `f`. -/
theorem openTrack_placed (track : TrackId) (w : World) (hw : Placed f w) :
    Holds (openTrack track).run (fun r w' => Placed f w' ∧ Kept f w w' ∧
      ∀ s, r = .ok s → Path.same f s.path = false) w := by
  refine ((openTrack_apart track w hw.cache).and (openTrack_spec track w)).mono
    fun r w₁ ⟨⟨⟨hc₁, hv₁⟩, hpath⟩, ha₁, _⟩ => ?_
  have hctl : w₁.controller = w.controller := World.controller_of_actor ha₁
  exact ⟨hw.of_controller hctl hc₁, Kept.of_controller hv₁ hctl, hpath⟩

theorem adoptSession_guarded (paused : Bool) (q : PlayQueue) (track : TrackId) {s : Session}
    (hs : Path.same f s.path = false) : Guarded f (adoptSession paused q track s) :=
  Guarded.bind (log_guarded _ _ _ _) fun _ =>
    Guarded.bind (modifyController_guarded (fun _ => ⟨rfl, rfl, rfl, rfl⟩)
      fun _ _ => by simp [hs]) fun _ =>
    setState_guarded _

theorem skipUnopenable_guarded (q : PlayQueue) (track : TrackId) (e : PlaybackError) :
    Guarded f (skipUnopenable q track e) := by
  unfold skipUnopenable
  refine Guarded.bind (log_guarded _ _ _ _) fun _ => ?_
  extract_lets next skip
  have hskip : ∀ u, Guarded f (skip u) := by
    intro u
    dsimp only [skip]
    split
    · exact Guarded.bind stop_guarded fun _ =>
        Guarded.bind (selectPosition_guarded _) fun _ => Guarded.pure _
    · exact Guarded.bind (selectPosition_guarded _) fun _ => Guarded.pure _
  clear_value skip
  split
  · exact Guarded.bind (emitDownload_guarded _) hskip
  · exact hskip ()

theorem loadFromSelected_guarded (paused : Bool) (fuel : Nat) :
    Guarded f (loadFromSelected paused fuel) := by
  induction fuel with
  | zero => exact Guarded.bind stop_guarded fun _ => Guarded.pure _
  | succ fuel ih =>
    unfold loadFromSelected
    refine Guarded.bind queue_guarded fun q => ?_
    split
    · exact Guarded.bind stop_guarded fun _ => Guarded.pure _
    · rename_i track _
      intro w hw
      rw [holds_bind]
      refine (openTrack_placed track w hw).mono fun r w₁ ⟨hp₁, hk₁, hpath⟩ => ?_
      -- what follows the opening, loaded or skipped, is guarded as well
      refine Guarded.holds_from ?_ hp₁ hk₁ fun _ w' hp hk => ⟨hp, hk⟩
      cases r with
      | ok s =>
        exact Guarded.bind (adoptSession_guarded paused q track (hpath s rfl)) fun _ =>
          Guarded.pure _
      | error e =>
        refine Guarded.bind (skipUnopenable_guarded q track e) fun more => ?_
        split
        · exact ih
        · exact Guarded.pure _

theorem startPlayback_guarded (paused : Bool) : Guarded f (startPlayback paused) :=
  Guarded.bind teardown_guarded fun _ => Guarded.bind queue_guarded fun _ =>
    loadFromSelected_guarded paused _

/-- Prefetching allocates and fetches files the cache owns: never `f`. -/
theorem prefetchTrack_spares (track : TrackId) : Spares f (prefetchTrack track).run := by
  intro w hw
  unfold prefetchTrack
  rw [holds_attempt_bind]
  refine (lookupTrack_found track w).mono ?_
  rintro r w₁ ⟨hw₁, ht⟩
  subst w₁
  cases r with
  | error e => exact ⟨hw, rfl⟩
  | ok t =>
    have hts : t.spares f w.store.settings.baseDir = true :=
      Catalog.spares_of_lookup hw.1 (ht t rfl)
    dsimp only
    rw [holds_attempt_bind]
    refine (Cache.committedPath_reads t).holds fun r w₂ hw₂ => ?_
    change w₂ = w at hw₂
    subst w₂
    cases r with
    | error e => exact ⟨hw, rfl⟩
    | ok cached =>
      dsimp only
      split
      · exact ⟨hw, rfl⟩
      · rw [holds_attempt_bind]
        have key := Cache.requestStorage_spares t w hw hts
        generalize (Cache.requestStorage t).run = x at key ⊢
        refine key.mono ?_
        rintro r w₃ ⟨⟨hc₃, hv₃⟩, hpath⟩
        cases r with
        | error e => exact ⟨hc₃, hv₃⟩
        | ok path =>
          have hp : Path.same f path = false := hpath path rfl
          dsimp only
          rw [holds_attempt_bind]
          refine (partialLength_reads path).holds fun r w₄ hw₄ => ?_
          change w₄ = w₃ at hw₄
          subst w₄
          cases r with
          | error e => exact ⟨hc₃, hv₃⟩
          | ok offset =>
            simp only [holds_attempt_discard, holds_liftM]
            exact (Downloads.start_spares (downloadRequest t path offset) hp w₃ hc₃).mono
              fun _ _ h₅ => ⟨h₅.1, h₅.2.trans hv₃⟩

theorem prefetch_guarded : Guarded f prefetch :=
  Guarded.of_spares (fun w hw => by
    unfold prefetch
    simp only [holds_bind, holds_controller, holds_get]
    split
    · exact ⟨hw, rfl⟩
    · split
      · exact prefetchTrack_spares _ w hw
      · exact ⟨hw, rfl⟩) prefetch_keeps

end Loading

section Commands

variable {f : String}

theorem tell_guarded : Guarded f tell := Guarded.of_keeps (tell_keeps.of_id _)

theorem emitPlay_guarded : Guarded f emitPlay := by
  unfold emitPlay
  refine Guarded.bind queue_guarded fun q => ?_
  split
  · exact emitMove_guarded _
  · exact Guarded.pure _

theorem seek_guarded (ms : Nat) : Guarded f (seek ms) := by
  unfold seek
  refine Guarded.bind controller_guarded fun c => ?_
  split
  · exact Guarded.pure _
  · refine Guarded.bind (decoderCall_guarded _) fun r => ?_
    split
    · exact emitMove_guarded _
    · exact log_guarded _ _ _ _

theorem jump_guarded (p : Int) : Guarded f (jump p) := by
  unfold jump
  refine Guarded.inSpan ?_ _
  refine Guarded.bind queue_guarded fun q => ?_
  split
  · exact Guarded.pure _
  split
  · refine Guarded.bind controller_guarded fun c => ?_
    extract_lets unselect
    have hunselect : ∀ u, Guarded f (unselect u) := fun _ =>
      Guarded.bind (selectPosition_guarded _) fun _ => Guarded.pure _
    clear_value unselect
    split
    · exact Guarded.bind stop_guarded hunselect
    · exact hunselect ()
  · refine Guarded.bind (selectPosition_guarded _) fun _ => Guarded.bind queue_guarded fun q' => ?_
    -- the prefetch that ends the load is named first, then the load itself
    extract_lets after load
    have hafter : ∀ u, Guarded f (after u) := fun _ => prefetch_guarded
    clear_value after
    have hload : ∀ u, Guarded f (load u) := by
      intro u
      dsimp only [load]
      refine Guarded.bind controller_guarded fun c => ?_
      refine Guarded.bind (startPlayback_guarded _) fun loaded => ?_
      split
      · exact Guarded.bind (emitMove_guarded _) hafter
      · exact hafter ()
    clear_value load
    split
    · exact Guarded.bind (emitMove_guarded _) hload
    · exact hload ()

theorem next_guarded : Guarded f next := by
  unfold next
  refine Guarded.bind queue_guarded fun q => ?_
  extract_lets n
  split
  · exact jump_guarded _
  · exact Guarded.bind stop_guarded fun _ => selectPosition_guarded _

theorem skipCurrent_guarded : Guarded f skipCurrent := by
  unfold skipCurrent
  refine Guarded.bind controller_guarded fun c => ?_
  extract_lets after
  have hafter : ∀ u, Guarded f (after u) := fun _ => next_guarded
  clear_value after
  split
  · refine Guarded.bind dropSession_guarded fun _ => ?_
    refine Guarded.bind (decoderCall_guarded _) fun r => ?_
    split
    · exact hafter ()
    · exact Guarded.bind (log_guarded _ _ _ _) hafter
  · exact hafter ()

theorem unpause_guarded : Guarded f unpause := by
  unfold unpause
  refine Guarded.bind controller_guarded fun c => ?_
  split
  · exact Guarded.pure _
  extract_lets resumed
  have hresumed : ∀ u, Guarded f (resumed u) := fun _ =>
    Guarded.bind clearOffset_guarded fun _ => emitMove_guarded _
  clear_value resumed
  split
  · refine Guarded.bind (decoderCall_guarded _) fun r => ?_
    split
    · exact Guarded.bind (log_guarded _ _ _ _) fun _ =>
        Guarded.bind skipCurrent_guarded fun _ => Guarded.pure _
    · exact Guarded.bind (setState_guarded _) hresumed
  · exact Guarded.bind (setState_guarded _) hresumed
  · refine Guarded.bind (startPlayback_guarded _) fun loaded => ?_
    split
    · exact Guarded.pure _
    · exact hresumed ()

theorem play_guarded : Guarded f play := by
  unfold play
  refine Guarded.bind controller_guarded fun c => ?_
  split
  · exact unpause_guarded
  · exact Guarded.pure _
  · exact Guarded.pure _
  · refine Guarded.bind queue_guarded fun q => ?_
    extract_lets start
    have hstart : ∀ u, Guarded f (start u) := by
      intro u
      dsimp only [start]
      refine Guarded.bind (startPlayback_guarded _) fun loaded => ?_
      split
      · exact emitPlay_guarded
      · exact Guarded.pure _
    clear_value start
    split
    · split
      · exact Guarded.pure _
      · exact Guarded.bind (selectPosition_guarded _) hstart
    · exact hstart ()

theorem pause_guarded : Guarded f pause := by
  unfold pause
  refine Guarded.bind controller_guarded fun c => ?_
  split
  · refine Guarded.bind (decoderCall_guarded _) fun r => ?_
    extract_lets paused
    have hpaused : ∀ u, Guarded f (paused u) := fun _ =>
      Guarded.bind tell_guarded fun _ =>
        Guarded.bind (setState_guarded _) fun _ => emitMove_guarded _
    clear_value paused
    split
    · exact Guarded.bind (log_guarded _ _ _ _) hpaused
    · exact hpaused ()
  · exact Guarded.bind (setState_guarded _) fun _ => emitMove_guarded _
  · exact Guarded.pure _
  · exact Guarded.pure _

theorem previous_guarded : Guarded f previous := by
  unfold previous
  refine Guarded.bind queue_guarded fun q => ?_
  split
  · exact Guarded.bind stop_guarded fun _ =>
      Guarded.bind (selectPosition_guarded _) fun _ => Guarded.pure _
  · refine Guarded.bind controller_guarded fun c => ?_
    extract_lets target back
    have hback : ∀ u, Guarded f (back u) := fun _ => jump_guarded _
    clear_value back
    split
    · refine Guarded.bind tell_guarded fun t => ?_
      extract_lets elapsed
      split
      · split
        · exact Guarded.bind (seek_guarded _) fun _ => Guarded.pure _
        · exact Guarded.pure _
      · exact hback ()
    · exact hback ()

/-- Inserting marks the new queue, which selects what the old one did. -/
theorem insert_guarded (track : TrackId) (p : Int) : Guarded f (insert track p) := by
  unfold insert
  refine Guarded.bind_queue fun q hq => ?_
  split
  · exact Guarded.pure _
  · rename_i q' hins
    refine Guarded.bind (setQueue_guarded (hq.insert hins)) fun _ => ?_
    refine Guarded.bind (emitChange_guarded _) fun _ => Guarded.bind controller_guarded fun c => ?_
    split
    · exact Guarded.bind (selectPosition_guarded _) fun _ => play_guarded
    · split
      · exact prefetch_guarded
      · exact Guarded.pure _

theorem remove_guarded (p : Int) : Guarded f (remove p) := by
  unfold remove
  refine Guarded.bind queue_guarded fun q => ?_
  split
  · exact Guarded.pure _
  · refine Guarded.bind controller_guarded fun c => ?_
    extract_lets drop
    have hdrop : ∀ u, Guarded f (drop u) := by
      intro u
      dsimp only [drop]
      refine Guarded.bind_queue fun q' hq' => ?_
      split
      · rename_i q'' hrem
        exact Guarded.bind (setQueue_guarded (hq'.remove hrem)) fun _ => emitChange_guarded _
      · exact Guarded.pure _
    clear_value drop
    split
    · exact Guarded.bind stop_guarded hdrop
    · exact hdrop ()

theorem moveSong_guarded (src dst : Int) : Guarded f (moveSong src dst) := by
  unfold moveSong
  refine Guarded.bind_queue fun q hq => ?_
  split
  · exact Guarded.pure _
  · rename_i q' hmove
    refine Guarded.bind (setQueue_guarded (hq.move hmove)) fun _ => ?_
    refine Guarded.bind (emitChange_guarded _) fun _ => ?_
    split
    · exact prefetch_guarded
    · exact Guarded.pure _

theorem clear_guarded : Guarded f clear := by
  unfold clear
  refine Guarded.bind stop_guarded fun _ => Guarded.bind queue_guarded fun q => ?_
  exact Guarded.bind (setQueue_guarded q.selects_clear) fun _ => emitChange_guarded _

/-- Every command marks what it changes and spares the state file. -/
theorem apply_guarded (c : Command) : Guarded f (apply c) := by
  cases c with
  | play => exact play_guarded
  | pause => exact pause_guarded
  | unpause => exact unpause_guarded
  | stop => exact stop_guarded
  | seek ms => exact seek_guarded ms
  | next => exact next_guarded
  | previous => exact previous_guarded
  | jump p => exact jump_guarded p
  | insert t p => exact insert_guarded t p
  | prepend t => exact insert_guarded t 0
  | append t => exact Guarded.bind queue_guarded fun _ => insert_guarded t _
  | insertNext t => exact Guarded.bind queue_guarded fun _ => insert_guarded t _
  | remove p => exact remove_guarded p
  | move src dst => exact moveSong_guarded src dst
  | clear => exact clear_guarded

end Commands

section Handlers

variable {f : String}

theorem Placed.session_apart {w : World} (hw : Placed f w) {s : Session}
    (hs : w.controller.session = some s) : Path.same f s.path = false := by
  have h := hw.session
  rw [hs] at h
  simpa using h

theorem releaseQuietly_guarded (track : TrackId) (key : CacheKey) {path : String}
    (hp : Path.same f path = false) : Guarded f (releaseQuietly track key path) := by
  refine Guarded.of_spares ?_ (releaseQuietly_keeps track key path).actor_of_engine
  unfold releaseQuietly
  refine Spares.bind (Cache.releaseStorage_spares key hp) fun r => ?_
  split
  · exact Spares.pure _
  · exact Spares.log _ _ _ _

theorem releaseSuperseded_guarded (track : TrackId) : Guarded f (releaseSuperseded track) := by
  unfold releaseSuperseded
  refine Guarded.bind_get fun w hw => ?_
  split
  · exact Guarded.pure _
  · rename_i req hreq
    extract_lets written played
    split
    · exact Guarded.pure _
    · exact releaseQuietly_guarded track req.key (Manager.requestFor_apart hw.cache.2 hreq)

/-- The storage a failed download releases is the loaded song's or the transfer's, and neither
is at `f`. -/
theorem releaseFailed_guarded (track : TrackId) : Guarded f (releaseFailed track) := by
  unfold releaseFailed
  refine Guarded.bind_get fun w hw => ?_
  extract_lets target
  have htarget : ∀ k p, target = some (k, p) → Path.same f p = false := by
    intro k p h
    dsimp only [target] at h
    split at h
    · rename_i s hs
      obtain ⟨-, rfl⟩ := Prod.mk.inj (Option.some.inj h)
      exact hw.session_apart (Option.filter_eq_some_iff.mp hs).1
    · obtain ⟨req, hreq, heq⟩ := Option.map_eq_some_iff.mp h
      obtain ⟨-, rfl⟩ := Prod.mk.inj heq
      exact Manager.requestFor_apart hw.cache.2 hreq
  clear_value target
  split
  · exact releaseQuietly_guarded track _ (htarget _ _ rfl)
  · exact Guarded.pure _

theorem onCallState_guarded (s : CallState) : Guarded f (onCallState s) := by
  unfold onCallState
  refine Guarded.bind controller_guarded fun c => ?_
  have hcall : ∀ b : Bool,
      Guarded f (modifyController fun c => { c with resumeAfterCall := b }) := fun _ =>
    modifyController_guarded (fun _ => ⟨rfl, rfl, rfl, rfl⟩) fun _ => id
  split
  · split
    · exact Guarded.bind (log_guarded _ _ _ _) fun _ =>
        Guarded.bind pause_guarded fun _ => hcall true
    · exact Guarded.pure _
  · split
    · exact Guarded.bind (log_guarded _ _ _ _) fun _ =>
        Guarded.bind (hcall false) fun _ => unpause_guarded
    · exact Guarded.pure _

/-- A decoder callback marks each change of the play state, and its note that the session is
prepared keeps the session's file. -/
theorem onDecoderEvent_guarded (e : DecoderEvent) : Guarded f (onDecoderEvent e) := by
  unfold onDecoderEvent
  refine Guarded.bind_controller fun c _ hsession => ?_
  split
  · exact Guarded.pure _
  rename_i s hs
  have hapart : Path.same f s.path = false := by
    rw [hs] at hsession
    simpa using hsession
  split
  · exact Guarded.pure _
  -- the skip that ends a decode error is named with the track
  extract_lets track skip
  have hskip : ∀ u, Guarded f (skip u) := fun _ => skipCurrent_guarded
  clear_value skip
  split
  · refine Guarded.bind (modifyController_guarded (fun _ => ⟨rfl, rfl, rfl, rfl⟩)
      fun _ _ => by simpa using hapart) fun _ => ?_
    split
    · refine Guarded.bind (decoderCall_guarded _) fun r => ?_
      split
      · exact Guarded.bind (log_guarded _ _ _ _) fun _ => skipCurrent_guarded
      · exact setState_guarded _
    · exact Guarded.pure _
  · exact Guarded.bind (log_guarded _ _ _ _) fun _ => skipCurrent_guarded
  · refine Guarded.bind (log_guarded _ _ _ _) fun _ => ?_
    refine Guarded.bind get_guarded fun w => ?_
    split
    · split
      · exact Guarded.bind (emitDownload_guarded _) hskip
      · exact hskip ()
    · exact hskip ()
  · exact emitBuffer_guarded _ _

theorem onDownloadEvent_guarded (e : DownloadEvent) : Guarded f (onDownloadEvent e) := by
  unfold onDownloadEvent
  refine Guarded.bind (emitDownload_guarded e) fun _ => Guarded.bind controller_guarded fun c => ?_
  extract_lets current fetch
  have hfetch : ∀ u, Guarded f (fetch u) := fun _ => prefetch_guarded
  clear_value fetch
  split
  · split
    · exact emitBuffer_guarded _ _
    · exact Guarded.pure _
  · split
    · exact Guarded.bind (emitBuffer_guarded _ _) hfetch
    · exact hfetch ()
  · refine Guarded.bind (releaseFailed_guarded _) fun _ => ?_
    split
    · exact Guarded.bind (log_guarded _ _ _ _) fun _ => skipCurrent_guarded
    · exact Guarded.pure _
  · exact releaseSuperseded_guarded _
  · exact Guarded.pure _

theorem answer_guarded (q : Query) : Guarded f (answer q) :=
  Guarded.of_keeps ((answer_keeps q).of_id _)

theorem onSignal_guarded (s : Signal) : Guarded f (onSignal s) := by
  cases s with
  | call s => exact onCallState_guarded s
  | connectivityRestored =>
    exact Guarded.discard (Guarded.of_spares Downloads.resume_spares Downloads.resume_keeps)

/-- A transfer spares the state file when its destination does. -/
theorem runTask_guarded {t : TransferTask} (ht : Path.same f t.request.destination = false) :
    Guarded f (Downloads.runTask t) :=
  Guarded.of_spares (Downloads.runTask_spares ht) (Downloads.runTask_keeps t)

end Handlers

end Player

end PlaybackEngine
