import PlaybackEngine.Proofs.Worker
import PlaybackEngine.Script.Host

set_option autoImplicit false

/-!
# What the download manager keeps true

Between any two of its steps the manager is `Sound`: one record per track, in key order; every
record is keyed by its request's track and numbered below the next transfer, no two records
share a transfer; an active record belongs to the transfer holding the active slot, and the slot
holds an active record; every task is the active transfer's and runs its record's request.

Each call and each task run is described once by what it does to the manager and to the notices
(`AllStopped`, `Started`, `PausedDropped`, `TaskRun`), and `Sound` is carried through each.
-/

namespace PlaybackEngine.Downloads

open World

@[simp] theorem prune_active (m : Manager) : (prune m).active = m.active := by
  simp only [prune]
  split <;> rfl

@[simp] theorem prune_tasks (m : Manager) : (prune m).tasks = m.tasks := by
  simp only [prune]
  split <;> rfl

@[simp] theorem prune_nextTransfer (m : Manager) : (prune m).nextTransfer = m.nextTransfer := by
  simp only [prune]
  split <;> rfl

@[simp] theorem prune_settings (m : Manager) : (prune m).settings = m.settings := by
  simp only [prune]
  split <;> rfl

theorem ordered_prune {m : Manager} (h : m.records.Ordered) : (prune m).records.Ordered := by
  simp only [Downloads.prune]
  split
  · exact h
  · exact h.filter _

/-- Pruning drops settled records only. -/
theorem get?_prune {m : Manager} (hm : m.records.Ordered) (k : TrackId) :
    (prune m).records.get? k = m.records.get? k ∨
      (prune m).records.get? k = none ∧ ∃ d, m.records.get? k = some d ∧ isSettled d := by
  unfold prune
  extract_lets settled ordered gone
  split
  · exact Or.inl rfl
  · dsimp only
    rw [Table.get?_filter_key _ _ (fun track => !gone.contains track) (fun ⟨_, _⟩ => rfl)]
    by_cases hk : gone.contains k
    · refine Or.inr ⟨by simp only [hk, Bool.not_true, Bool.false_eq_true, if_false], ?_⟩
      -- a track is gone only if one of its entries was settled
      obtain ⟨x, hx, hxk⟩ := List.mem_map.mp (List.contains_iff_mem.mp hk)
      have hs : x ∈ settled := List.mem_mergeSort.mp (List.mem_of_mem_take hx)
      obtain ⟨⟨k', t⟩, he, hex⟩ := List.mem_map.mp hs
      obtain ⟨hmem, hset⟩ := List.mem_filter.mp he
      have hk' : k' = k := by
        rw [← hxk, ← hex]
      subst hk'
      exact ⟨t, hm.get?_of_mem hmem, hset⟩
    · rw [Bool.not_eq_true] at hk
      exact Or.inl (by simp only [hk, Bool.not_false, if_true])

@[simp] theorem releaseSlot_records (m : Manager) (n : Nat) :
    (releaseSlot m n).records = m.records := by
  unfold releaseSlot
  split
  · split <;> rfl
  · rfl

@[simp] theorem releaseSlot_tasks (m : Manager) (n : Nat) : (releaseSlot m n).tasks = m.tasks := by
  unfold releaseSlot
  split
  · split <;> rfl
  · rfl

@[simp] theorem releaseSlot_nextTransfer (m : Manager) (n : Nat) :
    (releaseSlot m n).nextTransfer = m.nextTransfer := by
  unfold releaseSlot
  split
  · split <;> rfl
  · rfl

theorem releaseSlot_active_of_eq {m : Manager} {k : TrackId} {n : Nat}
    (h : m.active = some (k, n)) : (releaseSlot m n).active = none := by
  unfold releaseSlot
  rw [h]
  simp

/-- Records in key order, each keyed by its request's track and numbered below `next`, no two
under one transfer. -/
structure Owners (r : Table Tracked) (next : Nat) : Prop where
  ordered : r.Ordered
  keyed : ∀ k d, r.get? k = some d → d.request.track = k
  numbered : ∀ k d, r.get? k = some d → d.transfer < next
  distinct : ∀ k₁ k₂ d₁ d₂, r.get? k₁ = some d₁ → r.get? k₂ = some d₂ →
    d₁.transfer = d₂.transfer → k₁ = k₂

/-- The manager between two of its steps. -/
structure Sound (m : Manager) : Prop where
  owners : Owners m.records m.nextTransfer
  single : ∀ k d, m.records.get? k = some d → d.record.state.isActive →
    m.active = some (k, d.transfer)
  slot : ∀ k n, m.active = some (k, n) →
    ∃ d, m.records.get? k = some d ∧ d.transfer = n ∧ d.record.state.isActive
  tasks : ∀ u ∈ m.tasks, m.active = some (u.request.track, u.transfer) ∧
    ∃ d, m.records.get? u.request.track = some d ∧ d.transfer = u.transfer ∧ d.request = u.request

theorem Sound.tasks_of_idle {m : Manager} (hs : Sound m) (h : m.active = none) : m.tasks = [] := by
  cases ht : m.tasks with
  | nil => rfl
  | cons u rest =>
    have := (hs.tasks u (by simp [ht])).1
    rw [h] at this
    cases this

theorem Sound.inactive_of_idle {m : Manager} (hs : Sound m) (h : m.active = none) {k : TrackId}
    {d : Tracked} (hd : m.records.get? k = some d) : d.record.state.isActive = false := by
  cases ha : d.record.state.isActive
  · rfl
  · have := hs.single k d hd ha
    rw [h] at this
    cases this

/-- Aborting drops every task: they all belong to the transfer holding the slot. -/
theorem Sound.filter_tasks {m : Manager} (hs : Sound m) {k : TrackId} {n : Nat}
    (h : m.active = some (k, n)) : m.tasks.filter (·.transfer != n) = [] := by
  rw [List.filter_eq_nil_iff]
  intro u hu
  have hu' := (hs.tasks u hu).1
  rw [h] at hu'
  cases hu'
  simp

/-- Every record of `r'` is kept under the transfer and the request its track's record had in
`r`: records changed in their state only, or dropped. -/
def Narrows (r r' : Table Tracked) : Prop :=
  ∀ k d', r'.get? k = some d' →
    ∃ d, r.get? k = some d ∧ d.transfer = d'.transfer ∧ d.request = d'.request

theorem Narrows.refl (r : Table Tracked) : Narrows r r := fun _ d hd => ⟨d, hd, rfl, rfl⟩

theorem Narrows.trans {r₁ r₂ r₃ : Table Tracked} (h₁ : Narrows r₁ r₂) (h₂ : Narrows r₂ r₃) :
    Narrows r₁ r₃ := by
  intro k d₃ hd₃
  obtain ⟨d₂, hd₂, ht₂, hr₂⟩ := h₂ k d₃ hd₃
  obtain ⟨d₁, hd₁, ht₁, hr₁⟩ := h₁ k d₂ hd₂
  exact ⟨d₁, hd₁, ht₁.trans ht₂, hr₁.trans hr₂⟩

theorem Narrows.insert {r : Table Tracked} {k : TrackId} {d : Tracked} (hd : r.get? k = some d)
    (x : Download) : Narrows r (r.insert k { d with record := x }) := by
  intro k' d' hd'
  rw [Table.get?_insert] at hd'
  by_cases hk : k = k'
  · subst hk
    simp only [if_true, Option.some.injEq] at hd'
    subst hd'
    exact ⟨d, hd, rfl, rfl⟩
  · rw [if_neg hk] at hd'
    exact ⟨d', hd', rfl, rfl⟩

theorem Narrows.prune {m : Manager} (hm : m.records.Ordered) :
    Narrows m.records (prune m).records := by
  intro k d' hd'
  rcases get?_prune hm k with e | ⟨e, _⟩
  · exact ⟨d', e ▸ hd', rfl, rfl⟩
  · rw [e] at hd'
    cases hd'

theorem Moved.narrows {n : Nat} {track : TrackId} {m m' : Manager} (h : Moved n track m m') :
    Narrows m.records m'.records := by
  intro k d' hd'
  rcases h.records k with e | ⟨_, d, r, hd, _, _, _, _, h'⟩
  · exact ⟨d', e ▸ hd', rfl, rfl⟩
  · rw [h'] at hd'
    cases hd'
    exact ⟨d, hd, rfl, rfl⟩

theorem Owners.narrow {r r' : Table Tracked} {next next' : Nat} (h : Owners r next)
    (hn : Narrows r r') (ho : r'.Ordered) (hle : next ≤ next') : Owners r' next' where
  ordered := ho
  keyed k d hd := by
    obtain ⟨d₀, hd₀, _, hr⟩ := hn k d hd
    exact hr ▸ h.keyed k d₀ hd₀
  numbered k d hd := by
    obtain ⟨d₀, hd₀, ht, _⟩ := hn k d hd
    have := h.numbered k d₀ hd₀
    omega
  distinct k₁ k₂ d₁ d₂ hd₁ hd₂ ht := by
    obtain ⟨e₁, he₁, ht₁, _⟩ := hn k₁ d₁ hd₁
    obtain ⟨e₂, he₂, ht₂, _⟩ := hn k₂ d₂ hd₂
    exact h.distinct k₁ k₂ e₁ e₂ he₁ he₂ (by rw [ht₁, ht₂, ht])

/-- A new transfer, numbered `n`, may take over its track's record. -/
theorem Owners.insert_new {r : Table Tracked} {n : Nat} (h : Owners r n) (req : DownloadRequest)
    (x : Download) : Owners (r.insert req.track ⟨n, x, req⟩) (n + 1) where
  ordered := h.ordered.insert _ _
  keyed k d hd := by
    rw [Table.get?_insert] at hd
    split at hd
    · cases hd
      assumption
    · exact h.keyed k d hd
  numbered k d hd := by
    rw [Table.get?_insert] at hd
    split at hd
    · cases hd
      exact Nat.lt_succ_self n
    · exact Nat.lt_succ_of_lt (h.numbered k d hd)
  distinct k₁ k₂ d₁ d₂ hd₁ hd₂ ht := by
    rw [Table.get?_insert] at hd₁ hd₂
    split at hd₁ <;> split at hd₂
    · rename_i h₁ h₂
      exact h₁.symm.trans h₂
    · cases hd₁
      have := h.numbered k₂ d₂ hd₂
      dsimp only at ht
      omega
    · cases hd₂
      have := h.numbered k₁ d₁ hd₁
      dsimp only at ht
      omega
    · exact h.distinct k₁ k₂ d₁ d₂ hd₁ hd₂ ht

/-- The record an abort or a dropped pause leaves. -/
def markAborted (d : Tracked) : Tracked := { d with record := { d.record with state := .aborted } }

theorem abort_spec {k : TrackId} {n : Nat} {w : World} {d : Tracked}
    (hd : w.manager.records.get? k = some d) (hn : d.transfer = n)
    (ha : d.record.state.isActive) :
    Holds (abort k n) (fun _ w' =>
      w'.manager = { w.manager with
        tasks := w.manager.tasks.filter (·.transfer != n),
        records := w.manager.records.insert k (markAborted d) } ∧
      w'.notices = w.notices.push (.cancel k)) w := by
  have hna : d.record.state ≠ .aborted := fun h => by
    rw [h] at ha
    cases ha
  have ho : owned? w.manager k n = some d := owned?_eq_some.mpr ⟨hd, hn, hna⟩
  simp only [abort, holds_bind, holds_get, ho, ha, if_true, holds_discard]
  refine Holds.mono (update_owned hd hn hna) ?_
  rintro _ w₁ ⟨_, hw₁⟩
  subst hw₁
  simp only [holds_pure, holds_modify, if_true, holds_bind, holds_log, holds_notify]
  exact ⟨rfl, trivial⟩

/-- What stopping the active transfer does to the manager and its notices: nothing when none is
active; else it frees the slot, marks the active record aborted, drops the tasks and announces
the cancel. -/
inductive AllStopped (m : Manager) (q : Notices) : Manager → Notices → Prop
  | idle (ha : m.active = none) : AllStopped m q m q
  | aborted (k : TrackId) (d : Tracked) (ha : m.active = some (k, d.transfer))
      (hd : m.records.get? k = some d) (hda : d.record.state.isActive) :
      AllStopped m q
        { m with active := none, tasks := [], records := m.records.insert k (markAborted d) }
        (q.push (.cancel k))

/-- Aborting the active transfer of `w₀` from a world where its slot is freed stops it. -/
theorem abort_stops {k : TrackId} {n : Nat} {w₀ w : World} (hs : Sound w₀.manager)
    (ha : w₀.manager.active = some (k, n)) (hm : w.manager = { w₀.manager with active := none })
    (hq : w.notices = w₀.notices) :
    Holds (abort k n) (fun _ w' => AllStopped w₀.manager w₀.notices w'.manager w'.notices) w := by
  obtain ⟨d, hd, hn, hda⟩ := hs.slot k n ha
  refine Holds.mono (abort_spec (hm ▸ hd) hn hda) ?_
  rintro _ w' ⟨hm', hn'⟩
  subst hn
  rw [hm', hn', hm, hq]
  dsimp only
  rw [hs.filter_tasks ha]
  exact AllStopped.aborted k d ha hd hda

theorem stopAll_spec (w : World) (hs : Sound w.manager) :
    Holds stopAll (fun _ w' => AllStopped w.manager w.notices w'.manager w'.notices) w := by
  simp only [stopAll, holds_bind, holds_get]
  split
  · rename_i k n ha
    simp only [holds_bind, holds_set]
    exact abort_stops hs ha rfl rfl
  · rename_i ha
    exact AllStopped.idle ha

theorem AllStopped.settled {m m' : Manager} {q q' : Notices} (hs : Sound m)
    (h : AllStopped m q m' q') :
    m'.active = none ∧ m'.tasks = [] ∧ m'.nextTransfer = m.nextTransfer := by
  cases h with
  | idle ha => exact ⟨ha, hs.tasks_of_idle ha, rfl⟩
  | aborted => exact ⟨rfl, rfl, rfl⟩

/-- The record a download starts with. -/
def startRecord (req : DownloadRequest) : Download :=
  { track := req.track, url := req.url, destination := req.destination,
    expectedLength := req.expectedLength, bytesWritten := req.resumeOffset,
    resumeOffset := req.resumeOffset, state := .connecting, lastError := none }

/-- The manager `m` with transfer `n` of `req` recorded as its track's record. -/
def recorded (req : DownloadRequest) (n : Nat) (m : Manager) : Manager :=
  { m with nextTransfer := n + 1, records := m.records.insert req.track ⟨n, startRecord req, req⟩ }

/-- The manager once a download of `req` got transfer `n`, from the manager `m` left by stopping
the active transfer: the new record replaces the track's, settled records are pruned, and the new
transfer holds the slot and the only task. -/
def startedManager (req : DownloadRequest) (n : Nat) (m : Manager) : Manager :=
  { prune (recorded req n m) with tasks := [⟨n, req, .waiting⟩], active := some (req.track, n) }

/-- What starting a download does to the manager and its notices: it stops the active transfer,
then records, announces and runs the new one. -/
def Started (req : DownloadRequest) (m : Manager) (q : Notices) (m' : Manager) (q' : Notices) :
    Prop :=
  ∃ m₁ q₁, AllStopped m q m₁ q₁ ∧ m' = startedManager req m.nextTransfer m₁ ∧
    q' = q₁.push (.begin req.track req.expectedLength)

theorem start_spec (req : DownloadRequest) (w : World) (hs : Sound w.manager) :
    Holds (start req) (fun n w' => n = w.manager.nextTransfer ∧
      Started req w.manager w.notices w'.manager w'.notices) w := by
  simp only [start, holds_inSpan, holds_bind]
  refine Holds.mono (stopAll_spec { w with spans := "start_download" :: w.spans } hs)
    fun _ w₁ h₁ => ?_
  obtain ⟨_, htasks, hnext⟩ := h₁.settled hs
  simp only [holds_get, holds_set, holds_notify, holds_modify, holds_log, holds_pure]
  refine ⟨hnext, w₁.manager, w₁.notices, h₁, ?_, rfl⟩
  simp only [hnext, startedManager, recorded, startRecord, prune_tasks, htasks, List.nil_append]

/-- What dropping a track's paused record does to the manager and its notices: nothing unless
the record is paused; else it marks it aborted and announces the cancel. -/
inductive PausedDropped (track : TrackId) (m : Manager) (q : Notices) : Manager → Notices → Prop
  | idle (hp : ∀ d, m.records.get? track = some d → d.record.state.isPaused = false) :
      PausedDropped track m q m q
  | dropped (d : Tracked) (hd : m.records.get? track = some d) (hp : d.record.state.isPaused) :
      PausedDropped track m q { m with records := m.records.insert track (markAborted d) }
        (q.push (.cancel track))

theorem abortPaused_spec (track : TrackId) (w : World) :
    Holds (abortPaused track)
      (fun _ w' => PausedDropped track w.manager w.notices w'.manager w'.notices) w := by
  simp only [abortPaused, holds_bind, holds_get]
  split
  · rename_i d hd
    split
    · rename_i hp
      simp only [holds_bind, holds_set, holds_notify]
      exact PausedDropped.dropped d hd hp
    · rename_i hp
      refine PausedDropped.idle fun d' hd' => ?_
      rw [hd] at hd'
      cases hd'
      simpa using hp
  · rename_i hd
    exact PausedDropped.idle fun d' hd' => by
      rw [hd] at hd'
      cases hd'

/-- Stopping a track's download stops the active transfer if it is the track's, and otherwise
drops the track's paused record. -/
theorem stop_spec (track : TrackId) (w : World) (hs : Sound w.manager) :
    Holds (stop track) (fun _ w' =>
      (∃ n, w.manager.active = some (track, n)) ∧
        AllStopped w.manager w.notices w'.manager w'.notices ∨
      (∀ n, w.manager.active ≠ some (track, n)) ∧
        PausedDropped track w.manager w.notices w'.manager w'.notices) w := by
  simp only [stop, holds_inSpan, holds_bind, holds_get]
  split
  · rename_i k n ha
    split
    · rename_i hk
      subst hk
      simp only [holds_bind, holds_set]
      exact Holds.mono (abort_stops hs ha rfl rfl) fun _ _ h => Or.inl ⟨⟨_, ha⟩, h⟩
    · rename_i hk
      refine Holds.mono (abortPaused_spec track _) fun _ w' h => Or.inr ⟨?_, h⟩
      intro n' h'
      rw [ha] at h'
      cases h'
      exact hk rfl
  · rename_i ha
    refine Holds.mono (abortPaused_spec track _) fun _ w' h => Or.inr ⟨?_, h⟩
    intro n' h'
    rw [ha] at h'
    cases h'

/-- The record `latestPaused` picks is a paused record of the table. -/
theorem latestPaused_mem {m : Manager} {t : Tracked} (h : latestPaused m = some t) :
    (∃ k, (k, t) ∈ m.records) ∧ t.record.state.isPaused := by
  unfold latestPaused at h
  -- the best record so far is always a paused entry of the table, for any step that keeps
  -- its best record or takes a paused one
  have step : ∀ (F : Option Tracked → TrackId × Tracked → Option Tracked),
      (∀ best x b, F best x = some b → best = some b ∨ (x.2 = b ∧ b.record.state.isPaused)) →
      ∀ (l : Table Tracked) (best : Option Tracked), (∀ e ∈ l, e ∈ m.records) →
      (∀ b, best = some b → (∃ k, (k, b) ∈ m.records) ∧ b.record.state.isPaused) →
      ∀ b, l.foldl F best = some b → (∃ k, (k, b) ∈ m.records) ∧ b.record.state.isPaused := by
    intro F hF l
    induction l with
    | nil => exact fun best _ hb b h => hb b h
    | cons e rest ih =>
      intro best hl hb
      refine ih _ (fun e' he' => hl e' (List.mem_cons_of_mem _ he')) ?_
      intro b hb'
      rcases hF best e b hb' with hkept | ⟨rfl, hp⟩
      · exact hb b hkept
      · exact ⟨⟨e.1, hl e List.mem_cons_self⟩, hp⟩
  refine step _ ?_ m.records none (fun _ h => h) (fun _ h => by cases h) t h
  -- the search's step: a record that is not paused is passed over
  intro best x b hb
  obtain ⟨k, e⟩ := x
  by_cases hp : e.record.state.isPaused
  · simp only [hp, Bool.not_true, Bool.false_eq_true, if_false] at hb
    split at hb
    · split at hb
      · cases hb
        exact Or.inr ⟨rfl, hp⟩
      · exact Or.inl hb
    · cases hb
      exact Or.inr ⟨rfl, hp⟩
  · simp only [hp, Bool.not_false, if_true] at hb
    exact Or.inl hb

/-- Resuming starts the paused download of the latest transfer, when no transfer is active and
one is paused, and does nothing else. -/
theorem resume_spec (w : World) (hs : Sound w.manager) :
    Holds resume (fun _ w' =>
      w'.manager = w.manager ∧ w'.notices = w.notices ∨
      ∃ t, w.manager.active = none ∧ latestPaused w.manager = some t ∧
        Started { t.request with resumeOffset := t.record.bytesWritten }
          w.manager w.notices w'.manager w'.notices) w := by
  simp only [resume, holds_inSpan, holds_bind, holds_get]
  split
  · exact Or.inl ⟨rfl, rfl⟩
  · rename_i hidle
    split
    · rename_i t ht
      simp only [holds_bind, holds_log, holds_discard, holds_pure]
      refine Holds.mono (start_spec _ _ hs) fun _ w' h => Or.inr ⟨t, ?_, ht, h.2⟩
      simpa using hidle
    · exact Or.inl ⟨rfl, rfl⟩

/-- With the slot free, a manager whose records are all inactive and that has no task is
sound. -/
theorem Sound.of_idle {m : Manager} (ho : Owners m.records m.nextTransfer)
    (hin : ∀ k d, m.records.get? k = some d → d.record.state.isActive = false)
    (ha : m.active = none) (ht : m.tasks = []) : Sound m where
  owners := ho
  single k d hd hact := by
    rw [hin k d hd] at hact
    cases hact
  slot k n h := by
    rw [ha] at h
    cases h
  tasks u hu := by
    rw [ht] at hu
    cases hu

theorem Sound.allStopped {m m' : Manager} {q q' : Notices} (hs : Sound m)
    (h : AllStopped m q m' q') : Sound m' := by
  cases h with
  | idle => exact hs
  | aborted k d ha hd _ =>
    refine Sound.of_idle (hs.owners.narrow (Narrows.insert hd _) (hs.owners.ordered.insert _ _)
      (Nat.le_refl _)) (fun k' d' hd' => ?_) rfl rfl
    rw [Table.get?_insert] at hd'
    split at hd'
    · rw [← Option.some.inj hd']
      rfl
    · rename_i hk
      -- any other active record would hold the slot, which is `k`'s
      cases hact : d'.record.state.isActive
      · rfl
      · have := hs.single k' d' hd' hact
        rw [ha, Option.some.injEq, Prod.mk.injEq] at this
        exact absurd this.1 hk

/-- The record a start writes survives pruning: it is connecting. -/
theorem startedManager_get?_self {m : Manager} (ho : m.records.Ordered) (req : DownloadRequest)
    (n : Nat) : (startedManager req n m).records.get? req.track = some ⟨n, startRecord req, req⟩ := by
  have ho' : (recorded req n m).records.Ordered := ho.insert _ _
  have hnew : (recorded req n m).records.get? req.track = some ⟨n, startRecord req, req⟩ := by
    simp [recorded]
  rcases get?_prune ho' req.track with e | ⟨_, d, hd, hset⟩
  · exact e.trans hnew
  · rw [hnew] at hd
    cases hd
    simp [isSettled, startRecord] at hset

/-- Every record after a start was written by it or was there before: pruning only drops. -/
theorem startedManager_get? {m : Manager} (ho : m.records.Ordered) (req : DownloadRequest)
    (n : Nat) {k : TrackId} {d : Tracked} (hd : (startedManager req n m).records.get? k = some d) :
    (recorded req n m).records.get? k = some d := by
  have ho' : (recorded req n m).records.Ordered := ho.insert _ _
  rcases get?_prune ho' k with e | ⟨e, _⟩
  · exact e ▸ hd
  · exact absurd (e ▸ hd) (by simp)

theorem Sound.startedManager {m : Manager} (hs : Sound m) (hidle : m.active = none)
    (req : DownloadRequest) : Sound (startedManager req m.nextTransfer m) := by
  have ho : Owners (recorded req m.nextTransfer m).records (m.nextTransfer + 1) :=
    hs.owners.insert_new req (startRecord req)
  have hkept : ∀ k d, (Downloads.startedManager req m.nextTransfer m).records.get? k = some d →
      (recorded req m.nextTransfer m).records.get? k = some d :=
    fun _ _ hd => startedManager_get? hs.owners.ordered req _ hd
  have hkeep := startedManager_get?_self hs.owners.ordered req m.nextTransfer
  refine ⟨ho.narrow (Narrows.prune ho.ordered) (ordered_prune ho.ordered)
    (by simp [Downloads.startedManager, recorded]), ?_, ?_, ?_⟩
  · intro k d hd hact
    have hd' := hkept k d hd
    simp only [recorded, Table.get?_insert] at hd'
    split at hd'
    · rename_i hk
      rw [← Option.some.inj hd']
      subst hk
      rfl
    · rw [hs.inactive_of_idle hidle hd'] at hact
      cases hact
  · intro k n h
    simp only [Downloads.startedManager, Option.some.injEq, Prod.mk.injEq] at h
    obtain ⟨rfl, rfl⟩ := h
    exact ⟨_, hkeep, rfl, rfl⟩
  · intro u hu
    simp only [Downloads.startedManager, List.mem_singleton] at hu
    subst hu
    exact ⟨rfl, _, hkeep, rfl, rfl⟩

theorem Sound.started {req : DownloadRequest} {m m' : Manager} {q q' : Notices} (hs : Sound m)
    (h : Started req m q m' q') : Sound m' := by
  obtain ⟨m₁, q₁, h₁, hm, _⟩ := h
  obtain ⟨hidle, -, hnext⟩ := h₁.settled hs
  have hs₁ := hs.allStopped h₁
  rw [hm, ← hnext]
  exact hs₁.startedManager hidle req

theorem Sound.pausedDropped {track : TrackId} {m m' : Manager} {q q' : Notices} (hs : Sound m)
    (h : PausedDropped track m q m' q') : Sound m' := by
  cases h with
  | idle => exact hs
  | dropped d hd hp =>
    -- the paused record is not the slot's, which is active
    have hother : ∀ k d', m.records.get? k = some d' → d'.record.state.isActive → track ≠ k := by
      intro k d' hd' hact hk
      subst hk
      rw [hd] at hd'
      cases hd'
      cases hs' : d.record.state <;> simp_all [DownloadState.isActive, DownloadState.isPaused]
    have hsame : ∀ k, track ≠ k →
        (m.records.insert track (markAborted d)).get? k = m.records.get? k :=
      fun k hk => Table.get?_insert_of_ne _ _ hk
    refine ⟨hs.owners.narrow (Narrows.insert hd _) (hs.owners.ordered.insert _ _)
      (Nat.le_refl _), fun k d' hd' hact => ?_, fun k n ha => ?_, fun u hu => ?_⟩
    · rw [Table.get?_insert] at hd'
      split at hd'
      · cases hd'
        cases hact
      · exact hs.single k d' hd' hact
    · obtain ⟨d', hd', hn, hact⟩ := hs.slot k n ha
      exact ⟨d', (hsame k (hother k d' hd' hact)).trans hd', hn, hact⟩
    · obtain ⟨ha, d', hd', hn, hr⟩ := hs.tasks u hu
      obtain ⟨d'', hd'', _, hact⟩ := hs.slot _ _ ha
      rw [hd'] at hd''
      cases hd''
      exact ⟨ha, d', (hsame _ (hother _ d' hd' hact)).trans hd', hn, hr⟩

/-- A run's own work loses no record, and keeps each one's transfer and request and whether it is
active. -/
theorem Moved.keeps {n : Nat} {track : TrackId} {m m' : Manager} (h : Moved n track m m')
    {k : TrackId} {d : Tracked} (hd : m.records.get? k = some d) :
    ∃ d', m'.records.get? k = some d' ∧ d'.transfer = d.transfer ∧ d'.request = d.request ∧
      (d.record.state.isActive → d'.record.state.isActive) := by
  rcases h.records k with e | ⟨_, d₀, r, hd₀, _, _, _, hr, h'⟩
  · exact ⟨d, e.trans hd, rfl, rfl, id⟩
  · rw [hd] at hd₀
    cases hd₀
    exact ⟨_, h', rfl, rfl, fun _ => hr⟩

/-- A record a run's own work leaves was there before, under the same transfer, and active if it
is active now. -/
theorem Moved.back {n : Nat} {track : TrackId} {m m' : Manager} (h : Moved n track m m')
    {k : TrackId} {d' : Tracked} (hd' : m'.records.get? k = some d') :
    ∃ d, m.records.get? k = some d ∧ d.transfer = d'.transfer ∧
      (d'.record.state.isActive → d.record.state.isActive) := by
  rcases h.records k with e | ⟨_, d, r, hd, _, ha, _, _, h'⟩
  · exact ⟨d', e ▸ hd', rfl, id⟩
  · rw [h'] at hd'
    cases hd'
    exact ⟨d, hd, rfl, fun _ => ha⟩

theorem stallTask_transfer (n written : Nat) (u : TransferTask) :
    (stallTask n written u).transfer = u.transfer := by
  unfold stallTask
  split <;> rfl

theorem stallTask_request (n written : Nat) (u : TransferTask) :
    (stallTask n written u).request = u.request := by
  unfold stallTask
  split <;> rfl

theorem settled_inactive {req : DownloadRequest} {w : World} {r : Except TransferFailure Unit}
    (hr : Ends req w r) (x : Download) : (settled req r x).state.isActive = false := by
  cases r with
  | ok u => rfl
  | error f => exact DownloadState.isActive_of_isFailure hr

/-- The sound facts about the slot and the tasks survive a change that keeps every record's
owner and activity and the slot. -/
theorem Sound.of_moved {m m' : Manager} {n : Nat} {track : TrackId} (hs : Sound m)
    (hm : Moved n track m m') {tasks : List TransferTask}
    (ht : ∀ u' ∈ tasks, ∃ u ∈ m.tasks, u'.transfer = u.transfer ∧ u'.request = u.request) :
    Sound { m' with tasks := tasks } where
  owners := hs.owners.narrow hm.narrows (hm.ordered hs.owners.ordered)
    (Nat.le_of_eq hm.nextTransfer.symm)
  single k d' hd' hact := by
    obtain ⟨d, hd, ht, ha⟩ := hm.back hd'
    have := hs.single k d hd (ha hact)
    simp only [hm.active, this, ht]
  slot k n' ha := by
    obtain ⟨d, hd, hn, hact⟩ := hs.slot k n' (hm.active ▸ ha)
    obtain ⟨d', hd', ht, _, ha'⟩ := hm.keeps hd
    exact ⟨d', hd', ht.trans hn, ha' hact⟩
  tasks u' hu' := by
    obtain ⟨u, hu, ht, hr⟩ := ht u' hu'
    obtain ⟨ha, d, hd, hn, hreq⟩ := hs.tasks u hu
    obtain ⟨d', hd', ht', hr', _⟩ := hm.keeps hd
    refine ⟨?_, d', ?_, ?_, ?_⟩
    · simp only [hm.active, ha, hr, ht]
    · rw [hr]
      exact hd'
    · rw [ht', hn, ht]
    · rw [hr', hreq, hr]

theorem Sound.taskRun {u : TransferTask} {w w' : World} (hs : Sound w.manager)
    (hu : u ∈ w.manager.tasks) (h : TaskRun u w w') : Sound w'.manager := by
  obtain ⟨ha, -⟩ := hs.tasks u hu
  cases h with
  | stalled m ps written hm _ hmgr _ =>
    rw [hmgr]
    refine hs.of_moved hm fun u' hu' => ?_
    obtain ⟨u₀, hu₀, rfl⟩ := List.mem_map.mp hu'
    exact ⟨u₀, hm.tasks ▸ hu₀, stallTask_transfer _ _ _, stallTask_request _ _ _⟩
  | ended m ps r d₁ hm _ hd₁ _ _ hmgr _ hr =>
    -- the run settled its record and freed the slot: no record is active any more
    have hM : (releaseSlot { m with
        tasks := m.tasks.filter (·.transfer != u.transfer),
        records := m.records.insert u.request.track
          { d₁ with record := settled u.request r d₁.record } } u.transfer).records.Ordered := by
      rw [releaseSlot_records]
      exact (hm.ordered hs.owners.ordered).insert _ _
    rw [hmgr]
    refine Sound.of_idle (hs.owners.narrow
      ((hm.narrows.trans (Narrows.insert hd₁ (settled u.request r d₁.record))).trans ?_)
      (ordered_prune hM) (by simp [hm.nextTransfer])) (fun k d' hd' => ?_) ?_ ?_
    · have := Narrows.prune hM
      rwa [releaseSlot_records] at this
    · rcases get?_prune hM k with e | ⟨e, _⟩
      · rw [e, releaseSlot_records, Table.get?_insert] at hd'
        split at hd'
        · rw [← Option.some.inj hd']
          exact settled_inactive hr _
        · rename_i hk
          obtain ⟨d, hd, _, hact⟩ := hm.back hd'
          cases hd'act : d'.record.state.isActive
          · rfl
          · have := hs.single k d hd (hact hd'act)
            rw [ha, Option.some.injEq, Prod.mk.injEq] at this
            exact absurd this.1 hk
      · rw [e] at hd'
        cases hd'
    · rw [prune_active]
      exact releaseSlot_active_of_eq (hm.active.trans ha)
    · rw [prune_tasks, releaseSlot_tasks]
      dsimp only
      rw [hm.tasks]
      exact hs.filter_tasks ha

/-- The host ending every stall wakes the stalled tasks; the manager stays sound. -/
theorem Sound.endStalls {w : World} (hs : Sound w.manager) :
    Sound (Script.endStalls w).2.manager :=
  hs.of_moved (Moved.refl 0 0 w.manager) fun u' hu' => by
    obtain ⟨u, hu, rfl⟩ := List.mem_map.mp hu'
    refine ⟨u, hu, ?_, ?_⟩ <;> split <;> rfl

/-- A call on the download manager. -/
inductive Call where
  | start (req : DownloadRequest)
  | stop (track : TrackId)
  | stopAll
  | resume

/-- What a call runs. -/
def Call.act : Call → Act Unit
  | .start req => discard (Downloads.start req)
  | .stop track => Downloads.stop track
  | .stopAll => Downloads.stopAll
  | .resume => discard Downloads.resume

/-- What a call does to the manager and its notices. -/
def Call.Effect : Call → Manager → Notices → Manager → Notices → Prop
  | .start req, m, q, m', q' => Started req m q m' q'
  | .stop track, m, q, m', q' =>
    (∃ n, m.active = some (track, n)) ∧ AllStopped m q m' q' ∨
      (∀ n, m.active ≠ some (track, n)) ∧ PausedDropped track m q m' q'
  | .stopAll, m, q, m', q' => AllStopped m q m' q'
  | .resume, m, q, m', q' =>
    m' = m ∧ q' = q ∨ ∃ t, m.active = none ∧ latestPaused m = some t ∧
      Started { t.request with resumeOffset := t.record.bytesWritten } m q m' q'

theorem Call.act_spec (c : Call) (w : World) (hs : Sound w.manager) :
    Holds c.act (fun _ w' => c.Effect w.manager w.notices w'.manager w'.notices) w := by
  cases c with
  | start req =>
    simp only [Call.act, holds_discard]
    exact Holds.mono (start_spec req w hs) fun _ _ h => h.2
  | stop track => exact stop_spec track w hs
  | stopAll => exact stopAll_spec w hs
  | resume =>
    simp only [Call.act, holds_discard]
    exact resume_spec w hs

theorem Sound.effect {c : Call} {m m' : Manager} {q q' : Notices} (hs : Sound m)
    (h : c.Effect m q m' q') : Sound m' := by
  cases c with
  | start req => exact hs.started h
  | stop track =>
    rcases h with ⟨_, h⟩ | ⟨_, h⟩
    · exact hs.allStopped h
    · exact hs.pausedDropped h
  | stopAll => exact hs.allStopped h
  | resume =>
    rcases h with ⟨rfl, _⟩ | ⟨_, _, _, h⟩
    · exact hs
    · exact hs.started h

/-- The notices a step sent: what its world's notices hold beyond the ones before it. -/
def sent (w w' : World) : List DownloadEvent := w'.notices.toList.drop w.notices.toList.length

/-- The transfer a notice sent by a call on `m` is about: a begin is about the transfer about to
be numbered, any other notice about the transfer holding its track's record. -/
def concerns (m : Manager) (e : DownloadEvent) : Nat :=
  match e with
  | .begin .. => m.nextTransfer
  | e => ((m.records.get? e.track).map (·.transfer)).getD 0

/-- One step of the manager's world, with the notices it sent, each paired with the transfer it
is about: a call, a run of a task that can run (its notices are its transfer's), the host ending
the stalls, or anything outside the manager. -/
inductive ManagerStep : World → World → List (Nat × DownloadEvent) → Prop
  | call (c : Call) (w : World) :
      ManagerStep w (c.act.run w).2
        ((sent w (c.act.run w).2).map fun e => (concerns w.manager e, e))
  | work (u : TransferTask) (w : World) (hu : u ∈ w.manager.tasks) (hr : isReady u = true) :
      ManagerStep w ((runTask u).run w).2
        ((sent w ((runTask u).run w).2).map fun e => (u.transfer, e))
  | wake (w : World) : ManagerStep w (Script.endStalls w).2 []
  | host (w w' : World) (hm : w'.manager = w.manager) : ManagerStep w w' []

/-- The worlds a fresh manager reaches, with the notices sent on the way, each paired with the
transfer it is about. -/
inductive ManagerRun : World → List (Nat × DownloadEvent) → Prop
  | start (w : World) (hm : w.manager.records = [] ∧ w.manager.active = none ∧ w.manager.tasks = []) :
      ManagerRun w []
  | step {w w' : World} {L es : List (Nat × DownloadEvent)} (h : ManagerRun w L)
      (hs : ManagerStep w w' es) : ManagerRun w' (L ++ es)

/-- A task in the list runs on its track's record, which is active. -/
theorem Sound.task_record {m : Manager} (hs : Sound m) {u : TransferTask} (hu : u ∈ m.tasks) :
    ∃ d, m.records.get? u.request.track = some d ∧ d.transfer = u.transfer ∧
      d.request = u.request ∧ d.record.state.isActive := by
  obtain ⟨ha, d, hd, hn, hr⟩ := hs.tasks u hu
  obtain ⟨d', hd', _, hact⟩ := hs.slot _ _ ha
  rw [hd] at hd'
  cases hd'
  exact ⟨d, hd, hn, hr, hact⟩

theorem Sound.step {w w' : World} {es : List (Nat × DownloadEvent)} (hs : Sound w.manager)
    (h : ManagerStep w w' es) : Sound w'.manager := by
  cases h with
  | call c => exact hs.effect (Call.act_spec c w hs)
  | work u _ hu =>
    obtain ⟨d, hd, hn, _, hact⟩ := hs.task_record hu
    exact hs.taskRun hu (runTask_spec u w hd hn hact)
  | wake => exact hs.endStalls
  | host _ _ hm => exact hm ▸ hs

theorem Sound.initial {m : Manager}
    (hm : m.records = [] ∧ m.active = none ∧ m.tasks = []) : Sound m := by
  obtain ⟨hr, ha, ht⟩ := hm
  refine Sound.of_idle ⟨?_, ?_, ?_, ?_⟩ ?_ ha ht <;> simp [hr, Table.Ordered, Table.keys]

theorem ManagerRun.sound {w : World} {L : List (Nat × DownloadEvent)} (h : ManagerRun w L) :
    Sound w.manager := by
  induction h with
  | start w hm => exact Sound.initial hm
  | step _ hs ih => exact ih.step hs

/-- The world after the calls `cs`, made one after another. -/
def Call.runAll (cs : List Call) (w : World) : World := cs.foldl (fun w c => (c.act.run w).2) w

/-- Calls made one after another continue a run. -/
theorem ManagerRun.runAll {w : World} {L : List (Nat × DownloadEvent)} (h : ManagerRun w L)
    (cs : List Call) : ∃ L', ManagerRun (Call.runAll cs w) L' := by
  induction cs generalizing w L with
  | nil => exact ⟨L, h⟩
  | cons c cs ih => exact ih (h.step (ManagerStep.call c w))

end PlaybackEngine.Downloads
