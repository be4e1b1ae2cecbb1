import PlaybackEngine.Proofs.ManagerInvariant

set_option autoImplicit false

/-!
# The hub's table of transfers against the download records

The hub keeps a table of the transfers under way, built from the download events it passes on
(`Hub.trackTransfer`). The manager's notices reach it some time after the manager sent them, so
the table is compared with the records once the notices still waiting are applied to it.

Per track, a table entry and a record each have a standing: nothing, a transfer under way, or a
paused one (`Hub.standing`, `DownloadState.standing`). A table reflects the records (`Reflects`)
when every track has its record's standing, except that a paused record may have no entry. Each
event changes the standing of its own track only (`Hub.standing_trackTransfer`), so each manager
operation is checked at the track it touches: stopping a transfer, starting one and a task's run
keep the reflection. An error event about a track whose record is not active keeps it too
(`Reflects.emitError`): the entry it removes or pauses may only belong to a paused record.
-/

namespace PlaybackEngine

/-- How a download in this state shows in the hub's table: an active one as an entry (`some
false`), a paused one as an entry marked paused (`some true`), any other as no entry. -/
def DownloadState.standing (s : DownloadState) : Option Bool :=
  if s.isActive then some false else if s.isPaused then some true else none

theorem DownloadState.standing_of_isActive {s : DownloadState} (h : s.isActive) :
    s.standing = some false := by
  simp [standing, h]

theorem DownloadState.standing_eq_some_false {s : DownloadState} :
    s.standing = some false ↔ s.isActive := by
  cases s <;> simp [standing, isActive, isPaused]

theorem DownloadState.standing_eq_some_true {s : DownloadState} :
    s.standing = some true ↔ s.isPaused := by
  cases s <;> simp [standing, isActive, isPaused]

/-- Only an active or a paused record has a standing. -/
theorem DownloadState.mem_of_standing {s : DownloadState} {b : Bool} (h : s.standing = some b) :
    s ∈ [.connecting, .downloading, .pausedLocalFailure, .pausedRemoteFailure] := by
  cases s <;> simp_all [standing, isActive, isPaused]

/-- What an event does to the standing of its own track: a begin or a progress makes an entry
under way, an error that may pass marks the entry paused, and any other end removes it. -/
def DownloadEvent.standingAfter : DownloadEvent → Option Bool → Option Bool
  | .begin .., _ => some false
  | .progress .., _ => some false
  | .error _ _ true, s => s.map fun _ => true
  | .error _ _ false, _ => none
  | .finish _, _ => none
  | .cancel _, _ => none

/-- A track's entry in a table of transfers: none, or one that is marked paused or not. -/
def Hub.standing (t : Table TransferProgress) (k : TrackId) : Option Bool :=
  (t.get? k).map (·.paused.isSome)

theorem Hub.standing_trackTransfer (t : Table TransferProgress) (e : DownloadEvent) (k : TrackId) :
    standing (trackTransfer t e) k =
      if e.track = k then e.standingAfter (standing t k) else standing t k := by
  by_cases hk : e.track = k
  · subst hk
    cases e with
    | error _ _ b => cases b <;> simp [standing, trackTransfer, DownloadEvent.track,
        DownloadEvent.standingAfter, Table.get?_modify, Table.get?_erase, Option.map_map,
        Function.comp_def]
    | _ => simp [standing, trackTransfer, DownloadEvent.track, DownloadEvent.standingAfter,
        Table.get?_erase]
  · rw [if_neg hk]
    cases e with
    | error _ _ b => cases b <;> simp_all [standing, trackTransfer, DownloadEvent.track,
        Table.get?_modify, Table.get?_erase]
    | _ => simp_all [standing, trackTransfer, DownloadEvent.track, Table.get?_insert,
        Table.get?_erase]

theorem Table.Ordered.modify {α : Type} {t : Table α} (h : t.Ordered) (k : Int) (f : α → α) :
    (t.modify k f).Ordered := by
  have hkeys : (t.modify k f).keys = t.keys := by
    simp only [Table.modify, Table.keys, List.map_map]
    congr 1
    funext e
    simp only [Function.comp_apply]
    split <;> rfl
  unfold Table.Ordered
  rw [hkeys]
  exact h

theorem Hub.ordered_trackTransfer {t : Table TransferProgress} (h : t.Ordered) (e : DownloadEvent) :
    (trackTransfer t e).Ordered := by
  cases e with
  | error _ _ b => cases b <;> simp only [trackTransfer]
                   · exact h.filter _
                   · exact h.modify _ _
  | begin => exact h.insert _ _
  | progress => exact h.insert _ _
  | finish => exact h.filter _
  | cancel => exact h.filter _

/-- A table entry's standing agrees with a record's: the same, or no entry for a paused record. -/
def Agrees (entry record : Option Bool) : Prop := entry = record ∨ entry = none ∧ record = some true

theorem Agrees.refl (s : Option Bool) : Agrees s s := Or.inl rfl

theorem Agrees.eq_of_active {s : Option Bool} (h : Agrees s (some false)) : s = some false := by
  rcases h with h | ⟨_, h⟩
  · exact h
  · cases h

/-- An entry that may be lost or marked paused agrees with a record that is not active. -/
theorem Agrees.dim {s s' r : Option Bool} (h : Agrees s r) (hr : r ≠ some false)
    (hs : s' = s ∨ s' = none ∨ s' = s.map fun _ => true) : Agrees s' r := by
  have hnone : Agrees none r := by
    rcases r with _ | _ | _
    · exact Or.inl rfl
    · exact absurd rfl hr
    · exact Or.inr ⟨rfl, rfl⟩
  rcases hs with rfl | rfl | rfl
  · exact h
  · exact hnone
  · rcases h with rfl | ⟨rfl, _⟩
    · rcases s with _ | _ | _
      · exact hnone
      · exact absurd rfl hr
      · exact Agrees.refl _
    · exact hnone

end PlaybackEngine

namespace PlaybackEngine.Downloads

open World

/-- A track's standing by its record in the manager's table. -/
def standing (r : Table Tracked) (k : TrackId) : Option Bool :=
  (r.get? k).bind (·.record.state.standing)

/-- The table of transfers `t` reflects the records `r`: every track has its record's standing,
or no entry for a paused record. -/
def Reflects (t : Table TransferProgress) (r : Table Tracked) : Prop :=
  ∀ k, Agrees (Hub.standing t k) (standing r k)

/-- Every record names the track it is kept under. -/
def RecordsKeyed (r : Table Tracked) : Prop := ∀ k d, r.get? k = some d → d.record.track = k

section Standing

variable {r r' : Table Tracked} {t : Table TransferProgress}

theorem standing_insert (r : Table Tracked) (k j : TrackId) (d : Tracked) :
    standing (r.insert k d) j = if k = j then d.record.state.standing else standing r j := by
  simp only [standing, Table.get?_insert]
  split <;> rfl

theorem standing_of_get? {k : TrackId} {d : Tracked} (hd : r.get? k = some d) :
    standing r k = d.record.state.standing := by
  simp [standing, hd]

/-- A record that its snapshot shows paused or failed for good is not active. -/
theorem standing_of_snapshot {m : Manager} {k : TrackId} {d : Download} (h : snapshot m k = some d)
    (hs : (d.state.isPaused || d.state.isPermanentFailure) = true) :
    standing m.records k ≠ some false := by
  obtain ⟨x, hx, rfl⟩ := Option.map_eq_some_iff.mp h
  rw [standing_of_get? hx, Ne, DownloadState.standing_eq_some_false]
  cases hst : x.record.state <;>
    simp_all [DownloadState.isActive, DownloadState.isPaused, DownloadState.isPermanentFailure]

/-- Pruning drops settled records only, which have no entry. -/
theorem standing_prune {m : Manager} (hm : m.records.Ordered) (k : TrackId) :
    standing (prune m).records k = standing m.records k := by
  rcases get?_prune hm k with e | ⟨e, d, hd, hset⟩
  · simp only [standing, e]
  · simp only [isSettled, Bool.or_eq_true, beq_iff_eq] at hset
    rw [standing_of_get? hd, standing, e]
    rcases hset with h | h <;> simp [h, DownloadState.standing, DownloadState.isActive,
      DownloadState.isPaused]

theorem Moved.standing {n : Nat} {track : TrackId} {m m' : Manager} (h : Moved n track m m')
    (k : TrackId) : Downloads.standing m'.records k = Downloads.standing m.records k := by
  rcases h.records k with e | ⟨_, d, x, hd, _, ha, _, hx, h'⟩
  · simp only [Downloads.standing, e]
  · rw [standing_of_get? h', standing_of_get? hd, DownloadState.standing_of_isActive ha]
    exact DownloadState.standing_of_isActive hx

theorem Reflects.congr (h : Reflects t r) (hr : ∀ k, standing r' k = standing r k) :
    Reflects t r' := fun k => hr k ▸ h k

/-- One event, with the record of its track changed so that the two agree there. -/
theorem Reflects.trackTransfer (h : Reflects t r) (e : DownloadEvent)
    (he : Agrees (e.standingAfter (Hub.standing t e.track)) (standing r' e.track))
    (hr : ∀ k, e.track ≠ k → standing r' k = standing r k) :
    Reflects (Hub.trackTransfer t e) r' := by
  intro k
  rw [Hub.standing_trackTransfer]
  split
  · rename_i hk
    subst hk
    exact he
  · rename_i hk
    rw [hr k hk]
    exact h k

/-- Progress notices about a track whose record is active. -/
theorem Reflects.progress (h : Reflects t r) {req : DownloadRequest}
    (hk : standing r req.track = some false) (ps : List Nat) :
    Reflects ((progressNotices req ps).foldl Hub.trackTransfer t) r := by
  induction ps generalizing t with
  | nil => exact h
  | cons p ps ih =>
    refine ih (h.trackTransfer _ ?_ fun _ _ => rfl)
    simp only [DownloadEvent.standingAfter, DownloadEvent.track, hk]
    exact Agrees.refl _

/-- A cancel about a record that is aborted with it. -/
theorem Reflects.cancel (h : Reflects t r) {k : TrackId} (d : Tracked) :
    Reflects (Hub.trackTransfer t (.cancel k)) (r.insert k (markAborted d)) := by
  refine h.trackTransfer _ ?_ fun j hj => ?_
  · simp only [DownloadEvent.standingAfter, DownloadEvent.track, standing_insert, if_true]
    exact Agrees.refl _
  · change k ≠ j at hj
    rw [standing_insert, if_neg hj]

end Standing

/-- The table a list of notices leaves, once applied to `t`. -/
theorem foldl_push (q : Notices) (e : DownloadEvent) (t : Table TransferProgress) :
    (q.push e).toList.foldl Hub.trackTransfer t =
      Hub.trackTransfer (q.toList.foldl Hub.trackTransfer t) e := by
  simp

section Operations

variable {H : Table TransferProgress} {m m' : Manager} {q q' : Notices}

theorem Reflects.allStopped (h : AllStopped m q m' q')
    (hr : Reflects (q.toList.foldl Hub.trackTransfer H) m.records) :
    Reflects (q'.toList.foldl Hub.trackTransfer H) m'.records := by
  cases h with
  | idle => exact hr
  | aborted k d =>
    rw [foldl_push]
    exact hr.cancel d

theorem Reflects.pausedDropped {track : TrackId} (h : PausedDropped track m q m' q')
    (hr : Reflects (q.toList.foldl Hub.trackTransfer H) m.records) :
    Reflects (q'.toList.foldl Hub.trackTransfer H) m'.records := by
  cases h with
  | idle => exact hr
  | dropped d =>
    rw [foldl_push]
    exact hr.cancel d

/-- After a start, the track of the request has its connecting record, and every other track
keeps its standing: pruning drops settled records only. -/
theorem standing_startedManager {m : Manager} (ho : m.records.Ordered) (req : DownloadRequest)
    (n : Nat) (k : TrackId) :
    standing (startedManager req n m).records k =
      if req.track = k then some false else standing m.records k := by
  change standing (prune (recorded req n m)).records k = _
  rw [standing_prune (ho.insert _ _), recorded, standing_insert]
  rfl

theorem Reflects.started {req : DownloadRequest} (hs : Sound m) (h : Started req m q m' q')
    (hr : Reflects (q.toList.foldl Hub.trackTransfer H) m.records) :
    Reflects (q'.toList.foldl Hub.trackTransfer H) m'.records := by
  obtain ⟨m₁, q₁, h₁, rfl, rfl⟩ := h
  have hr₁ := hr.allStopped h₁
  have ho := (hs.allStopped h₁).owners.ordered
  rw [foldl_push]
  -- the begin makes an entry under way, for the connecting record that replaces the track's
  refine hr₁.trackTransfer _ ?_ fun k hk => ?_
  · simp only [DownloadEvent.track]
    rw [standing_startedManager ho, if_pos rfl]
    exact Agrees.refl _
  · change req.track ≠ k at hk
    rw [standing_startedManager ho, if_neg hk]

theorem Reflects.effect {c : Call} (hs : Sound m) (h : c.Effect m q m' q')
    (hr : Reflects (q.toList.foldl Hub.trackTransfer H) m.records) :
    Reflects (q'.toList.foldl Hub.trackTransfer H) m'.records := by
  cases c with
  | start req => exact hr.started hs h
  | stop track =>
    rcases h with ⟨_, h⟩ | ⟨_, h⟩
    · exact hr.allStopped h
    · exact hr.pausedDropped h
  | stopAll => exact hr.allStopped h
  | resume =>
    rcases h with ⟨rfl, rfl⟩ | ⟨_, _, _, h⟩
    · exact hr
    · exact hr.started hs h

/-- The end notice of a transfer moves its track's entry as its record's settling moves the
record: a finish or a failure for good removes it, a pause marks it paused. -/
theorem standingAfter_endNotice {req : DownloadRequest} {w : World} {r : Except TransferFailure Unit}
    (hr : Ends req w r) (x : Download) :
    (endNotice req r).standingAfter (some false) = (settled req r x).state.standing := by
  cases r with
  | ok u => rfl
  | error f =>
    change f.state.isFailure at hr
    simp only [endNotice, settled]
    cases hf : f.state <;> simp_all [DownloadEvent.standingAfter, DownloadState.standing,
      DownloadState.isFailure, DownloadState.isPermanentFailure, DownloadState.isPaused,
      DownloadState.isActive]

theorem Reflects.taskRun {u : TransferTask} {w w' : World} (hs : Sound w.manager)
    (hu : u ∈ w.manager.tasks) (h : TaskRun u w w')
    (hr : Reflects (w.notices.toList.foldl Hub.trackTransfer H) w.manager.records) :
    Reflects (w'.notices.toList.foldl Hub.trackTransfer H) w'.manager.records := by
  obtain ⟨d₀, hd₀, -, -, ha₀⟩ := hs.task_record hu
  have hk : standing w.manager.records u.request.track = some false := by
    rw [standing_of_get? hd₀, DownloadState.standing_of_isActive ha₀]
  cases h with
  | stalled m ps written hm _ hmgr hn =>
    rw [hmgr, hn, List.foldl_append]
    exact (hr.progress hk ps).congr (hm.standing)
  | ended m ps r d hm _ hd _ _ hmgr hn hend =>
    have ho : (releaseSlot { m with
        tasks := m.tasks.filter (·.transfer != u.transfer),
        records := m.records.insert u.request.track
          { d with record := settled u.request r d.record } } u.transfer).records.Ordered := by
      rw [releaseSlot_records]
      exact (hm.ordered hs.owners.ordered).insert _ _
    have hp := (hr.progress hk ps).congr (hm.standing)
    rw [hn, List.foldl_append, List.foldl_append, List.foldl_cons, List.foldl_nil, hmgr]
    -- the entry is under way until the end notice, which settles it as the record is settled
    refine hp.trackTransfer _ ?_ fun k hk' => ?_
    · have hrun : Hub.standing ((progressNotices u.request ps).foldl Hub.trackTransfer
          (w.notices.toList.foldl Hub.trackTransfer H)) u.request.track = some false := by
        have := hp u.request.track
        rw [hm.standing, hk] at this
        exact this.eq_of_active
      have htrack : (endNotice u.request r).track = u.request.track := by
        cases r <;> rfl
      rw [htrack, hrun, standing_prune ho, releaseSlot_records, standing_insert, if_pos rfl,
        standingAfter_endNotice hend]
      exact Agrees.refl _
    · have htrack : (endNotice u.request r).track = u.request.track := by
        cases r <;> rfl
      rw [htrack] at hk'
      rw [standing_prune ho, releaseSlot_records, standing_insert, if_neg hk']

end Operations

/-- Two tables alike but at `k`, where the second may have lost its entry or marked it paused. -/
def Dimmed (k : TrackId) (t t' : Table TransferProgress) : Prop :=
  (∀ j, j ≠ k → Hub.standing t' j = Hub.standing t j) ∧
    (Hub.standing t' k = Hub.standing t k ∨ Hub.standing t' k = none ∨
      Hub.standing t' k = (Hub.standing t k).map fun _ => true)

theorem dimmed_error (t : Table TransferProgress) (k : TrackId) (msg : String) (b : Bool) :
    Dimmed k t (Hub.trackTransfer t (.error k msg b)) := by
  refine ⟨fun j hj => ?_, ?_⟩
  · rw [Hub.standing_trackTransfer, DownloadEvent.track, if_neg (Ne.symm hj)]
  · rw [Hub.standing_trackTransfer, DownloadEvent.track, if_pos rfl]
    cases b
    · exact Or.inr (Or.inl rfl)
    · exact Or.inr (Or.inr rfl)

/-- Later events keep two tables alike but at `k`: whatever they do at `k` they do to both, and
a lost or paused entry stays lost or paused until an event settles both alike. -/
theorem Dimmed.trackTransfer {k : TrackId} {t t' : Table TransferProgress} (h : Dimmed k t t')
    (e : DownloadEvent) : Dimmed k (Hub.trackTransfer t e) (Hub.trackTransfer t' e) := by
  obtain ⟨hother, hk⟩ := h
  refine ⟨fun j hj => ?_, ?_⟩
  · simp only [Hub.standing_trackTransfer, hother j hj]
  · simp only [Hub.standing_trackTransfer]
    split
    · cases e with
      | error _ _ b =>
        cases b
        · exact Or.inl rfl
        · simp only [DownloadEvent.standingAfter, Option.map_map]
          rcases hk with e | e | e <;> rw [e]
          · exact Or.inl rfl
          · exact Or.inr (Or.inl rfl)
          · exact Or.inl (by simp [Option.map_map, Function.comp_def])
      | _ => exact Or.inl rfl
    · exact hk

theorem Dimmed.foldl {k : TrackId} {t t' : Table TransferProgress} (h : Dimmed k t t')
    (es : List DownloadEvent) :
    Dimmed k (es.foldl Hub.trackTransfer t) (es.foldl Hub.trackTransfer t') := by
  induction es generalizing t t' with
  | nil => exact h
  | cons e es ih => exact ih (h.trackTransfer e)

/-- An error event about a track whose record is not active, sent ahead of the notices still
waiting, keeps the table reflecting the records. -/
theorem Reflects.emitError {r : Table Tracked} {H : Table TransferProgress}
    {es : List DownloadEvent} (h : Reflects (es.foldl Hub.trackTransfer H) r) {k : TrackId}
    (hk : standing r k ≠ some false) (msg : String) (b : Bool) :
    Reflects (es.foldl Hub.trackTransfer (Hub.trackTransfer H (.error k msg b))) r := by
  obtain ⟨hother, hdim⟩ := (dimmed_error H k msg b).foldl es
  intro j
  by_cases hj : j = k
  · subst hj
    exact (h j).dim hk hdim
  · rw [hother j hj]
    exact h j

section Keyed

variable {r : Table Tracked}

theorem RecordsKeyed.insert (h : RecordsKeyed r) {k : TrackId} {d : Tracked}
    (hd : d.record.track = k) : RecordsKeyed (r.insert k d) := by
  intro j d' hd'
  rw [Table.get?_insert] at hd'
  split at hd'
  · rename_i hk
    cases hd'
    exact hd.trans hk
  · exact h j d' hd'

theorem RecordsKeyed.prune {m : Manager} (h : RecordsKeyed m.records) (ho : m.records.Ordered) :
    RecordsKeyed (Downloads.prune m).records := by
  intro k d hd
  rcases get?_prune ho k with e | ⟨e, _⟩
  · exact h k d (e ▸ hd)
  · rw [e] at hd
    cases hd

theorem RecordsKeyed.moved {n : Nat} {track : TrackId} {m m' : Manager} (h : RecordsKeyed m.records)
    (hm : Moved n track m m') : RecordsKeyed m'.records := by
  intro k d' hd'
  rcases hm.records k with e | ⟨_, d, x, hd, _, _, hx, _, h'⟩
  · exact h k d' (e ▸ hd')
  · rw [h'] at hd'
    cases hd'
    exact hx.trans (h k d hd)

theorem RecordsKeyed.abort (h : RecordsKeyed r) {k : TrackId} {d : Tracked} (hd : r.get? k = some d) :
    RecordsKeyed (r.insert k (markAborted d)) :=
  h.insert (h k d hd)

variable {m m' : Manager} {q q' : Notices}

theorem RecordsKeyed.allStopped (h : RecordsKeyed m.records) (hs : AllStopped m q m' q') :
    RecordsKeyed m'.records := by
  cases hs with
  | idle => exact h
  | aborted k d _ hd => exact h.abort hd

theorem RecordsKeyed.effect {c : Call} (h : RecordsKeyed m.records) (hs : Sound m)
    (he : c.Effect m q m' q') : RecordsKeyed m'.records := by
  -- a start keys its connecting record by the request's track, and pruning only drops records
  have started : ∀ {req m' q'}, Started req m q m' q' → RecordsKeyed m'.records := by
    intro req m' q' ⟨m₁, q₁, h₁, hm, _⟩
    have hrec : RecordsKeyed (m₁.records.insert req.track ⟨m.nextTransfer, startRecord req, req⟩) :=
      (h.allStopped h₁).insert rfl
    rw [hm]
    exact hrec.prune ((hs.allStopped h₁).owners.ordered.insert _ _)
  cases c with
  | start req => exact started he
  | stop track =>
    rcases he with ⟨_, he⟩ | ⟨_, he⟩
    · exact h.allStopped he
    · cases he with
      | idle => exact h
      | dropped d hd => exact h.abort hd
  | stopAll => exact h.allStopped he
  | resume =>
    rcases he with ⟨rfl, _⟩ | ⟨_, _, _, he⟩
    · exact h
    · exact started he

theorem RecordsKeyed.taskRun {u : TransferTask} {w w' : World} (h : RecordsKeyed w.manager.records)
    (hs : Sound w.manager) (hr : TaskRun u w w') : RecordsKeyed w'.manager.records := by
  cases hr with
  | stalled m ps written hm _ hmgr =>
    have hk : RecordsKeyed m.records := h.moved hm
    rw [hmgr]
    exact hk
  | ended m ps r d hm _ hd _ _ hmgr =>
    have hk : RecordsKeyed m.records := h.moved hm
    have hsettled : (settled u.request r d.record).track = u.request.track := by
      cases r <;> exact hk _ d hd
    rw [hmgr]
    refine RecordsKeyed.prune ?_ ?_
    · rw [releaseSlot_records]
      exact hk.insert hsettled
    · rw [releaseSlot_records]
      exact (hm.ordered hs.owners.ordered).insert _ _

end Keyed

end PlaybackEngine.Downloads
