import PlaybackEngine.Proofs.NoticeOrder
import Mathlib.Logic.Relation

set_option autoImplicit false

/-!
# Resuming and stopping transfers

Resuming does nothing while a transfer holds the active slot or no record is paused. Otherwise it
restarts the paused record of the latest transfer: `latestPaused` keeps, of the paused records it
passes, the one with the greater transfer number (`latestPaused_dominates`), and the restart runs
that record's own request from the bytes the record wrote (`resumeRequest`).

Stopping a track aborts the transfer holding the slot if it is the track's: the slot is freed,
no task is left, and the transfer's record, active until then, is aborted with one cancel.
Otherwise it aborts a paused record of the track, again with one cancel, and otherwise it leaves
the world as it is.

An aborted transfer is `Retired`: every record it has is aborted. No step of the manager brings
such a record back, since a step rewrites only records it does not find aborted, and numbers new
transfers above every old one (`Retired.reach`); so no later resume restarts a stopped transfer.
The contract for every state a manager reaches is `ManagerRun.resumes_and_stops`.
-/

namespace PlaybackEngine.Downloads

open World

/-! ## The latest paused record -/

/-- A fold that keeps a record unless a later paused one comes, and takes the first paused one,
ends on a record as late as the one it started with and as every paused record it passed. -/
theorem foldl_dominates (F : Option Tracked → TrackId × Tracked → Option Tracked)
    (hkeep : ∀ best x b, best = some b →
      ∃ b', F best x = some b' ∧ b.transfer ≤ b'.transfer)
    (htake : ∀ best x, x.2.record.state.isPaused →
      ∃ b', F best x = some b' ∧ x.2.transfer ≤ b'.transfer)
    (l : Table Tracked) (best : Option Tracked) :
    (∀ b, best = some b → ∃ b', l.foldl F best = some b' ∧ b.transfer ≤ b'.transfer) ∧
      ∀ e ∈ l, e.2.record.state.isPaused →
        ∃ b', l.foldl F best = some b' ∧ e.2.transfer ≤ b'.transfer := by
  induction l generalizing best with
  | nil =>
    exact ⟨fun b hb => ⟨b, hb, Nat.le_refl _⟩, fun e he => absurd he List.not_mem_nil⟩
  | cons x rest ih =>
    obtain ⟨hlater, hrest⟩ := ih (F best x)
    refine ⟨fun b hb => ?_, fun e he hp => ?_⟩
    · obtain ⟨b₁, hb₁, hle₁⟩ := hkeep best x b hb
      obtain ⟨b₂, hb₂, hle₂⟩ := hlater b₁ hb₁
      exact ⟨b₂, hb₂, Nat.le_trans hle₁ hle₂⟩
    · rcases List.mem_cons.mp he with rfl | he
      · obtain ⟨b₁, hb₁, hle₁⟩ := htake best e hp
        obtain ⟨b₂, hb₂, hle₂⟩ := hlater b₁ hb₁
        exact ⟨b₂, hb₂, Nat.le_trans hle₁ hle₂⟩
      · exact hrest e he hp

/-- Every paused record has a latest paused record at least as late. -/
theorem latestPaused_dominates (m : Manager) :
    ∀ e ∈ m.records, e.2.record.state.isPaused →
      ∃ t, latestPaused m = some t ∧ e.2.transfer ≤ t.transfer := by
  unfold latestPaused
  refine (foldl_dominates _ ?_ ?_ m.records none).2
  · -- the record kept is replaced only by a later one
    intro best x b hb
    subst hb
    obtain ⟨k, e⟩ := x
    dsimp only
    by_cases hp : e.record.state.isPaused
    · by_cases hlt : e.transfer > b.transfer
      · simp only [hp, Bool.not_true, Bool.false_eq_true, if_false, hlt, if_true]
        exact ⟨e, rfl, Nat.le_of_lt hlt⟩
      · simp only [hp, Bool.not_true, Bool.false_eq_true, if_false, hlt]
        exact ⟨b, rfl, Nat.le_refl _⟩
    · simp only [hp, Bool.not_false, if_true]
      exact ⟨b, rfl, Nat.le_refl _⟩
  · -- a paused record is taken, unless a later one is kept
    intro best x hp
    obtain ⟨k, e⟩ := x
    dsimp only at hp ⊢
    simp only [hp, Bool.not_true, Bool.false_eq_true, if_false]
    cases best with
    | none => exact ⟨e, rfl, Nat.le_refl _⟩
    | some b =>
      by_cases hlt : e.transfer > b.transfer
      · simp only [hlt, if_true]
        exact ⟨e, rfl, Nat.le_refl _⟩
      · simp only [hlt, if_false]
        exact ⟨b, rfl, Nat.le_of_not_lt hlt⟩

theorem latestPaused_max {m : Manager} {t : Tracked} (h : latestPaused m = some t) :
    ∀ e ∈ m.records, e.2.record.state.isPaused → e.2.transfer ≤ t.transfer := by
  intro e he hp
  obtain ⟨t', ht', hle⟩ := latestPaused_dominates m e he hp
  rw [h, Option.some.injEq] at ht'
  exact ht' ▸ hle

theorem latestPaused_eq_none {m : Manager}
    (h : ∀ e ∈ m.records, e.2.record.state.isPaused = false) : latestPaused m = none := by
  cases ht : latestPaused m with
  | none => rfl
  | some t =>
    obtain ⟨⟨k, hmem⟩, hp⟩ := latestPaused_mem ht
    rw [h (k, t) hmem] at hp
    cases hp

/-! ## Resuming -/

/-- The request a paused record resumes with: its own, from the bytes it wrote. -/
def resumeRequest (t : Tracked) : DownloadRequest :=
  { t.request with resumeOffset := t.record.bytesWritten }

/-- With a transfer running or nothing paused, resuming leaves the world as it is. -/
theorem resume_unchanged (w : World)
    (h : w.manager.active.isSome ∨ latestPaused w.manager = none) :
    resume.run w = (false, w) := by
  have hrun : Holds resume (fun r w' => (r, w') = (false, w)) w := by
    simp only [resume, holds_inSpan, holds_bind, holds_get]
    split
    · simp
    · rename_i hidle
      have hnone : latestPaused w.manager = none := h.resolve_left (by simpa using hidle)
      simp [hnone]
  exact hrun

/-- With the slot free, resuming starts the latest paused record's request from its bytes. -/
theorem resume_restarts (w : World) (hs : Sound w.manager) (hidle : w.manager.active = none)
    {t : Tracked} (ht : latestPaused w.manager = some t) :
    Holds resume (fun r w' => r = true ∧
      w'.manager = startedManager (resumeRequest t) w.manager.nextTransfer w.manager ∧
      w'.notices = w.notices.push (.begin t.request.track t.request.expectedLength)) w := by
  simp only [resume, holds_inSpan, holds_bind, holds_get, hidle, Option.isSome_none,
    Bool.false_eq_true, if_false, ht, holds_log, holds_discard]
  refine (start_spec _ _ ?_).mono ?_
  · exact hs
  rintro _ w' ⟨-, m₁, q₁, hstop, hm, hq⟩
  -- nothing was running, so stopping the active transfer did nothing
  cases hstop with
  | aborted k d ha => simp [hidle] at ha
  | idle => exact ⟨rfl, hm, hq⟩

/-! ## Stopping -/

/-- Stopping the track of the transfer in the slot frees the slot, drops the task and aborts the
transfer's record, which was active, with one cancel. -/
theorem stop_active (w : World) (hs : Sound w.manager) {track : TrackId} {n : Nat}
    (ha : w.manager.active = some (track, n)) :
    ∃ d, w.manager.records.get? track = some d ∧ d.transfer = n ∧ d.record.state.isActive ∧
      Holds (stop track) (fun _ w' =>
        w'.manager = { w.manager with
          active := none, tasks := [], records := w.manager.records.insert track (markAborted d) } ∧
        w'.notices = w.notices.push (.cancel track)) w := by
  obtain ⟨d, hd, hn, hact⟩ := hs.slot track n ha
  refine ⟨d, hd, hn, hact, (stop_spec track w hs).mono ?_⟩
  rintro _ w' (⟨-, hstop⟩ | ⟨hother, -⟩)
  · generalize w'.manager = m' at hstop ⊢
    generalize w'.notices = q' at hstop ⊢
    cases hstop with
    | idle hidle => simp [ha] at hidle
    | aborted k d' ha' hd' =>
      rw [ha, Option.some.injEq, Prod.mk.injEq] at ha'
      obtain ⟨rfl, -⟩ := ha'
      rw [hd, Option.some.injEq] at hd'
      subst hd'
      exact ⟨rfl, rfl⟩
  · exact absurd ha (hother n)

/-- Stopping a track whose paused record holds no slot aborts that record with one cancel. -/
theorem stop_paused (w : World) (hs : Sound w.manager) {track : TrackId}
    (hother : ∀ n, w.manager.active ≠ some (track, n)) {d : Tracked}
    (hd : w.manager.records.get? track = some d) (hp : d.record.state.isPaused) :
    Holds (stop track) (fun _ w' =>
      w'.manager = { w.manager with records := w.manager.records.insert track (markAborted d) } ∧
      w'.notices = w.notices.push (.cancel track)) w := by
  refine (stop_spec track w hs).mono ?_
  rintro _ w' (⟨⟨n, ha⟩, -⟩ | ⟨-, hdrop⟩)
  · exact absurd ha (hother n)
  · generalize w'.manager = m' at hdrop ⊢
    generalize w'.notices = q' at hdrop ⊢
    cases hdrop with
    | idle hnot => simp [hnot d hd] at hp
    | dropped d' hd' =>
      rw [hd, Option.some.injEq] at hd'
      subst hd'
      exact ⟨rfl, rfl⟩

/-- Stopping a track that holds no slot and has no paused record leaves the world as it is. -/
theorem stop_unchanged (w : World) {track : TrackId}
    (hother : ∀ n, w.manager.active ≠ some (track, n))
    (hnot : ∀ d, w.manager.records.get? track = some d → d.record.state.isPaused = false) :
    (stop track).run w = ((), w) := by
  -- dropping a paused record finds none
  have hdrop : ∀ w₁ : World, w₁.manager = w.manager →
      Holds (abortPaused track) (fun _ w' => w' = w₁) w₁ := by
    intro w₁ hm
    simp only [abortPaused, holds_bind, holds_get]
    split
    · rename_i d hd
      rw [hm] at hd
      simp [hnot d hd]
    · rfl
  have hrun : Holds (stop track) (fun r w' => (r, w') = ((), w)) w := by
    simp only [stop, holds_inSpan, holds_bind, holds_get]
    split
    · rename_i k n ha
      have hk : k ≠ track := fun hk => hother n (hk ▸ ha)
      simp only [hk, if_false]
      refine (hdrop _ ?_).mono ?_
      · rfl
      · rintro _ _ rfl
        rfl
    · refine (hdrop _ ?_).mono ?_
      · rfl
      · rintro _ _ rfl
        rfl
  exact hrun

/-! ## A stopped transfer stays stopped -/

/-- Transfer `n` is over for good: it was numbered, and every record it has is aborted. -/
def Retired (m : Manager) (n : Nat) : Prop :=
  n < m.nextTransfer ∧
    ∀ k d, m.records.get? k = some d → d.transfer = n → d.record.state = .aborted

/-- Aborting a track's record retires its transfer. -/
theorem Retired.of_abort {m m' : Manager} (hs : Sound m) {track : TrackId} {d : Tracked}
    (hd : m.records.get? track = some d)
    (hrec : m'.records = m.records.insert track (markAborted d))
    (hnext : m'.nextTransfer = m.nextTransfer) : Retired m' d.transfer := by
  refine ⟨hnext ▸ hs.owners.numbered track d hd, fun k d' hd' hn => ?_⟩
  rw [hrec, Table.get?_insert] at hd'
  split at hd'
  · rw [← Option.some.inj hd']
    rfl
  · -- no other track has a record of the same transfer
    rename_i hk
    exact absurd (hs.owners.distinct track k d d' hd hd' hn.symm) hk

theorem Retired.step {w w' : World} {es : List (Nat × DownloadEvent)} (hs : Sound w.manager)
    (h : ManagerStep w w' es) {n : Nat} (hr : Retired w.manager n) : Retired w'.manager n := by
  have hnext := (ManagerStep.emits hs h).next
  refine ⟨Nat.lt_of_lt_of_le hr.1 hnext, fun k d' hd' hn => ?_⟩
  rcases ManagerStep.changes hs h k d' hd' with e | ⟨_, ⟨d₀, hd₀, ht, hna⟩ | hfresh⟩
  · exact hr.2 k d' e hn
  · -- a record is rewritten only where it was not aborted, and `n`'s were all aborted
    exact absurd (hr.2 k d₀ hd₀ (ht.trans hn)) hna
  · have := hr.1
    omega

/-- The worlds the download manager's steps lead to from a world. -/
def ManagerReach (w w' : World) : Prop :=
  Relation.ReflTransGen (fun a b => ∃ es, ManagerStep a b es) w w'

theorem Retired.reach {w w' : World} (h : ManagerReach w w') (hs : Sound w.manager) {n : Nat}
    (hr : Retired w.manager n) : Sound w'.manager ∧ Retired w'.manager n := by
  induction h with
  | refl => exact ⟨hs, hr⟩
  | tail _ hstep ih =>
    obtain ⟨es, hstep⟩ := hstep
    obtain ⟨hs₁, hr₁⟩ := ih
    exact ⟨hs₁.step hstep, hr₁.step hs₁ hstep⟩

/-- A retired transfer is never the one resuming would restart. -/
theorem Retired.not_latestPaused {m : Manager} (hs : Sound m) {n : Nat} (hr : Retired m n)
    {t : Tracked} (ht : latestPaused m = some t) : t.transfer ≠ n := by
  obtain ⟨⟨k, hmem⟩, hp⟩ := latestPaused_mem ht
  intro hn
  rw [hr.2 k t (hs.owners.ordered.get?_of_mem hmem) hn] at hp
  cases hp

/-! ## The contract -/

/-- What resuming and stopping track `track` do from `w`. Resuming with a transfer running or
nothing paused changes nothing; otherwise it restarts, from the bytes it wrote, a paused record as
late as every paused record. Stopping the track of the transfer in the slot frees the slot, drops
the task, and aborts the record, active until then, with one cancel. Stopping a paused track
aborts its record with one cancel, and no later resume restarts it. Stopping any other track
changes nothing. -/
structure ResumesAndStops (w : World) (track : TrackId) : Prop where
  resume_idle : (w.manager.active.isSome ∨
      ∀ e ∈ w.manager.records, e.2.record.state.isPaused = false) →
    resume.run w = (false, w)
  resume_latest : w.manager.active = none →
    (∃ e ∈ w.manager.records, e.2.record.state.isPaused) →
    ∃ t, (∃ k, w.manager.records.get? k = some t) ∧ t.record.state.isPaused ∧
      (∀ e ∈ w.manager.records, e.2.record.state.isPaused → e.2.transfer ≤ t.transfer) ∧
      (resume.run w).1 = true ∧
      (resume.run w).2.manager.active = some (t.request.track, w.manager.nextTransfer) ∧
      (resume.run w).2.manager.records.get? t.request.track =
        some ⟨w.manager.nextTransfer, startRecord (resumeRequest t), resumeRequest t⟩ ∧
      (resume.run w).2.manager = startedManager (resumeRequest t) w.manager.nextTransfer w.manager ∧
      (resume.run w).2.notices = w.notices.push (.begin t.request.track t.request.expectedLength)
  stop_active : ∀ n, w.manager.active = some (track, n) →
    ∃ d, w.manager.records.get? track = some d ∧ d.transfer = n ∧ d.record.state.isActive ∧
      ((stop track).run w).2.manager = { w.manager with
        active := none, tasks := [], records := w.manager.records.insert track (markAborted d) } ∧
      ((stop track).run w).2.notices = w.notices.push (.cancel track)
  stop_paused : (∀ n, w.manager.active ≠ some (track, n)) →
    ∀ d, w.manager.records.get? track = some d → d.record.state.isPaused →
      ((stop track).run w).2.manager =
          { w.manager with records := w.manager.records.insert track (markAborted d) } ∧
        ((stop track).run w).2.notices = w.notices.push (.cancel track) ∧
        ∀ w', ManagerReach ((stop track).run w).2 w' →
          ∀ t, latestPaused w'.manager = some t → t.transfer ≠ d.transfer
  stop_other : (∀ n, w.manager.active ≠ some (track, n)) →
    (∀ d, w.manager.records.get? track = some d → d.record.state.isPaused = false) →
    (stop track).run w = ((), w)

theorem ManagerRun.resumes_and_stops {w : World} {L : List (Nat × DownloadEvent)}
    (h : ManagerRun w L) (track : TrackId) : ResumesAndStops w track where
  resume_idle hidle := resume_unchanged w (hidle.imp_right latestPaused_eq_none)
  resume_latest hidle hsome := by
    have hs := h.sound
    obtain ⟨e, he, hp⟩ := hsome
    obtain ⟨t, ht, -⟩ := latestPaused_dominates w.manager e he hp
    obtain ⟨⟨k, hmem⟩, htp⟩ := latestPaused_mem ht
    obtain ⟨hr, hm, hq⟩ := resume_restarts w hs hidle ht
    have hrecord :=
      startedManager_get?_self hs.owners.ordered (resumeRequest t) w.manager.nextTransfer
    refine ⟨t, ⟨k, hs.owners.ordered.get?_of_mem hmem⟩, htp, latestPaused_max ht, hr, ?_, ?_,
      hm, hq⟩
    · rw [hm]
      rfl
    · rw [hm]
      exact hrecord
  stop_active n ha := by
    obtain ⟨d, hd, hn, hact, hstop⟩ := stop_active w h.sound ha
    exact ⟨d, hd, hn, hact, hstop.1, hstop.2⟩
  stop_paused hother d hd hp := by
    have hs := h.sound
    obtain ⟨hm, hq⟩ := stop_paused w hs hother hd hp
    refine ⟨hm, hq, fun w' hreach t ht => ?_⟩
    -- the stopped world is sound, and the paused transfer in it retired
    have hs₁ : Sound ((stop track).run w).2.manager := by
      rw [hm]
      exact hs.pausedDropped (PausedDropped.dropped (q := w.notices) d hd hp)
    have hr₁ : Retired ((stop track).run w).2.manager d.transfer :=
      Retired.of_abort hs hd (by rw [hm]) (by rw [hm])
    obtain ⟨hs', hr'⟩ := Retired.reach hreach hs₁ hr₁
    exact hr'.not_latestPaused hs' ht
  stop_other hother hnot := stop_unchanged w hother hnot

/-- A manager that has just started a download: stopping that download's track aborts it. -/
theorem first_download_resumes_and_stops :
    ManagerRun ((Call.start default).act.run {}).2
        ([] ++ (sent {} ((Call.start default).act.run {}).2).map
          fun e => (concerns ({} : World).manager e, e)) ∧
      ResumesAndStops ((Call.start default).act.run {}).2 (default : DownloadRequest).track :=
  have h := (ManagerRun.start {} ⟨rfl, rfl, rfl⟩).step (ManagerStep.call (.start default) {})
  ⟨h, ManagerRun.resumes_and_stops h _⟩

end PlaybackEngine.Downloads
