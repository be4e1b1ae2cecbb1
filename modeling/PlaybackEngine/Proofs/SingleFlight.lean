import PlaybackEngine.Proofs.ManagerInvariant

set_option autoImplicit false

/-!
# One transfer at a time

Whatever calls and task runs interleave, the download manager runs at most one transfer: at
most one record is active, and it is the record of the transfer holding the active slot. A task
run changes its own record and no other, an aborted record is left as it is until a later
transfer of its track replaces it, and a record turns finished only in a run whose file the
cache took (`ManagerRun.one_transfer_at_a_time`).

Pruning is the exception to the second and the third: once more than sixteen records are
finished or aborted, the oldest of them are dropped, by a call or by a task run, whatever
transfer they belong to (`pruning_drops_aborted_record`).

Every step is summed up by `Changes`: which records it may write, and how they relate to the
ones before. Each property above is read off it, and the invariant `Sound` supplies the rest.
-/

namespace PlaybackEngine.Downloads

/-- At most one record is active, and an active record is the record of the transfer holding
the active slot. -/
def SingleFlight (m : Manager) : Prop :=
  (∀ k d, m.records.get? k = some d → d.record.state.isActive →
    m.active = some (k, d.transfer)) ∧
  ∀ k₁ k₂ d₁ d₂, m.records.get? k₁ = some d₁ → m.records.get? k₂ = some d₂ →
    d₁.record.state.isActive → d₂.record.state.isActive → k₁ = k₂

theorem Sound.singleFlight {m : Manager} (hs : Sound m) : SingleFlight m := by
  refine ⟨hs.single, fun k₁ k₂ d₁ d₂ h₁ h₂ a₁ a₂ => ?_⟩
  have e := (hs.single k₁ d₁ h₁ a₁).symm.trans (hs.single k₂ d₂ h₂ a₂)
  rw [Option.some.injEq, Prod.mk.injEq] at e
  exact e.1

/-- How a step may change the records, `next` being the first transfer not yet handed out: a
record after it was there before, or it satisfies `P` and either took the place of a record of
the same transfer that was not aborted, or belongs to a transfer the step started. -/
def Changes (P : Tracked → Prop) (next : Nat) (r r' : Table Tracked) : Prop :=
  ∀ k d', r'.get? k = some d' → r.get? k = some d' ∨
    P d' ∧ ((∃ d, r.get? k = some d ∧ d.transfer = d'.transfer ∧ d.record.state ≠ .aborted) ∨
      next ≤ d'.transfer)

section Changes

variable {P Q : Tracked → Prop} {next : Nat}

theorem Changes.refl (r : Table Tracked) : Changes P next r r := fun _ _ h => Or.inl h

theorem Changes.trans {r₁ r₂ r₃ : Table Tracked} (h₁ : Changes P next r₁ r₂)
    (h₂ : Changes P next r₂ r₃) : Changes P next r₁ r₃ := by
  intro k d₃ hd₃
  rcases h₂ k d₃ hd₃ with e | ⟨hP, ⟨d₂, hd₂, ht, hna⟩ | hfresh⟩
  · exact h₁ k d₃ e
  · -- the record it replaced goes back to one that was there, or to a new transfer
    refine Or.inr ⟨hP, ?_⟩
    rcases h₁ k d₂ hd₂ with e | ⟨_, ⟨d₁, hd₁, ht₁, hna₁⟩ | hfresh⟩
    · exact Or.inl ⟨d₂, e, ht, hna⟩
    · exact Or.inl ⟨d₁, hd₁, ht₁.trans ht, hna₁⟩
    · exact Or.inr (ht ▸ hfresh)
  · exact Or.inr ⟨hP, Or.inr hfresh⟩

theorem Changes.mono {r r' : Table Tracked} (h : Changes P next r r') (hPQ : ∀ d, P d → Q d) :
    Changes Q next r r' := by
  intro k d' hd'
  rcases h k d' hd' with e | ⟨hP, h'⟩
  · exact Or.inl e
  · exact Or.inr ⟨hPQ d' hP, h'⟩

theorem Changes.insert_live {r : Table Tracked} {k : TrackId} {d : Tracked}
    (hd : r.get? k = some d) (hna : d.record.state ≠ .aborted) {x : Download}
    (hP : P { d with record := x }) : Changes P next r (r.insert k { d with record := x }) := by
  intro k' d' hd'
  rw [Table.get?_insert] at hd'
  split at hd'
  · rename_i hk
    subst hk
    rw [← Option.some.inj hd']
    exact Or.inr ⟨hP, Or.inl ⟨d, hd, rfl, hna⟩⟩
  · exact Or.inl hd'

theorem Changes.insert_fresh {r : Table Tracked} (k : TrackId) {x : Tracked} (hP : P x)
    (hx : next ≤ x.transfer) : Changes P next r (r.insert k x) := by
  intro k' d' hd'
  rw [Table.get?_insert] at hd'
  split at hd'
  · rw [← Option.some.inj hd']
    exact Or.inr ⟨hP, Or.inr hx⟩
  · exact Or.inl hd'

/-- Pruning drops records and changes none; `hr` names the records it prunes, which a step
may have rewritten in ways pruning does not look at. -/
theorem Changes.prune {m : Manager} {r : Table Tracked} (hr : m.records = r) (ho : r.Ordered) :
    Changes P next r (Downloads.prune m).records := by
  subst hr
  intro k d' hd'
  rcases get?_prune ho k with e | ⟨e, _⟩
  · exact Or.inl (e ▸ hd')
  · rw [e] at hd'
    cases hd'

theorem Changes.moved {n : Nat} {track : TrackId} {m m' : Manager} (h : Moved n track m m')
    (hP : ∀ (d : Tracked) (r : Download), r.state.isActive → P { d with record := r }) :
    Changes P next m.records m'.records := by
  intro k d' hd'
  rcases h.records k with e | ⟨_, d, r, hd, _, ha, _, hr, h'⟩
  · exact Or.inl (e ▸ hd')
  · rw [h'] at hd'
    rw [← Option.some.inj hd']
    refine Or.inr ⟨hP d r hr, Or.inl ⟨d, hd, rfl, fun he => ?_⟩⟩
    rw [he] at ha
    cases ha

end Changes

/-- An aborted record stays as it is, until pruning drops it or a later transfer of its track
takes its place. -/
def AbortedKept (r r' : Table Tracked) : Prop :=
  ∀ k d, r.get? k = some d → d.record.state = .aborted →
    r'.get? k = some d ∨ r'.get? k = none ∨ ∃ d', r'.get? k = some d' ∧ d.transfer < d'.transfer

theorem Changes.abortedKept {P : Tracked → Prop} {next : Nat} {r r' : Table Tracked}
    (h : Changes P next r r') (hnum : ∀ k d, r.get? k = some d → d.transfer < next) :
    AbortedKept r r' := by
  intro k d hd ha
  cases hd' : r'.get? k with
  | none => exact Or.inr (Or.inl rfl)
  | some d' =>
    rcases h k d' hd' with e | ⟨_, ⟨d₀, hd₀, _, hna⟩ | hfresh⟩
    · rw [hd] at e
      exact Or.inl (congrArg some (Option.some.inj e).symm)
    · rw [hd] at hd₀
      cases hd₀
      exact absurd ha hna
    · exact Or.inr (Or.inr ⟨d', rfl, Nat.lt_of_lt_of_le (hnum k d hd) hfresh⟩)

/-- Every record that is finished after a step was finished, as it is, before it, or the cache
took its file during the step. -/
def FinishedCommitted (w w' : World) : Prop :=
  ∀ k d', w'.manager.records.get? k = some d' → d'.record.state = .finished →
    w.manager.records.get? k = some d' ∨ Committed w' d'.request

/-- A call writes no finished record, and starts no transfer but the next one. -/
theorem Call.changes {c : Call} {m m' : Manager} {q q' : Notices} (hs : Sound m)
    (h : c.Effect m q m' q') :
    Changes (fun d => d.record.state ≠ .finished) m.nextTransfer m.records m'.records := by
  have stopped : ∀ {m₁ : Manager} {q₁ : Notices}, AllStopped m q m₁ q₁ →
      Changes (fun d => d.record.state ≠ .finished) m.nextTransfer m.records m₁.records := by
    intro m₁ q₁ h₁
    cases h₁ with
    | idle => exact Changes.refl _
    | aborted k d _ hd hda =>
      refine Changes.insert_live hd (fun he => ?_) (fun he => nomatch he)
      rw [he] at hda
      cases hda
  have started : ∀ {req : DownloadRequest}, Started req m q m' q' →
      Changes (fun d => d.record.state ≠ .finished) m.nextTransfer m.records m'.records := by
    intro req hst
    obtain ⟨m₁, q₁, h₁, hm, _⟩ := hst
    have hs₁ := hs.allStopped h₁
    have ho : (recorded req m.nextTransfer m₁).records.Ordered :=
      hs₁.owners.ordered.insert _ _
    rw [hm]
    refine ((stopped h₁).trans (Changes.insert_fresh req.track ?_ (Nat.le_refl _))).trans
      (Changes.prune rfl ho)
    simp [startRecord]
  cases c with
  | start req => exact started h
  | stop track =>
    rcases h with ⟨_, h⟩ | ⟨_, h⟩
    · exact stopped h
    · cases h with
      | idle => exact Changes.refl _
      | dropped d hd hp =>
        refine Changes.insert_live hd (fun he => ?_) (fun he => nomatch he)
        rw [he] at hp
        cases hp
  | stopAll => exact stopped h
  | resume =>
    rcases h with ⟨rfl, _⟩ | ⟨_, _, _, h⟩
    · exact Changes.refl _
    · exact started h

theorem settled_finished {req : DownloadRequest} {w : World} {r : Except TransferFailure Unit}
    (hr : Ends req w r) (x : Download) (hf : (settled req r x).state = .finished) :
    Committed w req := by
  cases r with
  | ok u => exact hr
  | error f =>
    have hfail : f.state.isFailure := hr
    simp only [settled] at hf
    rw [hf] at hfail
    cases hfail

/-- A task run writes a finished record only for a request whose file the cache took. -/
theorem TaskRun.changes {u : TransferTask} {w w' : World} (hs : Sound w.manager)
    (hu : u ∈ w.manager.tasks) (h : TaskRun u w w') :
    Changes (fun d => d.record.state = .finished → Committed w' d.request)
      w.manager.nextTransfer w.manager.records w'.manager.records := by
  have inactive : ∀ (d : Tracked) (r : Download), r.state.isActive →
      (({ d with record := r } : Tracked).record.state = .finished →
        Committed w' ({ d with record := r } : Tracked).request) := by
    intro d r hr hf
    simp only at hf
    rw [hf] at hr
    cases hr
  cases h with
  | stalled m ps written hm _ hmgr _ =>
    rw [hmgr]
    show Changes _ _ _ m.records
    exact Changes.moved hm inactive
  | ended m ps r d₁ hm _ hd₁ _ hda hmgr _ hr =>
    obtain ⟨d, hd, hn, hreq, hact⟩ := hs.task_record hu
    obtain ⟨d', hd', _, hreq', _⟩ := hm.keeps hd
    rw [hd₁, Option.some.injEq] at hd'
    subst hd'
    rw [hmgr]
    refine ((Changes.moved hm inactive).trans (Changes.insert_live hd₁ ?_ ?_)).trans
      (Changes.prune (releaseSlot_records _ _) ((hm.ordered hs.owners.ordered).insert _ _))
    · intro he
      rw [he] at hda
      cases hda
    · intro hf
      rw [hreq', hreq]
      exact settled_finished hr _ hf

/-- A run of transfer `n`'s task leaves every record as it was, but the record of transfer `n`,
which it may rewrite or drop, and records that pruning drops, all of them finished or aborted. -/
def OwnRecordOnly (n : Nat) (r r' : Table Tracked) : Prop :=
  ∀ k, r'.get? k = r.get? k ∨
    (∃ d x, r.get? k = some d ∧ d.transfer = n ∧ r'.get? k = some { d with record := x }) ∨
    r'.get? k = none ∧ ∃ d, r.get? k = some d ∧ (d.transfer = n ∨ isSettled d = true)

section OwnRecordOnly

variable {n : Nat}

theorem OwnRecordOnly.trans {r₁ r₂ r₃ : Table Tracked} (h₁ : OwnRecordOnly n r₁ r₂)
    (h₂ : OwnRecordOnly n r₂ r₃) : OwnRecordOnly n r₁ r₃ := by
  intro k
  rcases h₂ k with e₂ | ⟨d₂, x, hd₂, hn₂, e₂⟩ | ⟨e₂, d₂, hd₂, hs₂⟩
  · rw [e₂]
    exact h₁ k
  · -- the first step left the record of transfer `n` at `k` in place or rewrote it
    rcases h₁ k with e₁ | ⟨d₁, y, hd₁, hn₁, e₁⟩ | ⟨e₁, _⟩
    · exact Or.inr (Or.inl ⟨d₂, x, e₁ ▸ hd₂, hn₂, e₂⟩)
    · rw [e₁, Option.some.injEq] at hd₂
      subst hd₂
      exact Or.inr (Or.inl ⟨d₁, x, hd₁, hn₁, e₂⟩)
    · rw [e₁] at hd₂
      cases hd₂
  · rcases h₁ k with e₁ | ⟨d₁, y, hd₁, hn₁, e₁⟩ | ⟨e₁, _⟩
    · exact Or.inr (Or.inr ⟨e₂, d₂, e₁ ▸ hd₂, hs₂⟩)
    · exact Or.inr (Or.inr ⟨e₂, d₁, hd₁, Or.inl hn₁⟩)
    · rw [e₁] at hd₂
      cases hd₂

theorem OwnRecordOnly.moved {track : TrackId} {m m' : Manager} (h : Moved n track m m') :
    OwnRecordOnly n m.records m'.records := by
  intro k
  rcases h.records k with e | ⟨_, d, x, hd, hn, _, _, _, e⟩
  · exact Or.inl e
  · exact Or.inr (Or.inl ⟨d, x, hd, hn, e⟩)

theorem OwnRecordOnly.insert {r : Table Tracked} {k : TrackId} {d : Tracked}
    (hd : r.get? k = some d) (hn : d.transfer = n) (x : Download) :
    OwnRecordOnly n r (r.insert k { d with record := x }) := by
  intro k'
  rw [Table.get?_insert]
  split
  · rename_i hk
    subst hk
    exact Or.inr (Or.inl ⟨d, x, hd, hn, rfl⟩)
  · exact Or.inl rfl

theorem OwnRecordOnly.prune {m : Manager} {r : Table Tracked} (hr : m.records = r)
    (ho : r.Ordered) : OwnRecordOnly n r (Downloads.prune m).records := by
  subst hr
  intro k
  rcases get?_prune ho k with e | ⟨e, d, hd, hs⟩
  · exact Or.inl e
  · exact Or.inr (Or.inr ⟨e, d, hd, Or.inr hs⟩)

end OwnRecordOnly

/-- A task run rewrites or drops its own record, and otherwise only drops settled records. -/
theorem TaskRun.ownRecordOnly {u : TransferTask} {w w' : World} (hs : Sound w.manager)
    (h : TaskRun u w w') : OwnRecordOnly u.transfer w.manager.records w'.manager.records := by
  cases h with
  | stalled m ps written hm _ hmgr _ =>
    rw [hmgr]
    show OwnRecordOnly _ _ m.records
    exact OwnRecordOnly.moved hm
  | ended m ps r d₁ hm _ hd₁ hdn _ hmgr _ _ =>
    rw [hmgr]
    exact ((OwnRecordOnly.moved hm).trans (OwnRecordOnly.insert hd₁ hdn _)).trans
      (OwnRecordOnly.prune (releaseSlot_records _ _) ((hm.ordered hs.owners.ordered).insert _ _))

/-- What one step does to the records: calls write no finished record, and a task run writes one
only for a file the cache took. -/
theorem ManagerStep.changes {w w' : World} {es : List (Nat × DownloadEvent)}
    (hs : Sound w.manager) (h : ManagerStep w w' es) :
    Changes (fun d => d.record.state = .finished → Committed w' d.request)
      w.manager.nextTransfer w.manager.records w'.manager.records := by
  cases h with
  | call c =>
    exact (Call.changes hs (Call.act_spec c w hs)).mono fun _ hne hf => absurd hf hne
  | work u _ hu =>
    obtain ⟨d, hd, hn, _, hact⟩ := hs.task_record hu
    exact TaskRun.changes hs hu (runTask_spec u w hd hn hact)
  | wake => exact Changes.refl _
  | host _ _ hm => exact hm ▸ Changes.refl _

theorem Changes.finishedCommitted {next : Nat} {w w' : World}
    (h : Changes (fun d => d.record.state = .finished → Committed w' d.request) next
      w.manager.records w'.manager.records) : FinishedCommitted w w' := by
  intro k d' hd' hf
  rcases h k d' hd' with e | ⟨hP, _⟩
  · exact Or.inl e
  · exact Or.inr (hP hf)

/-- What holds at a point of a run: the manager runs one transfer at a time, a run of any task
changes only its own record beside pruning, and every step keeps aborted records, beside
pruning and replacement, and finishes records only for files the cache took. -/
structure OneAtATime (w : World) : Prop where
  single : SingleFlight w.manager
  own : ∀ u ∈ w.manager.tasks,
    OwnRecordOnly u.transfer w.manager.records ((runTask u).run w).2.manager.records
  step : ∀ w' es, ManagerStep w w' es →
    AbortedKept w.manager.records w'.manager.records ∧ FinishedCommitted w w'

end PlaybackEngine.Downloads
