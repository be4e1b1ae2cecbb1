import PlaybackEngine.Proofs.SingleFlight

set_option autoImplicit false

/-!
# The order of download notices

Each notice a manager run sends is about one transfer (`ManagerStep` pairs it with its number).
The notices of one transfer follow a fixed course (`Course.follow`): a begin, then progress that
never falls nor passes the total, then at most one finish, error or cancel, and after a
retryable error at most one cancel. A notice about a track sent after a begin on that track
belongs to the begun transfer or a later one, so a superseded transfer falls silent before its
successor begins (`Precedes`).

The proof reads each transfer's course off the manager (`Fits`): the transfer is not yet
numbered, or it has an active record, a paused record, or neither. A step advances the course of
the transfers whose notices it sends and leaves the others `Untouched`.
-/

namespace PlaybackEngine.Downloads

/-- Where the notices of one transfer stand: none sent yet; begun on a track with a total, the
last progress at `done`; paused by a retryable error; or over. -/
inductive Course where
  | fresh
  | running (track : TrackId) (total done : Nat)
  | paused (track : TrackId)
  | closed
  deriving DecidableEq, Repr

namespace Course

/-- The course after one more notice, if the notice may come there. -/
def next : Course → DownloadEvent → Option Course
  | .fresh, .begin k t => some (.running k t 0)
  | .running k t d, .progress k' d' t' =>
    if k' = k ∧ t' = t ∧ d ≤ d' ∧ d' ≤ t then some (.running k t d') else none
  | .running k _ _, .finish k' => if k' = k then some .closed else none
  | .running k _ _, .error k' _ retryable =>
    if k' = k then some (if retryable then .paused k else .closed) else none
  | .running k _ _, .cancel k' => if k' = k then some .closed else none
  | .paused k, .cancel k' => if k' = k then some .closed else none
  | _, _ => none

/-- The course after a sequence of notices, if each may come where it does. -/
def follow : Course → List DownloadEvent → Option Course
  | c, [] => some c
  | c, e :: es => (c.next e).bind fun c' => c'.follow es

theorem follow_append (c : Course) (es es' : List DownloadEvent) :
    c.follow (es ++ es') = (c.follow es).bind fun c' => c'.follow es' := by
  induction es generalizing c with
  | nil => rfl
  | cons e es ih =>
    simp only [List.cons_append, follow]
    cases c.next e with
    | none => rfl
    | some c' => exact ih c'

example : Course.fresh.follow
    [.begin 1 10, .progress 1 4 10, .progress 1 10 10, .error 1 "reset" true, .cancel 1] =
    some .closed := by decide

example : Course.fresh.follow [.begin 1 10, .finish 1, .cancel 1] = none := by decide

example : Course.fresh.follow [.begin 1 10, .progress 1 6 10, .progress 1 4 10] = none := by
  decide

/-- Progress that rises within the total keeps a transfer running. -/
theorem follow_progress (req : DownloadRequest) {d : Nat} {ps : List Nat}
    (h : Rising d req.expectedLength ps) : ∃ d',
    (Course.running req.track req.expectedLength d).follow (progressNotices req ps) =
      some (.running req.track req.expectedLength d') := by
  induction ps generalizing d with
  | nil => exact ⟨d, rfl⟩
  | cons p ps ih =>
    obtain ⟨hp, hrest⟩ := h.of_cons
    obtain ⟨d', hd'⟩ := ih hrest
    have hnext : (Course.running req.track req.expectedLength d).next
        (.progress req.track p req.expectedLength) =
        some (.running req.track req.expectedLength p) := by
      rw [next, if_pos ⟨rfl, rfl, Nat.le_of_lt hp.1, hp.2⟩]
    refine ⟨d', ?_⟩
    simp only [progressNotices, List.map_cons, follow] at hd' ⊢
    rw [hnext, Option.bind_some]
    exact hd'

end Course

/-- The notices of transfer `n` in a log of labelled notices, in order. -/
def eventsOf (n : Nat) (L : List (Nat × DownloadEvent)) : List DownloadEvent :=
  (L.filter (·.1 = n)).map (·.2)

section eventsOf

variable {n : Nat}

@[simp] theorem eventsOf_nil : eventsOf n [] = [] := rfl

@[simp] theorem eventsOf_append (L L' : List (Nat × DownloadEvent)) :
    eventsOf n (L ++ L') = eventsOf n L ++ eventsOf n L' := by
  simp [eventsOf]

theorem eventsOf_cons (l : Nat) (e : DownloadEvent) (L : List (Nat × DownloadEvent)) :
    eventsOf n ((l, e) :: L) = if l = n then e :: eventsOf n L else eventsOf n L := by
  by_cases h : l = n <;> simp [eventsOf, h]

theorem eventsOf_of_ne {L : List (Nat × DownloadEvent)} (h : ∀ p ∈ L, p.1 ≠ n) :
    eventsOf n L = [] := by
  simp only [eventsOf, List.map_eq_nil_iff, List.filter_eq_nil_iff, decide_eq_true_eq]
  exact h

theorem eventsOf_label (es : List DownloadEvent) : eventsOf n (es.map (n, ·)) = es := by
  simp [eventsOf, List.filter_map, Function.comp_def]

end eventsOf

/-- A notice sent after a begin, on the begun track, belongs to the begun transfer or a later
one. -/
def Precedes (a b : Nat × DownloadEvent) : Prop :=
  ∀ k t, a.2 = .begin k t → b.2.track = k → a.1 ≤ b.1

/-- No record of transfer `n` is active or paused. -/
def Dormant (m : Manager) (n : Nat) : Prop :=
  ∀ k x, m.records.get? k = some x → x.transfer = n →
    x.record.state.isActive = false ∧ x.record.state.isPaused = false

/-- How the course of transfer `n` shows in the manager: a transfer that sent nothing, or whose
course is over, has no live record, and one that is over was numbered; a running one has its
active record, and has sent no progress while its task has not run; a paused one was numbered
and has its paused record or none. -/
def Fits (m : Manager) (n : Nat) : Course → Prop
  | .fresh => Dormant m n
  | .running k t d => ∃ x, m.records.get? k = some x ∧ x.transfer = n ∧
      x.request.expectedLength = t ∧ x.record.state.isActive ∧
      ∀ u ∈ m.tasks, u.transfer = n → u.phase = .waiting → d = 0
  | .paused k => n < m.nextTransfer ∧ ∀ k' x, m.records.get? k' = some x → x.transfer = n →
      k' = k ∧ x.record.state.isPaused
  | .closed => n < m.nextTransfer ∧ Dormant m n

section Fits

variable {m : Manager} {n : Nat} {c : Course} {k : TrackId} {x : Tracked}

/-- The course of a transfer with an active record runs on the record's track. -/
theorem Fits.of_active (hs : Sound m) (hf : Fits m n c) (hx : m.records.get? k = some x)
    (hn : x.transfer = n) (ha : x.record.state.isActive) :
    ∃ d, c = .running k x.request.expectedLength d ∧
      ∀ u ∈ m.tasks, u.transfer = n → u.phase = .waiting → d = 0 := by
  cases c with
  | fresh =>
    have := (hf k x hx hn).1
    rw [ha] at this
    cases this
  | running k' t d =>
    obtain ⟨y, hy, hyn, hyt, _, hwait⟩ := hf
    have hk : k' = k := hs.owners.distinct k' k y x hy hx (hyn.trans hn.symm)
    subst hk
    rw [hx, Option.some.injEq] at hy
    subst hy
    exact ⟨d, by rw [hyt], hwait⟩
  | paused k' =>
    have := (hf.2 k x hx hn).2
    rw [DownloadState.isPaused_of_isActive ha] at this
    cases this
  | closed =>
    have := (hf.2 k x hx hn).1
    rw [ha] at this
    cases this

/-- The course of a transfer with a paused record is paused on the record's track. -/
theorem Fits.of_paused (hs : Sound m) (hf : Fits m n c) (hx : m.records.get? k = some x)
    (hn : x.transfer = n) (hp : x.record.state.isPaused) : c = .paused k := by
  cases c with
  | fresh =>
    have := (hf k x hx hn).2
    rw [hp] at this
    cases this
  | running k' t d =>
    obtain ⟨y, hy, hyn, _, hya, _⟩ := hf
    have hk : k' = k := hs.owners.distinct k' k y x hy hx (hyn.trans hn.symm)
    subst hk
    rw [hx, Option.some.injEq] at hy
    subst hy
    rw [DownloadState.isPaused_of_isActive hya] at hp
    cases hp
  | paused k' => rw [(hf.2 k x hx hn).1]
  | closed =>
    have := (hf.2 k x hx hn).2
    rw [hp] at this
    cases this

/-- The transfer about to be numbered has sent nothing. -/
theorem Fits.of_next (hs : Sound m) (hf : Fits m m.nextTransfer c) : c = .fresh := by
  cases c with
  | fresh => rfl
  | running k t d =>
    obtain ⟨y, hy, hyn, _⟩ := hf
    have := hs.owners.numbered k y hy
    omega
  | paused k => exact absurd hf.1 (Nat.lt_irrefl _)
  | closed => exact absurd hf.1 (Nat.lt_irrefl _)

end Fits

/-- A change of the records that leaves transfer `n`'s alone: every record of `n` after it was
there before, and an active one stays. -/
def KeepsRecords (n : Nat) (r r' : Table Tracked) : Prop :=
  (∀ k x, r'.get? k = some x → x.transfer = n → r.get? k = some x) ∧
  ∀ k x, r.get? k = some x → x.transfer = n → x.record.state.isActive → r'.get? k = some x

/-- A change of the tasks that gives transfer `n` no task that has not run. -/
def KeepsWaiting (n : Nat) (ts ts' : List TransferTask) : Prop :=
  ∀ u ∈ ts', u.transfer = n → u.phase = .waiting →
    ∃ u' ∈ ts, u'.transfer = n ∧ u'.phase = .waiting

/-- A step that sends nothing about transfer `n` and leaves its records and tasks alone. -/
structure Untouched (n : Nat) (m m' : Manager) : Prop where
  next : m.nextTransfer ≤ m'.nextTransfer
  records : KeepsRecords n m.records m'.records
  tasks : KeepsWaiting n m.tasks m'.tasks

theorem Fits.untouched {m m' : Manager} {n : Nat} {c : Course} (hf : Fits m n c)
    (h : Untouched n m m') : Fits m' n c := by
  have dormant : Dormant m n → Dormant m' n :=
    fun hq k x hx hn => hq k x (h.records.1 k x hx hn) hn
  cases c with
  | fresh => exact dormant hf
  | running k t d =>
    obtain ⟨x, hx, hn, ht, ha, hwait⟩ := hf
    refine ⟨x, h.records.2 k x hx hn ha, hn, ht, ha, fun u hu hun hw => ?_⟩
    obtain ⟨u', hu', hun', hw'⟩ := h.tasks u hu hun hw
    exact hwait u' hu' hun' hw'
  | paused k =>
    exact ⟨Nat.lt_of_lt_of_le hf.1 h.next, fun k' x hx hn => hf.2 k' x (h.records.1 k' x hx hn) hn⟩
  | closed => exact ⟨Nat.lt_of_lt_of_le hf.1 h.next, dormant hf.2⟩

/-- A step from `m` to `m'` sending the labelled notices `es` advances the course of every
transfer as the manager shows it. -/
def Advance (m m' : Manager) (es : List (Nat × DownloadEvent)) : Prop :=
  ∀ n c, Fits m n c → ∃ c', c.follow (eventsOf n es) = some c' ∧ Fits m' n c'

theorem Advance.trans {m₁ m₂ m₃ : Manager} {es₁ es₂ : List (Nat × DownloadEvent)}
    (h₁ : Advance m₁ m₂ es₁) (h₂ : Advance m₂ m₃ es₂) : Advance m₁ m₃ (es₁ ++ es₂) := by
  intro n c hf
  obtain ⟨c₁, hc₁, hf₁⟩ := h₁ n c hf
  obtain ⟨c₂, hc₂, hf₂⟩ := h₂ n c₁ hf₁
  refine ⟨c₂, ?_, hf₂⟩
  rw [eventsOf_append, Course.follow_append, hc₁]
  exact hc₂

theorem Advance.of_untouched {m m' : Manager} (h : ∀ n, Untouched n m m') : Advance m m' [] :=
  fun n c hf => ⟨c, rfl, hf.untouched (h n)⟩

section Keeps

variable {n : Nat}

theorem KeepsRecords.refl (r : Table Tracked) : KeepsRecords n r r :=
  ⟨fun _ _ hx _ => hx, fun _ _ hx _ _ => hx⟩

theorem KeepsRecords.trans {r₁ r₂ r₃ : Table Tracked} (h₁ : KeepsRecords n r₁ r₂)
    (h₂ : KeepsRecords n r₂ r₃) : KeepsRecords n r₁ r₃ :=
  ⟨fun k x hx hn => h₁.1 k x (h₂.1 k x hx hn) hn,
    fun k x hx hn ha => h₂.2 k x (h₁.2 k x hx hn ha) hn ha⟩

/-- Writing a record of another transfer where no active record of `n` is. -/
theorem KeepsRecords.insert {r : Table Tracked} {k : TrackId} {y : Tracked}
    (hy : y.transfer ≠ n)
    (hold : ∀ x, r.get? k = some x → x.transfer = n → x.record.state.isActive = false) :
    KeepsRecords n r (r.insert k y) := by
  refine ⟨fun k' x hx hn => ?_, fun k' x hx hn ha => ?_⟩
  · rw [Table.get?_insert] at hx
    split at hx
    · rw [← Option.some.inj hx] at hn
      exact absurd hn hy
    · exact hx
  · rw [Table.get?_insert]
    split
    · rename_i hk
      subst hk
      rw [hold x hx hn] at ha
      cases ha
    · exact hx

theorem KeepsRecords.prune {m : Manager} {r : Table Tracked} (hr : m.records = r)
    (ho : r.Ordered) : KeepsRecords n r (Downloads.prune m).records := by
  subst hr
  refine ⟨fun k x hx _ => ?_, fun k x hx _ ha => ?_⟩
  · rcases get?_prune ho k with e | ⟨e, _⟩
    · exact e ▸ hx
    · rw [e] at hx
      cases hx
  · rcases get?_prune ho k with e | ⟨_, d, hd, hset⟩
    · exact e.trans hx
    · rw [hx, Option.some.injEq] at hd
      subst hd
      -- pruning drops finished and aborted records, never active ones
      simp only [isSettled, Bool.or_eq_true, beq_iff_eq] at hset
      rcases hset with h | h <;> rw [h] at ha <;> cases ha

theorem KeepsRecords.moved {n₀ : Nat} {track : TrackId} {m m' : Manager}
    (h : Moved n₀ track m m') (hn : n₀ ≠ n) : KeepsRecords n m.records m'.records := by
  refine ⟨fun k x hx hxn => ?_, fun k x hx hxn _ => ?_⟩
  · rcases h.records k with e | ⟨_, d, r, _, hd, _, _, _, e⟩
    · exact e ▸ hx
    · rw [e, Option.some.injEq] at hx
      rw [← hx] at hxn
      exact absurd (hd.symm.trans hxn) hn
  · rcases h.records k with e | ⟨_, d, r, hd', hd, _, _, _, _⟩
    · exact e.trans hx
    · rw [hx, Option.some.injEq] at hd'
      subst hd'
      exact absurd (hd.symm.trans hxn) hn

theorem KeepsWaiting.of_subset {ts ts' : List TransferTask} (h : ∀ u ∈ ts', u ∈ ts) :
    KeepsWaiting n ts ts' := fun u hu hn hw => ⟨u, h u hu, hn, hw⟩

theorem KeepsWaiting.stall {n₀ : Nat} (hn : n₀ ≠ n) (written : Nat) (ts : List TransferTask) :
    KeepsWaiting n ts (ts.map (stallTask n₀ written)) := by
  intro u hu hun hw
  obtain ⟨u', hu', rfl⟩ := List.mem_map.mp hu
  have hne : u'.transfer ≠ n₀ := fun h =>
    hn (h.symm.trans ((stallTask_transfer n₀ written u').symm.trans hun))
  have hsame : stallTask n₀ written u' = u' := by
    unfold stallTask
    rw [if_neg hne]
  rw [hsame] at hun hw
  exact ⟨u', hu', hun, hw⟩

end Keeps

theorem Untouched.refl (n : Nat) (m : Manager) : Untouched n m m :=
  ⟨Nat.le_refl _, KeepsRecords.refl _, KeepsWaiting.of_subset fun _ h => h⟩

/-- Pruning only drops records. -/
theorem get?_prune_releaseSlot {m : Manager} (ho : m.records.Ordered) (n : Nat) {k : TrackId}
    {y : Tracked} (hy : (prune (releaseSlot m n)).records.get? k = some y) :
    m.records.get? k = some y := by
  have ho' : (releaseSlot m n).records.Ordered := by rwa [releaseSlot_records]
  rcases get?_prune ho' k with e | ⟨e, _⟩
  · rwa [e, releaseSlot_records] at hy
  · rw [e] at hy
    cases hy

/-- A call's cancel of a live record closes its transfer's course and leaves the others. -/
theorem advance_cancel {m m' : Manager} (hs : Sound m) {k : TrackId} {d : Tracked}
    (hd : m.records.get? k = some d)
    (hlive : d.record.state.isActive ∨ d.record.state.isPaused)
    (hrec : m'.records = m.records.insert k (markAborted d))
    (hnext : m'.nextTransfer = m.nextTransfer) (htasks : ∀ u ∈ m'.tasks, u ∈ m.tasks) :
    Advance m m' [(d.transfer, .cancel k)] := by
  intro n c hf
  rw [eventsOf_cons, eventsOf_nil]
  by_cases hn : d.transfer = n
  · subst hn
    rw [if_pos rfl]
    have hclosed : Fits m' d.transfer .closed := by
      refine ⟨by rw [hnext]; exact hs.owners.numbered k d hd, fun k' x hx hxn => ?_⟩
      rw [hrec, Table.get?_insert] at hx
      split at hx
      · rw [← Option.some.inj hx]
        exact ⟨rfl, rfl⟩
      · rename_i hk
        exact absurd (hs.owners.distinct k k' d x hd hx hxn.symm) hk
    refine ⟨.closed, ?_, hclosed⟩
    rcases hlive with ha | hp
    · obtain ⟨t, rfl, -⟩ := hf.of_active hs hd rfl ha
      simp [Course.follow, Course.next]
    · rw [hf.of_paused hs hd rfl hp]
      simp [Course.follow, Course.next]
  · rw [if_neg hn]
    refine ⟨c, rfl, hf.untouched ⟨Nat.le_of_eq hnext.symm, ?_, KeepsWaiting.of_subset htasks⟩⟩
    rw [hrec]
    refine KeepsRecords.insert hn fun x hx hxn => ?_
    rw [hd, Option.some.injEq] at hx
    subst hx
    exact absurd hxn hn

/-- A start on an idle manager begins the course of the transfer it numbers and leaves the
others. -/
theorem advance_begin {m : Manager} (hs : Sound m) (hidle : m.active = none)
    (req : DownloadRequest) :
    Advance m (startedManager req m.nextTransfer m)
      [(m.nextTransfer, .begin req.track req.expectedLength)] := by
  intro n c hf
  rw [eventsOf_cons, eventsOf_nil]
  by_cases hn : m.nextTransfer = n
  · subst hn
    rw [if_pos rfl, hf.of_next hs]
    exact ⟨.running req.track req.expectedLength 0, rfl, _,
      startedManager_get?_self hs.owners.ordered req _, rfl, rfl, rfl, fun _ _ _ _ => rfl⟩
  · rw [if_neg hn]
    refine ⟨c, rfl, hf.untouched ⟨?_, ⟨fun k x hx hxn => ?_, fun k x hx _ ha => ?_⟩, ?_⟩⟩
    · simp [Downloads.startedManager, recorded]
    · have hx' := startedManager_get? hs.owners.ordered req _ hx
      simp only [recorded, Table.get?_insert] at hx'
      split at hx'
      · rw [← Option.some.inj hx'] at hxn
        exact absurd hxn hn
      · exact hx'
    · rw [hs.inactive_of_idle hidle hx] at ha
      cases ha
    · intro u hu hun _
      simp only [Downloads.startedManager, List.mem_singleton] at hu
      subst hu
      exact absurd hun hn

/-- What a step from `m` to `m'` that sends the labelled notices `es` keeps of their order: it
advances every transfer's course, numbers no transfer twice, sends its notices in order, begins
only the transfer it numbers, which then owns its track's record, and labels any other notice
with the transfer of its track's record. -/
structure Emits (m m' : Manager) (es : List (Nat × DownloadEvent)) : Prop where
  advance : Advance m m' es
  next : m.nextTransfer ≤ m'.nextTransfer
  order : es.Pairwise Precedes
  begins : ∀ p ∈ es, ∀ k t, p.2 = .begin k t → p.1 = m.nextTransfer ∧ p.1 < m'.nextTransfer ∧
    ∀ x, m'.records.get? k = some x → p.1 ≤ x.transfer
  others : ∀ p ∈ es, (∀ k t, p.2 ≠ .begin k t) →
    ∃ x, m.records.get? p.2.track = some x ∧ x.transfer = p.1

theorem Emits.none (m : Manager) : Emits m m [] where
  advance := Advance.of_untouched fun n => Untouched.refl n m
  next := Nat.le_refl _
  order := List.Pairwise.nil
  begins := fun _ h => nomatch h
  others := fun _ h => nomatch h

theorem Emits.cancel {m m' : Manager} (hs : Sound m) {k : TrackId} {d : Tracked}
    (hd : m.records.get? k = some d)
    (hlive : d.record.state.isActive ∨ d.record.state.isPaused)
    (hrec : m'.records = m.records.insert k (markAborted d))
    (hnext : m'.nextTransfer = m.nextTransfer) (htasks : ∀ u ∈ m'.tasks, u ∈ m.tasks) :
    Emits m m' [(d.transfer, .cancel k)] where
  advance := advance_cancel hs hd hlive hrec hnext htasks
  next := Nat.le_of_eq hnext.symm
  order := List.pairwise_singleton _ _
  begins p hp k t he := by
    rw [List.mem_singleton] at hp
    subst hp
    cases he
  others p hp _ := by
    rw [List.mem_singleton] at hp
    subst hp
    exact ⟨d, hd, rfl⟩

/-- The labelled notices a call sends, from its notices `q` to `q'`. -/
theorem sent_push (m : Manager) (q : Notices) (e : DownloadEvent) :
    ((q.push e).toList.drop q.toList.length).map (fun e => (concerns m e, e)) =
      [(concerns m e, e)] := by
  simp

theorem sent_push_push (m : Manager) (q : Notices) (e e' : DownloadEvent) :
    (((q.push e).push e').toList.drop q.toList.length).map (fun e => (concerns m e, e)) =
      [(concerns m e, e), (concerns m e', e')] := by
  simp

theorem concerns_cancel {m : Manager} {k : TrackId} {d : Tracked}
    (hd : m.records.get? k = some d) : concerns m (.cancel k) = d.transfer := by
  simp [concerns, DownloadEvent.track, hd]

theorem AllStopped.emits {m m' : Manager} {q q' : Notices} (hs : Sound m)
    (h : AllStopped m q m' q') :
    Emits m m' ((q'.toList.drop q.toList.length).map fun e => (concerns m e, e)) := by
  cases h with
  | idle => simpa using Emits.none m
  | aborted k d _ hd hda =>
    rw [sent_push, concerns_cancel hd]
    exact Emits.cancel hs hd (Or.inl hda) rfl rfl fun _ h => absurd h List.not_mem_nil

theorem PausedDropped.emits {track : TrackId} {m m' : Manager} {q q' : Notices} (hs : Sound m)
    (h : PausedDropped track m q m' q') :
    Emits m m' ((q'.toList.drop q.toList.length).map fun e => (concerns m e, e)) := by
  cases h with
  | idle => simpa using Emits.none m
  | dropped d hd hp =>
    rw [sent_push, concerns_cancel hd]
    exact Emits.cancel hs hd (Or.inr hp) rfl rfl fun _ h => h

/-- The begin of a start on an idle manager, as the last notice of its call. -/
theorem begins_started {m : Manager} (hs : Sound m) (req : DownloadRequest)
    (es : List (Nat × DownloadEvent)) (hes : ∀ p ∈ es, ∀ k t, p.2 ≠ .begin k t) :
    ∀ p ∈ es ++ [(m.nextTransfer, .begin req.track req.expectedLength)], ∀ k t,
      p.2 = .begin k t → p.1 = m.nextTransfer ∧
        p.1 < (startedManager req m.nextTransfer m).nextTransfer ∧
        ∀ x, (startedManager req m.nextTransfer m).records.get? k = some x → p.1 ≤ x.transfer := by
  intro p hp k t he
  rcases List.mem_append.mp hp with hp | hp
  · exact absurd he (hes p hp k t)
  · rw [List.mem_singleton] at hp
    subst hp
    cases he
    refine ⟨rfl, by simp [Downloads.startedManager, recorded], fun x hx => ?_⟩
    rw [startedManager_get?_self hs.owners.ordered, Option.some.injEq] at hx
    subst hx
    exact Nat.le_refl _

theorem Started.emits {req : DownloadRequest} {m m' : Manager} {q q' : Notices} (hs : Sound m)
    (h : Started req m q m' q') :
    Emits m m' ((q'.toList.drop q.toList.length).map fun e => (concerns m e, e)) := by
  obtain ⟨m₁, q₁, h₁, rfl, rfl⟩ := h
  cases h₁ with
  | idle ha =>
    rw [sent_push]
    exact {
      advance := advance_begin hs ha req
      next := by simp [Downloads.startedManager, recorded]
      order := List.pairwise_singleton _ _
      begins := begins_started hs req [] (fun _ h => nomatch h)
      others := fun p hp hne => by
        rw [List.mem_singleton] at hp
        subst hp
        exact absurd rfl (hne _ _) }
  | aborted k d ha hd hda =>
    have hs₁ := hs.allStopped (AllStopped.aborted k d ha hd hda (q := q))
    have hcancel : Advance m
        { m with
          active := none
          tasks := []
          records := m.records.insert k (markAborted d) }
        [(d.transfer, .cancel k)] :=
      advance_cancel hs hd (Or.inl hda) rfl rfl fun _ h => absurd h List.not_mem_nil
    rw [sent_push_push, concerns_cancel hd]
    exact {
      advance := hcancel.trans (advance_begin hs₁ rfl req)
      next := by simp [Downloads.startedManager, recorded]
      order := by
        refine List.pairwise_pair.mpr fun k t he => ?_
        cases he
      begins := begins_started hs₁ req [(d.transfer, .cancel k)]
        (fun p hp k t he => by
          rw [List.mem_singleton] at hp
          subst hp
          cases he)
      others := fun p hp hne => by
        simp only [List.mem_cons, List.not_mem_nil, or_false] at hp
        rcases hp with rfl | rfl
        · exact ⟨d, hd, rfl⟩
        · exact absurd rfl (hne _ _) }

theorem Call.emits {c : Call} {m m' : Manager} {q q' : Notices} (hs : Sound m)
    (h : c.Effect m q m' q') :
    Emits m m' ((q'.toList.drop q.toList.length).map fun e => (concerns m e, e)) := by
  cases c with
  | start req => exact Started.emits hs h
  | stop track =>
    rcases h with ⟨_, h⟩ | ⟨_, h⟩
    · exact AllStopped.emits hs h
    · exact PausedDropped.emits hs h
  | stopAll => exact AllStopped.emits hs h
  | resume =>
    rcases h with ⟨rfl, rfl⟩ | ⟨_, _, _, h⟩
    · simpa using Emits.none _
    · exact Started.emits hs h

theorem sent_eq {w w' : World} {es : List DownloadEvent}
    (h : w'.notices.toList = w.notices.toList ++ es) : sent w w' = es := by
  simp [sent, h]

/-- A task run's notices are about its own track, and none is a begin. -/
theorem TaskRun.sent_track {u : TransferTask} {w w' : World} (h : TaskRun u w w') :
    ∀ e ∈ sent w w', e.track = u.request.track ∧ ∀ k t, e ≠ .begin k t := by
  have hprogress : ∀ ps, ∀ e ∈ progressNotices u.request ps,
      e.track = u.request.track ∧ ∀ k t, e ≠ .begin k t := by
    intro ps e he
    obtain ⟨p, _, rfl⟩ := List.mem_map.mp he
    exact ⟨rfl, fun _ _ h => nomatch h⟩
  cases h with
  | stalled m ps written _ _ _ hn _ =>
    rw [sent_eq hn]
    exact hprogress ps
  | ended m ps r d _ _ _ _ _ _ hn _ _ =>
    rw [sent_eq (by rw [hn, List.append_assoc])]
    intro e he
    rcases List.mem_append.mp he with he | he
    · exact hprogress ps e he
    · rw [List.mem_singleton] at he
      subst he
      cases r <;> exact ⟨rfl, fun _ _ h => nomatch h⟩

/-- A task run leaves the records and the waiting tasks of every other transfer alone. -/
theorem TaskRun.untouched {u : TransferTask} {w w' : World} (hs : Sound w.manager) {n : Nat}
    (hn : u.transfer ≠ n) (h : TaskRun u w w') : Untouched n w.manager w'.manager := by
  cases h with
  | stalled m ps written hm _ hmgr _ _ =>
    rw [hmgr]
    refine ⟨Nat.le_of_eq hm.nextTransfer.symm,
      (KeepsRecords.moved hm hn : KeepsRecords n w.manager.records m.records), ?_⟩
    show KeepsWaiting n w.manager.tasks (m.tasks.map (stallTask u.transfer written))
    rw [hm.tasks]
    exact KeepsWaiting.stall hn written _
  | ended m ps r d₁ hm _ hd₁ hdn _ hmgr _ _ _ =>
    rw [hmgr]
    refine ⟨by simp [hm.nextTransfer], ?_, ?_⟩
    · have hins : KeepsRecords n m.records (m.records.insert u.request.track
          { d₁ with record := settled u.request r d₁.record }) :=
        KeepsRecords.insert (fun h => hn (hdn.symm.trans h)) fun y hy hyn => by
          rw [hd₁, Option.some.injEq] at hy
          subst hy
          exact absurd (hdn.symm.trans hyn) hn
      exact ((KeepsRecords.moved hm hn).trans hins).trans
        (KeepsRecords.prune (releaseSlot_records _ _) ((hm.ordered hs.owners.ordered).insert _ _))
    · simp only [prune_tasks, releaseSlot_tasks]
      exact KeepsWaiting.of_subset fun u' hu' => hm.tasks ▸ (List.mem_filter.mp hu').1

/-- Once a transfer has settled its record `e` on its own track, freed the slot and pruned, `e`
is the only record of the transfer left. -/
theorem Moved.only_settled_record {n : Nat} {track : TrackId} {m₀ m m₁ : Manager}
    (hs : Sound m₀) {x : Tracked} (hx : m₀.records.get? track = some x) (hxn : x.transfer = n)
    (hm : Moved n track m₀ m) {e : Tracked} (hrec : m₁.records = m.records.insert track e)
    {k : TrackId} {y : Tracked} (hy : (prune (releaseSlot m₁ n)).records.get? k = some y)
    (hyn : y.transfer = n) : k = track ∧ y = e := by
  have hy' := get?_prune_releaseSlot (hrec ▸ (hm.ordered hs.owners.ordered).insert _ _) _ hy
  rw [hrec, Table.get?_insert] at hy'
  split at hy'
  · rename_i hk
    exact ⟨hk.symm, (Option.some.inj hy').symm⟩
  · rename_i hk
    -- any other record of the transfer was there before, on another track than its own
    obtain ⟨z, hz, hzn, _⟩ := hm.back hy'
    exact absurd (hs.owners.distinct _ _ z x hz hx (hzn.trans (hyn.trans hxn.symm))).symm hk

/-- A run of a ready task carries its own transfer's course through its progress to its end, if
it ends. -/
theorem TaskRun.advance_own {u : TransferTask} {w w' : World} (hs : Sound w.manager)
    (hu : u ∈ w.manager.tasks) (hready : isReady u = true) (h : TaskRun u w w') {c : Course}
    (hf : Fits w.manager u.transfer c) :
    ∃ c', c.follow (sent w w') = some c' ∧ Fits w'.manager u.transfer c' := by
  obtain ⟨x, hx, hxn, hxreq, hxa⟩ := hs.task_record hu
  obtain ⟨d, rfl, hwait⟩ := hf.of_active hs hx hxn hxa
  rw [hxreq]
  -- a ready task has not run yet, or reads the rest of a stalled body without progress
  have hrise : ∀ ps, Rising 0 u.request.expectedLength ps →
      (∀ written, u.phase = .unstalled written → ps = []) →
      Rising d u.request.expectedLength ps := by
    intro ps hps hq
    cases hph : u.phase with
    | waiting =>
      rw [hwait u hu rfl hph]
      exact hps
    | stalled _ => simp [isReady, hph] at hready
    | unstalled written =>
      rw [hq written hph]
      exact Rising.nil _ _
  cases h with
  | stalled m ps written hm hps hmgr hn hq =>
    obtain ⟨d', hd'⟩ := Course.follow_progress u.request (hrise ps hps hq)
    rw [sent_eq hn]
    refine ⟨_, hd', ?_⟩
    obtain ⟨x', hx', hxn', hreq', _, ha'⟩ := hm.own hx hxn hxa
    rw [hmgr]
    refine ⟨x', hx', hxn', by rw [hreq', hxreq], ha', fun u' hu' hun hw => ?_⟩
    obtain ⟨u'', _, rfl⟩ := List.mem_map.mp hu'
    -- the run's own task now waits on its stalled body
    rw [stallTask_transfer] at hun
    simp [stallTask, hun] at hw
  | ended m ps r d₁ hm hps hd₁ hdn hda hmgr hn hr hq =>
    obtain ⟨d', hd'⟩ := Course.follow_progress u.request (hrise ps hps hq)
    rw [sent_eq (by rw [hn, List.append_assoc]), Course.follow_append, hd', Option.bind_some]
    have hlt : u.transfer < w'.manager.nextTransfer := by
      rw [hmgr, prune_nextTransfer, releaseSlot_nextTransfer, hm.nextTransfer, ← hxn]
      exact hs.owners.numbered _ x hx
    -- after the run, transfer `u.transfer` has at most its settled record
    have hrec : ∀ k y, w'.manager.records.get? k = some y → y.transfer = u.transfer →
        k = u.request.track ∧ y.record.state = (settled u.request r d₁.record).state := by
      intro k y hy hyn
      rw [hmgr] at hy
      obtain ⟨hk, rfl⟩ := hm.only_settled_record hs hx hxn rfl hy hyn
      exact ⟨hk, rfl⟩
    cases r with
    | ok v =>
      refine ⟨.closed, by simp [Course.follow, Course.next, endNotice], hlt, fun k y hy hyn => ?_⟩
      rw [(hrec k y hy hyn).2]
      exact ⟨rfl, rfl⟩
    | error f =>
      have hfail : f.state.isFailure := hr
      by_cases hp : f.state.isPaused
      · refine ⟨.paused u.request.track, by simp [Course.follow, Course.next, endNotice, hp],
          hlt, fun k y hy hyn => ⟨(hrec k y hy hyn).1, ?_⟩⟩
        rw [(hrec k y hy hyn).2]
        exact hp
      · refine ⟨.closed, by simp [Course.follow, Course.next, endNotice, hp], hlt,
          fun k y hy hyn => ?_⟩
        rw [(hrec k y hy hyn).2]
        exact ⟨DownloadState.isActive_of_isFailure hfail, Bool.eq_false_iff.mpr hp⟩

/-- A run of a ready task carries its transfer's course through its progress to its end, if it
ends, and leaves every other transfer. -/
theorem TaskRun.advance {u : TransferTask} {w w' : World} (hs : Sound w.manager)
    (hu : u ∈ w.manager.tasks) (hready : isReady u = true) (h : TaskRun u w w') :
    Advance w.manager w'.manager ((sent w w').map (u.transfer, ·)) := by
  intro n c hf
  by_cases hn : u.transfer = n
  · subst hn
    rw [eventsOf_label]
    exact h.advance_own hs hu hready hf
  · rw [eventsOf_of_ne fun p hp => by
      obtain ⟨e, _, rfl⟩ := List.mem_map.mp hp
      exact hn]
    exact ⟨c, rfl, hf.untouched (h.untouched hs hn)⟩

theorem TaskRun.nextTransfer {u : TransferTask} {w w' : World} (h : TaskRun u w w') :
    w'.manager.nextTransfer = w.manager.nextTransfer := by
  cases h with
  | stalled m ps written hm _ hmgr _ _ =>
    rw [hmgr]
    exact hm.nextTransfer
  | ended m ps r d₁ hm _ _ _ _ hmgr _ _ _ =>
    rw [hmgr, prune_nextTransfer, releaseSlot_nextTransfer]
    exact hm.nextTransfer

theorem TaskRun.emits {u : TransferTask} {w w' : World} (hs : Sound w.manager)
    (hu : u ∈ w.manager.tasks) (hready : isReady u = true) (h : TaskRun u w w') :
    Emits w.manager w'.manager ((sent w w').map (u.transfer, ·)) where
  advance := h.advance hs hu hready
  next := Nat.le_of_eq h.nextTransfer.symm
  order := List.pairwise_of_forall_mem_list fun a ha _ _ k t he => by
    obtain ⟨e, he', rfl⟩ := List.mem_map.mp ha
    exact absurd he ((h.sent_track e he').2 k t)
  begins p hp k t he := by
    obtain ⟨e, he', rfl⟩ := List.mem_map.mp hp
    exact absurd he ((h.sent_track e he').2 k t)
  others p hp _ := by
    obtain ⟨e, he', rfl⟩ := List.mem_map.mp hp
    obtain ⟨x, hx, hxn, -, -⟩ := hs.task_record hu
    refine ⟨x, ?_, hxn⟩
    rw [(h.sent_track e he').1]
    exact hx

theorem ManagerStep.emits {w w' : World} {es : List (Nat × DownloadEvent)} (hs : Sound w.manager)
    (h : ManagerStep w w' es) : Emits w.manager w'.manager es := by
  cases h with
  | call c => exact Call.emits hs (Call.act_spec c w hs)
  | work u _ hu hr =>
    obtain ⟨d, hd, hn, _, hact⟩ := hs.task_record hu
    exact TaskRun.emits hs hu hr (runTask_spec u w hd hn hact)
  | wake =>
    refine {
      advance := Advance.of_untouched fun n => ⟨Nat.le_refl _, KeepsRecords.refl _, ?_⟩
      next := Nat.le_refl _
      order := List.Pairwise.nil
      begins := fun _ h => nomatch h
      others := fun _ h => nomatch h }
    -- waking turns stalled tasks into unstalled ones and leaves the others as they are
    intro u hu hun hw
    obtain ⟨u', hu', rfl⟩ := List.mem_map.mp hu
    cases hph : u'.phase with
    | waiting =>
      simp only [hph] at hun
      exact ⟨u', hu', hun, hph⟩
    | stalled k => simp [hph] at hw
    | unstalled k => simp [hph] at hw
  | host _ _ hm =>
    rw [hm]
    exact Emits.none _

/-- What a run's log and its manager keep: every transfer's notices so far follow a course the
manager shows; every begin in the log was numbered, and its track's record belongs to the begun
transfer or a later one; and the log is in order. -/
structure InOrder (w : World) (L : List (Nat × DownloadEvent)) : Prop where
  fits : ∀ n, ∃ c, Course.fresh.follow (eventsOf n L) = some c ∧ Fits w.manager n c
  begun : ∀ n k t, (n, .begin k t) ∈ L → n < w.manager.nextTransfer ∧
    ∀ x, w.manager.records.get? k = some x → n ≤ x.transfer
  order : L.Pairwise Precedes

theorem InOrder.initial {w : World}
    (hm : w.manager.records = [] ∧ w.manager.active = none ∧ w.manager.tasks = []) :
    InOrder w [] where
  fits _ := ⟨.fresh, rfl, fun k x hx => by
    rw [hm.1, Table.get?_nil] at hx
    cases hx⟩
  begun _ _ _ h := nomatch h
  order := List.Pairwise.nil

theorem InOrder.step {w w' : World} {L es : List (Nat × DownloadEvent)} (hs : Sound w.manager)
    (hI : InOrder w L) (h : ManagerStep w w' es) : InOrder w' (L ++ es) := by
  have he := ManagerStep.emits hs h
  have hc := ManagerStep.changes hs h
  refine ⟨fun n => ?_, fun n k t hb => ?_, ?_⟩
  · obtain ⟨c, hc₁, hf⟩ := hI.fits n
    obtain ⟨c', hc', hf'⟩ := he.advance n c hf
    refine ⟨c', ?_, hf'⟩
    rw [eventsOf_append, Course.follow_append, hc₁]
    exact hc'
  · rcases List.mem_append.mp hb with hb | hb
    · -- an older begin: its track's record is kept, rewritten in its state, or newer
      obtain ⟨hlt, hown⟩ := hI.begun n k t hb
      refine ⟨Nat.lt_of_lt_of_le hlt he.next, fun x hx => ?_⟩
      rcases hc k x hx with e | ⟨_, ⟨y, hy, hyx, _⟩ | hfresh⟩
      · exact hown x e
      · exact hyx ▸ hown y hy
      · exact Nat.le_trans (Nat.le_of_lt hlt) hfresh
    · exact (he.begins _ hb k t rfl).2
  · refine List.pairwise_append.mpr ⟨hI.order, he.order, ?_⟩
    rintro ⟨n, e⟩ ha ⟨l, e'⟩ hb k t hk htrack
    simp only at hk htrack ⊢
    subst hk
    obtain ⟨hlt, hown⟩ := hI.begun n k t ha
    by_cases hbeg : ∃ k' t', e' = .begin k' t'
    · obtain ⟨k', t', rfl⟩ := hbeg
      have hl : l = w.manager.nextTransfer := (he.begins _ hb k' t' rfl).1
      rw [hl]
      exact Nat.le_of_lt hlt
    · obtain ⟨x, hx, hxl⟩ := he.others _ hb fun k' t' h => hbeg ⟨k', t', h⟩
      simp only at hx hxl
      rw [htrack] at hx
      exact hxl ▸ hown x hx

theorem ManagerRun.inOrder {w : World} {L : List (Nat × DownloadEvent)} (h : ManagerRun w L) :
    InOrder w L := by
  induction h with
  | start w hm => exact InOrder.initial hm
  | step hr hs ih => exact ih.step hr.sound hs

end PlaybackEngine.Downloads
