import Mathlib
import PlaybackEngine.Proofs.Frames
import PlaybackEngine.Proofs.Table

set_option autoImplicit false

/-!
# What a transfer does

A transfer task runs until its body ends or stalls. Run from a world where its own record is
active, it changes that record only and keeps it active (`Moved`), sends progress notices whose
byte counts rise strictly and never pass the expected length, fails only into a terminal state,
and ends well only once the cache has taken its file (`Committed`).
-/

namespace PlaybackEngine

@[simp] theorem Notices.toList_push (q : Notices) (e : DownloadEvent) :
    (q.push e).toList = q.toList ++ [e] := by
  simp [Notices.toList, Notices.push]

theorem Catalog.lookup_markCached (c : Catalog) (key : CacheKey) (path : String) (at_ : Int)
    (id : TrackId) :
    (c.markCached key path at_).lookup id = (c.lookup id).map fun t =>
      if t.key = key then { t with cachedPath := some path, cachedAt := some at_ } else t := by
  induction c with
  | nil => rfl
  | cons e rest ih =>
    obtain ⟨k, t⟩ := e
    unfold Catalog.lookup Catalog.markCached at *
    by_cases hkey : t.key = key <;> by_cases hk : k = id <;> simp [hkey, hk, ih]

/-- A state a transfer fails into: a failure for good, or a pause. -/
def DownloadState.isFailure (s : DownloadState) : Bool := s.isPermanentFailure || s.isPaused

theorem DownloadState.isActive_of_isFailure {s : DownloadState} (h : s.isFailure) :
    s.isActive = false := by
  cases s <;> first | rfl | cases h

theorem DownloadState.isPaused_of_isActive {s : DownloadState} (h : s.isActive) :
    s.isPaused = false := by
  cases s <;> first | rfl | cases h

end PlaybackEngine

namespace PlaybackEngine.Downloads

open World

/-- The cache took a request's file: the file at its destination has the expected length, and the
catalog names it for every track of the request's content. -/
def Committed (w : World) (req : DownloadRequest) : Prop :=
  (∃ len, w.volume.fileLen req.destination = .ok len ∧ len.getD 0 = req.expectedLength) ∧
  ∀ id t, w.catalog.lookup id = some t → t.key = req.key → t.cachedPath = some req.destination

theorem Committed.of_eq {w w' : World} {req : DownloadRequest} (h : Committed w req)
    (hv : w'.volume = w.volume) (hc : w'.catalog = w.catalog) : Committed w' req := by
  rw [Committed, hv, hc]
  exact h

theorem commitStorage_committed (req : DownloadRequest) (w : World) :
    Holds (Cache.commitStorage req.key req.destination req.expectedLength).run
      (fun r w' => r = .ok () → Committed w' req) w := by
  simp only [Cache.commitStorage, attemptInSpan_run, holds_inSpan, holds_attempt_bind,
    holds_fileLen]
  rcases hlen : w.volume.fileLen req.destination with e | len
  · intro h
    cases h
  · simp only [Except.mapError]
    split
    · simp [holds_log]
    · rename_i hsize
      simp only [holds_attempt_bind, holds_liftM, holds_readClock, holds_attempt_modify, holds_log]
      intro _
      refine ⟨⟨len, hlen, Decidable.of_not_not hsize⟩, fun id t ht hkey => ?_⟩
      simp only [Catalog.lookup_markCached, Option.map_eq_some_iff] at ht
      obtain ⟨t₀, _, rfl⟩ := ht
      by_cases hk : t₀.key = req.key
      · simp only [hk, if_true]
      · simp only [hk, if_false] at hkey

theorem owned?_eq_some {m : Manager} {track : TrackId} {n : Nat} {t : Tracked} :
    owned? m track n = some t ↔
      m.records.get? track = some t ∧ t.transfer = n ∧ t.record.state ≠ .aborted := by
  unfold owned?
  cases m.records.get? track with
  | none => simp
  | some t' =>
    simp only [Bool.and_eq_true, decide_eq_true_eq, bne_iff_ne, ne_eq,
      Option.ite_none_right_eq_some, Option.some.injEq]
    constructor
    · rintro ⟨hc, rfl⟩
      exact ⟨rfl, hc⟩
    · rintro ⟨rfl, hc⟩
      exact ⟨hc, rfl⟩

/-- Transfer `n`'s record of `track`, if there is one, is active. -/
def OwnActive (n : Nat) (track : TrackId) (m : Manager) : Prop :=
  ∀ d, m.records.get? track = some d → d.transfer = n → d.record.state.isActive

/-- What transfer `n` may do to the manager while it runs for `track`: change its own record,
keeping the record's track and keeping it active, and nothing else. -/
structure Moved (n : Nat) (track : TrackId) (m m' : Manager) : Prop where
  settings : m'.settings = m.settings
  active : m'.active = m.active
  nextTransfer : m'.nextTransfer = m.nextTransfer
  tasks : m'.tasks = m.tasks
  ordered : m.records.Ordered → m'.records.Ordered
  records : ∀ k, m'.records.get? k = m.records.get? k ∨
    k = track ∧ ∃ d r, m.records.get? k = some d ∧ d.transfer = n ∧ d.record.state.isActive ∧
      r.track = d.record.track ∧ r.state.isActive ∧ m'.records.get? k = some { d with record := r }

theorem Moved.refl (n : Nat) (track : TrackId) (m : Manager) : Moved n track m m :=
  ⟨rfl, rfl, rfl, rfl, id, fun _ => Or.inl rfl⟩

theorem Moved.trans {n : Nat} {track : TrackId} {m₁ m₂ m₃ : Manager} (h₁ : Moved n track m₁ m₂)
    (h₂ : Moved n track m₂ m₃) : Moved n track m₁ m₃ where
  settings := h₂.settings.trans h₁.settings
  active := h₂.active.trans h₁.active
  nextTransfer := h₂.nextTransfer.trans h₁.nextTransfer
  tasks := h₂.tasks.trans h₁.tasks
  ordered := h₂.ordered ∘ h₁.ordered
  records k := by
    rcases h₂.records k with e₂ | ⟨hk, d, r, hd, hn, ha, htr, hra, h₃⟩
    · rcases h₁.records k with e₁ | ⟨hk, d, r, hd, hn, ha, htr, hra, h₂'⟩
      · exact Or.inl (e₂.trans e₁)
      · exact Or.inr ⟨hk, d, r, hd, hn, ha, htr, hra, e₂.trans h₂'⟩
    · rcases h₁.records k with e₁ | ⟨_, d₀, r₀, hd₀, hn₀, ha₀, htr₀, _, h₂'⟩
      · exact Or.inr ⟨hk, d, r, e₁ ▸ hd, hn, ha, htr, hra, h₃⟩
      · -- the second change starts from the record the first one left
        rw [h₂'] at hd
        cases hd
        exact Or.inr ⟨hk, d₀, r, hd₀, hn₀, ha₀, htr.trans htr₀, hra, h₃⟩

theorem Moved.ownActive {n : Nat} {track : TrackId} {m m' : Manager} (h : Moved n track m m')
    (hm : OwnActive n track m) : OwnActive n track m' := by
  intro d' hd' hn'
  rcases h.records track with e | ⟨_, d, r, _, _, _, _, hr, h'⟩
  · exact hm d' (e ▸ hd') hn'
  · rw [h'] at hd'
    cases hd'
    exact hr

theorem update_moved {track : TrackId} {n : Nat} {f : Download → Download}
    (hf : ∀ r, (f r).track = r.track ∧ (r.state.isActive → (f r).state.isActive)) {w : World}
    (hw : OwnActive n track w.manager) :
    Holds (update track n f)
      (fun _ w' => Moved n track w.manager w'.manager ∧ w'.notices = w.notices) w := by
  simp only [update, holds_bind, holds_get]
  split
  · rename_i t ht
    obtain ⟨hget, hn, _⟩ := owned?_eq_some.mp ht
    simp only [holds_bind, holds_set, holds_pure]
    refine ⟨⟨rfl, rfl, rfl, rfl, fun ho => ho.insert _ _, fun k => ?_⟩, trivial⟩
    rw [Table.get?_insert]
    by_cases hk : track = k
    · subst hk
      have ha := hw t hget hn
      exact Or.inr ⟨rfl, t, f t.record, hget, hn, ha, (hf _).1, (hf _).2 ha, by simp⟩
    · exact Or.inl (by simp [hk])
  · exact ⟨Moved.refl _ _ _, rfl⟩

/-- The progress notices of a request, one for each byte count. -/
def progressNotices (req : DownloadRequest) (ps : List Nat) : List DownloadEvent :=
  ps.map fun d => .progress req.track d req.expectedLength

/-- Byte counts that rise strictly, each above `lo` and at most `total`. -/
def Rising (lo total : Nat) (ps : List Nat) : Prop :=
  ps.Pairwise (· < ·) ∧ ∀ d ∈ ps, lo < d ∧ d ≤ total

theorem Rising.nil (lo total : Nat) : Rising lo total [] :=
  ⟨List.Pairwise.nil, fun _ h => by cases h⟩

theorem Rising.cons {lo total d : Nat} {ps : List Nat} (hd : lo < d ∧ d ≤ total)
    (h : Rising d total ps) : Rising lo total (d :: ps) := by
  refine ⟨List.pairwise_cons.mpr ⟨fun x hx => (h.2 x hx).1, h.1⟩, fun x hx => ?_⟩
  rcases List.mem_cons.mp hx with rfl | hx
  · exact hd
  · have := h.2 x hx
    omega

theorem Rising.of_cons {lo total d : Nat} {ps : List Nat} (h : Rising lo total (d :: ps)) :
    (lo < d ∧ d ≤ total) ∧ Rising d total ps := by
  obtain ⟨hpw, hb⟩ := h
  rw [List.pairwise_cons] at hpw
  exact ⟨hb d List.mem_cons_self,
    hpw.2, fun x hx => ⟨hpw.1 x hx, (hb x (List.mem_cons_of_mem d hx)).2⟩⟩

theorem Rising.mono {lo lo' total : Nat} {ps : List Nat} (hlo : lo' ≤ lo)
    (h : Rising lo total ps) : Rising lo' total ps :=
  ⟨h.1, fun x hx => ⟨Nat.lt_of_le_of_lt hlo (h.2 x hx).1, (h.2 x hx).2⟩⟩

/-- What a run of transfer `n` for `req` did between two worlds: it changed its own record only,
and sent progress notices rising from `lo`. -/
def Worked (n : Nat) (req : DownloadRequest) (lo : Nat) (w w' : World) : Prop :=
  Moved n req.track w.manager w'.manager ∧
    ∃ ps, Rising lo req.expectedLength ps ∧
      w'.notices.toList = w.notices.toList ++ progressNotices req ps

theorem Worked.refl {n : Nat} {req : DownloadRequest} {lo : Nat} {w : World} :
    Worked n req lo w w :=
  ⟨Moved.refl _ _ _, [], Rising.nil _ _, by simp [progressNotices]⟩

theorem Worked.of_engine_right {n : Nat} {req : DownloadRequest} {lo : Nat} {w₀ w w' : World}
    (h : Worked n req lo w₀ w) (he : w'.engine = w.engine) : Worked n req lo w₀ w' := by
  obtain ⟨hm, ps, hps, hn⟩ := h
  have hm' : w'.manager = w.manager := congrArg (fun e => e.2.1) he
  have hn' : w'.notices = w.notices := congrArg (fun e => e.2.2) he
  exact ⟨hm' ▸ hm, ps, hps, by rw [hn', hn]⟩

theorem Worked.of_engine {n : Nat} {req : DownloadRequest} {lo : Nat} {w w' : World}
    (he : w'.engine = w.engine) : Worked n req lo w w' :=
  Worked.refl.of_engine_right he

/-- Work after a change of the own record that sent nothing counts from the start. -/
theorem Worked.after_moved {n : Nat} {req : DownloadRequest} {lo lo' : Nat} {w w₁ w' : World}
    (hm : Moved n req.track w.manager w₁.manager) (hn : w₁.notices = w.notices)
    (h : Worked n req lo w₁ w') (hlo : lo' ≤ lo) : Worked n req lo' w w' := by
  obtain ⟨hm', ps, hps, hn'⟩ := h
  exact ⟨hm.trans hm', ps, hps.mono hlo, by rw [hn', hn]⟩

theorem writeFailure_spec (m : String) (w : World) :
    Holds (writeFailure m) (fun f w' => w' = w ∧ f.state.isFailure) w := by
  simp only [writeFailure, holds_bind, holds_get]
  split <;> exact ⟨rfl, rfl⟩

/-- Writing a body changes only the transfer's own record, sends progress notices that rise from
the bytes already written, and fails only into a state that ends the transfer. -/
theorem copyBody_spec (n : Nat) (req : DownloadRequest) (chunk : Nat) (progress : Bool)
    (ending : BodyEnd) (remaining source written : Nat) (w : World)
    (hw : OwnActive n req.track w.manager) :
    Holds (copyBody n req chunk progress ending remaining source written).run (fun r w' =>
      Worked n req written w w' ∧ ∀ f, r = .error f → f.state.isFailure) w := by
  fun_induction copyBody n req chunk progress ending remaining source written generalizing w with
  | case1 => exact ⟨Worked.refl, fun _ h => by cases h⟩
  | case2 => exact ⟨Worked.refl, fun _ h => by cases h; rfl⟩
  | case3 => exact ⟨Worked.refl, fun _ h => by cases h⟩
  | case4 => exact ⟨Worked.refl, fun _ h => by cases h; rfl⟩
  | case5 remaining source written k body hsize ih =>
    simp only [body, holds_attempt_bind, holds_attempt_get]
    split
    · simp only [holds_attempt_bind, holds_liftM]
      refine (writeFailure_spec _ _).mono ?_
      rintro f w' ⟨hw', hf⟩
      subst hw'
      exact ⟨Worked.refl, fun _ h => by cases h; exact hf⟩
    · simp only [holds_attempt_bind, holds_attempt_set, holds_attempt_discard, holds_liftM,
        Except.map]
      refine Holds.mono (update_moved ?keeps hw) ?_
      case keeps => exact fun _ => ⟨rfl, id⟩
      rintro _ w₁ ⟨hm₁, hn₁⟩
      have hw₁ := hm₁.ownActive hw
      split
      · simp only [holds_attempt_bind, holds_liftM, holds_notify]
        refine Holds.mono (ih _ hw₁) ?_
        rintro r w' ⟨⟨hm, ps, hps, hn⟩, hr⟩
        refine ⟨⟨hm₁.trans hm, ?_⟩, hr⟩
        refine ⟨(written + k) :: ps, Rising.cons ⟨?_, ?_⟩ hps, ?_⟩
        · omega
        · omega
        · simp [hn, hn₁, progressNotices]
      · refine Holds.mono (ih _ hw₁) ?_
        rintro r w' ⟨⟨hm, ps, hps, hn⟩, hr⟩
        refine ⟨⟨hm₁.trans hm, ?_⟩, hr⟩
        exact ⟨ps, hps.mono (by omega), by rw [hn, hn₁]⟩

/-- How a transfer's run may end: well only once the cache has its file, and badly only into a
state that is not active. -/
def Ends (req : DownloadRequest) (w : World) : Except TransferFailure Unit → Prop
  | .ok () => Committed w req
  | .error f => f.state.isFailure

/-- What a run hands its task: an end that `Ends` allows, or a stall. -/
def Settles (req : DownloadRequest) (w : World) : Except TransferFailure Outcome → Prop
  | .ok (.ended e) => Ends req w e
  | .ok (.stalled _) => True
  | .error f => f.state.isFailure

/-- What a run of transfer `n` for `req` from `w₀` leaves: its own work, and an outcome that
`Settles` allows. -/
def Ran (n : Nat) (req : DownloadRequest) (w₀ : World) (r : Except TransferFailure Outcome)
    (w' : World) : Prop :=
  Worked n req 0 w₀ w' ∧ Settles req w' r

/-- A step of a transfer that leaves the engine alone and fails only into an inactive state. -/
def Quiet {α : Type} (a : Work α) : Prop :=
  ∀ w, Holds a.run
    (fun r w' => w'.engine = w.engine ∧ ∀ f, r = .error f → f.state.isFailure) w

theorem quiet_pure {α : Type} (x : α) : Quiet (pure x : Work α) :=
  fun _ => ⟨rfl, fun _ h => by cases h⟩

theorem quiet_liftM {α : Type} {a : Act α} (h : Keeps World.engine a) : Quiet (liftM a : Work α) :=
  fun w => ⟨h w, fun _ h => by cases h⟩

/-- A run that starts with a quiet step: the step changes nothing a run answers for. -/
theorem Quiet.bind {α : Type} {a : Work α} {f : α → Work Outcome} {n : Nat}
    {req : DownloadRequest} {w₀ w : World} (ha : Quiet a) (hw : w.engine = w₀.engine)
    (hf : ∀ x w', w'.engine = w₀.engine → Holds (f x).run (Ran n req w₀) w') :
    Holds (a >>= f).run (Ran n req w₀) w := by
  rw [holds_attempt_bind]
  refine Holds.mono (ha w) fun r w' ⟨he, hr⟩ => ?_
  cases r with
  | ok x => exact hf x w' (he.trans hw)
  | error f => exact ⟨Worked.of_engine (he.trans hw), hr f rfl⟩

theorem usableOffset_quiet (req : DownloadRequest) : Quiet (usableOffset req) := by
  intro w
  refine Holds.and ((usableOffset_keeps req).holds fun _ _ h => congrArg World.engine h) ?_
  simp only [usableOffset]
  split
  · exact fun _ h => by cases h
  · simp only [holds_attempt_bind, holds_attempt_get]
    split
    · exact fun _ h => by cases h
    · split
      · exact fun _ h => by cases h; rfl
      · exact fun _ h => by cases h

theorem openBody_quiet (req : DownloadRequest) (offset : Nat) : Quiet (openBody req offset) := by
  intro w
  refine Holds.and ((openBody_keeps req offset).holds fun _ _ h => h) ?_
  simp only [openBody, holds_attempt_bind, holds_attempt_get, holds_attempt_set]
  split
  · exact fun _ h => by cases h
  · exact fun _ h => by cases h; rfl
  · exact fun _ h => by cases h; rfl

theorem openWriter_quiet (req : DownloadRequest) (offset : Nat) : Quiet (openWriter req offset) := by
  intro w
  refine Holds.and ((openWriter_keeps req offset).holds fun _ _ h => h) ?_
  simp only [openWriter, holds_attempt_bind, holds_attempt_get]
  split
  · exact fun _ h => by cases h
  · simp only [holds_attempt_bind, holds_liftM]
    refine Holds.mono (writeFailure_spec _ _) ?_
    rintro f _ ⟨-, hf⟩ _ h
    cases h
    exact hf

theorem commit_spec (req : DownloadRequest) (w : World) :
    Holds (commit req).run (fun r w' => w'.engine = w.engine ∧ Ends req w' r) w := by
  simp only [commit, holds_attempt_bind, holds_liftM]
  have hk : Holds (Cache.commitStorage req.key req.destination req.expectedLength).run
      (fun _ w' => w'.engine = w.engine) w := Cache.commitStorage_keeps _ _ _ w
  refine Holds.mono (Holds.and hk (commitStorage_committed req w)) ?_
  rintro r w₁ ⟨h₁, hc⟩
  cases r with
  | ok u => exact ⟨h₁, hc rfl⟩
  | error e => exact ⟨h₁, rfl⟩

theorem finishBody_spec (req : DownloadRequest) (written : Nat) (w : World) :
    Holds (finishBody req written).run (fun r w' => w'.engine = w.engine ∧ Ends req w' r) w := by
  unfold finishBody
  split
  · exact ⟨rfl, rfl⟩
  · exact commit_spec req w

/-- A run that ends with a commit, well or badly. -/
theorem holds_ended {a : Work Unit} {n : Nat} {req : DownloadRequest} {w₀ w : World}
    (ha : Holds a.run (fun r w' => w'.engine = w.engine ∧ Ends req w' r) w)
    (hw : Worked n req 0 w₀ w) :
    Holds (a >>= fun _ => pure (Outcome.ended (.ok ()))).run (Ran n req w₀) w := by
  rw [holds_attempt_bind]
  refine ha.mono fun r w' ⟨he, hr⟩ => ?_
  cases r with
  | ok u => exact ⟨hw.of_engine_right he, hr⟩
  | error f => exact ⟨hw.of_engine_right he, hr⟩

/-- A transfer run from its start changes only its own record, sends progress notices that rise
from zero, and ends as `Settles` allows. -/
theorem runFromStart_spec (n : Nat) (req : DownloadRequest) (w : World)
    (hw : OwnActive n req.track w.manager) :
    Holds (runFromStart n req).run (Ran n req w) w := by
  unfold runFromStart
  refine Quiet.bind (usableOffset_quiet req) rfl fun offset w₁ hw₁ => ?_
  split
  · exact holds_ended (commit_spec req w₁) (Worked.of_engine hw₁)
  refine Quiet.bind (openBody_quiet req offset) hw₁ fun resp w₂ hw₂ => ?_
  -- the rest of the transfer, once the body and its offset are settled
  extract_lets tail
  have htail : ∀ x w', w'.engine = w.engine → Holds (tail x).run (Ran n req w) w' := by
    rintro ⟨resp, offset⟩ w₃ hw₃
    dsimp -zeta only [tail]
    extract_lets body
    have hbody : ∀ u w', w'.engine = w.engine → Holds (body u).run (Ran n req w) w' := by
      intro _ w₄ hw₄
      refine Quiet.bind (openWriter_quiet req offset) hw₄ fun _ w₅ hw₅ => ?_
      have hm₅ : w₅.manager = w.manager := congrArg (fun e => e.2.1) hw₅
      have hn₅ : w₅.notices = w.notices := congrArg (fun e => e.2.2) hw₅
      rw [holds_attempt_bind, holds_attempt_discard, holds_liftM]
      refine Holds.mono (update_moved ?keeps (hm₅ ▸ hw)) ?_
      case keeps => exact fun _ => ⟨rfl, fun _ => rfl⟩
      rintro _ w₆ ⟨hm₆, hn₆⟩
      rw [hm₅] at hm₆
      simp only [Except.map, holds_attempt_bind, holds_attempt_get]
      refine Holds.mono (copyBody_spec _ _ _ _ _ _ _ _ _ (hm₆.ownActive hw)) ?_
      rintro r w₇ ⟨hw₇, hr⟩
      have hw₇' : Worked n req 0 w w₇ :=
        Worked.after_moved hm₆ (hn₆.trans hn₅) hw₇ (Nat.zero_le _)
      cases r with
      | error f => exact ⟨hw₇', hr f rfl⟩
      | ok stop =>
        cases stop with
        | complete written => exact holds_ended (finishBody_spec req written w₇) hw₇'
        | stalled written => exact ⟨hw₇', trivial⟩
    clear_value body
    split
    · split
      · exact Quiet.bind (quiet_liftM (keeps_log (fun _ _ => rfl) _ _ _ _)) hw₃ hbody
      · exact hbody () w₃ hw₃
    · exact hbody () w₃ hw₃
  clear_value tail
  split
  · exact Quiet.bind (quiet_pure _) hw₂ htail
  split
  · exact Quiet.bind (quiet_pure _) hw₂ htail
  refine Quiet.bind (openBody_quiet req 0) hw₂ fun again w₃ hw₃ => ?_
  extract_lets retry
  have hretry : ∀ u w', w'.engine = w.engine → Holds (retry u).run (Ran n req w) w' :=
    fun _ w' hw' => Quiet.bind (quiet_pure _) hw' htail
  clear_value retry
  split
  · exact ⟨Worked.of_engine hw₃, rfl⟩
  · exact hretry () w₃ hw₃

theorem runAfterStall_spec (n : Nat) (req : DownloadRequest) (written : Nat) (w : World) :
    Holds (runAfterStall req written).run (Ran n req w) w :=
  holds_ended (finishBody_spec req written w) Worked.refl

/-- The rest of a stalled body sends no progress. -/
theorem runAfterStall_notices (req : DownloadRequest) (written : Nat) (w : World) :
    Holds (runAfterStall req written).run (fun _ w' => w'.notices = w.notices) w := by
  unfold runAfterStall
  rw [holds_attempt_bind]
  refine (finishBody_spec req written w).mono fun r w' ⟨he, _⟩ => ?_
  cases r <;> exact congrArg (fun e => e.2.2) he

theorem Ends.of_eq {req : DownloadRequest} {w w' : World} {r : Except TransferFailure Unit}
    (h : Ends req w r) (hv : w'.volume = w.volume) (hc : w'.catalog = w.catalog) : Ends req w' r := by
  cases r with
  | ok u => exact Committed.of_eq h hv hc
  | error f => exact h

theorem Moved.own {n : Nat} {track : TrackId} {m m' : Manager} {d : Tracked}
    (h : Moved n track m m') (hd : m.records.get? track = some d) (hn : d.transfer = n)
    (ha : d.record.state.isActive) :
    ∃ d', m'.records.get? track = some d' ∧ d'.transfer = n ∧ d'.request = d.request ∧
      d'.record.track = d.record.track ∧ d'.record.state.isActive := by
  rcases h.records track with e | ⟨_, d₀, r, hd₀, _, _, htr, hra, h'⟩
  · exact ⟨d, e.trans hd, hn, rfl, rfl, ha⟩
  · rw [hd] at hd₀
    cases hd₀
    exact ⟨_, h', hn, rfl, htr, hra⟩

theorem update_owned {track : TrackId} {n : Nat} {f : Download → Download} {w : World}
    {d : Tracked} (hd : w.manager.records.get? track = some d) (hn : d.transfer = n)
    (hna : d.record.state ≠ .aborted) :
    Holds (update track n f) (fun b w' => b = true ∧ w' = { w with manager := { w.manager with
      records := w.manager.records.insert track { d with record := f d.record } } }) w := by
  have ho : owned? w.manager track n = some d := owned?_eq_some.mpr ⟨hd, hn, hna⟩
  simp only [update, holds_bind, holds_get, ho, holds_set, holds_pure]
  exact ⟨trivial, trivial⟩

/-- The record a transfer's end leaves. -/
def settled (req : DownloadRequest) : Except TransferFailure Unit → Download → Download
  | .ok (), r => { r with state := .finished, bytesWritten := req.expectedLength }
  | .error f, r => { r with state := f.state, lastError := some f.message }

/-- The notice a transfer's end sends. -/
def endNotice (req : DownloadRequest) : Except TransferFailure Unit → DownloadEvent
  | .ok () => .finish req.track
  | .error f => .error req.track f.message f.state.isPaused

/-- A transfer that still holds its active record settles it, frees the active slot, prunes the
settled records and announces its end. -/
theorem finish_spec (n : Nat) (req : DownloadRequest) (r : Except TransferFailure Unit)
    {w : World} {d : Tracked} (hd : w.manager.records.get? req.track = some d)
    (hn : d.transfer = n) (ha : d.record.state.isActive) :
    Holds (finish n req r) (fun _ w' =>
      w'.manager = prune (releaseSlot { w.manager with
        records := w.manager.records.insert req.track { d with record := settled req r d.record } }
        n) ∧
      w'.notices = w.notices.push (endNotice req r) ∧ w'.volume = w.volume ∧
      w'.catalog = w.catalog) w := by
  have hna : d.record.state ≠ .aborted := fun h => by
    rw [h] at ha
    cases ha
  unfold finish
  extract_lets track announce
  cases r with
  | ok u =>
    cases u
    simp -zeta only [holds_bind]
    refine Holds.mono (update_owned hd hn hna) ?_
    rintro b w₁ ⟨hb, hw₁⟩
    subst hb hw₁
    simp only [if_true, holds_bind, holds_log, holds_pure, announce, holds_modify, holds_notify]
    exact ⟨rfl, rfl, trivial, trivial⟩
  | error f =>
    simp -zeta only [holds_bind]
    refine Holds.mono (update_owned hd hn hna) ?_
    rintro b w₁ ⟨hb, hw₁⟩
    subst hb hw₁
    simp only [if_true, announce]
    split <;>
    · simp only [holds_bind, holds_log, holds_pure, holds_modify, holds_notify]
      exact ⟨rfl, rfl, trivial, trivial⟩

/-- The phase a stalled task waits in. -/
def stallTask (n written : Nat) (u : TransferTask) : TransferTask :=
  if u.transfer = n then { u with phase := .stalled written } else u

/-- What one run of task `t` did, from `w` to `w'`: it worked on its own record, and then either
waits on a stalled body, or left the task list and settled its record, freeing the active slot,
pruning and announcing its end. -/
inductive TaskRun (t : TransferTask) (w w' : World) : Prop
  | stalled (m : Manager) (ps : List Nat) (written : Nat)
      (hm : Moved t.transfer t.request.track w.manager m)
      (hps : Rising 0 t.request.expectedLength ps)
      (hmgr : w'.manager = { m with tasks := m.tasks.map (stallTask t.transfer written) })
      (hn : w'.notices.toList = w.notices.toList ++ progressNotices t.request ps)
      (hquiet : ∀ written, t.phase = .unstalled written → ps = [])
  | ended (m : Manager) (ps : List Nat) (r : Except TransferFailure Unit) (d : Tracked)
      (hm : Moved t.transfer t.request.track w.manager m)
      (hps : Rising 0 t.request.expectedLength ps)
      (hd : m.records.get? t.request.track = some d) (hdn : d.transfer = t.transfer)
      (hda : d.record.state.isActive)
      (hmgr : w'.manager = prune (releaseSlot { m with
        tasks := m.tasks.filter (·.transfer != t.transfer),
        records := m.records.insert t.request.track
          { d with record := settled t.request r d.record } } t.transfer))
      (hn : w'.notices.toList =
        w.notices.toList ++ progressNotices t.request ps ++ [endNotice t.request r])
      (hr : Ends t.request w' r)
      (hquiet : ∀ written, t.phase = .unstalled written → ps = [])

/-- A run of a task that holds its track's active record. -/
theorem runTask_spec (t : TransferTask) (w : World) {d : Tracked}
    (hd : w.manager.records.get? t.request.track = some d) (hn : d.transfer = t.transfer)
    (ha : d.record.state.isActive) :
    Holds (runTask t) (fun _ w' => TaskRun t w w') w := by
  have hown : OwnActive t.transfer t.request.track w.manager := fun d' hd' _ => by
    rw [hd] at hd'
    cases hd'
    exact ha
  unfold runTask
  rw [holds_detached]
  extract_lets work settle
  have hwork : Holds work.run (fun r w' => Ran t.transfer t.request { w with spans := [] } r w' ∧
      ∀ written, t.phase = .unstalled written → w'.notices = w.notices) { w with spans := [] } := by
    dsimp -zeta only [work]
    split
    · exact Holds.and (runAfterStall_spec _ _ _ _)
        ((runAfterStall_notices _ _ _).mono fun _ _ h _ _ => h)
    · rename_i hph
      exact (runFromStart_spec _ _ { w with spans := [] } hown).mono
        fun _ _ h => ⟨h, fun written e => absurd e (hph written)⟩
  clear_value work
  simp -zeta only [holds_bind]
  refine Holds.mono hwork ?_
  rintro r w₁ ⟨⟨⟨hm, ps, hps, hn₁⟩, hr⟩, hq⟩
  obtain ⟨d₁, hd₁, hn₁', -, -, ha₁⟩ := hm.own hd hn ha
  -- the rest of a stalled body is read without a progress notice
  have hquiet : ∀ written, t.phase = .unstalled written → ps = [] := fun written hph => by
    rw [hq written hph] at hn₁
    simpa [progressNotices] using hn₁
  -- the outcome the task goes on with: a failure ends it too
  have hended : ∀ e : Except TransferFailure Unit, Ends t.request w₁ e →
      Holds (settle (.ended e)) (fun x w' => TaskRun t w { w' with spans := w.spans }) w₁ := by
    intro e he
    simp only [settle, holds_bind, holds_modify]
    refine Holds.mono (finish_spec _ _ e hd₁ hn₁' ha₁) ?_
    rintro _ w' ⟨hmgr, hn', hv, hc⟩
    refine TaskRun.ended w₁.manager ps e d₁ hm hps hd₁ hn₁' ha₁ hmgr ?_ (he.of_eq hv hc) hquiet
    simp [hn', hn₁]
  cases r with
  | error f => exact hended (.error f) hr
  | ok o =>
    cases o with
    | ended e => exact hended e hr
    | stalled written =>
      simp only [settle]
      exact TaskRun.stalled w₁.manager ps written hm hps rfl hn₁ hquiet

end PlaybackEngine.Downloads
