import PlaybackEngine.World

set_option autoImplicit false

/-!
# Reasoning about engine operations

An engine operation `Act α` transforms the world. `Holds a Q w` says that `a`, run from `w`,
returns a value and leaves a world that satisfy `Q`: it is the weakest precondition of `Q`.
`Triple P a Q` says so from every world of `P`, and `Keeps v a` says that `a` leaves the view
`v` of the world as it found it.

The simp lemmas here take a `do` block apart: binds, reads, writes and branches of `Act`, and
binds, throws and lifts of the fallible `Attempt`. Two views recur: `World.engine`, the state the
player and the download manager own, which host operations leave alone, and `World.actor`, the
player's part of it, which the download manager leaves alone too.
-/

namespace PlaybackEngine

/-- `Q` holds of what `a` returns from `w` and of the world it leaves. -/
def Holds {α : Type} (a : Act α) (Q : α → World → Prop) (w : World) : Prop :=
  Q (a.run w).1 (a.run w).2

/-- From every world of `P`, `a` ends in `Q`. -/
def Triple {α : Type} (P : World → Prop) (a : Act α) (Q : α → World → Prop) : Prop :=
  ∀ w, P w → Holds a Q w

/-- `a` leaves the view `v` of the world as it found it. -/
def Keeps {β α : Type} (v : World → β) (a : Act α) : Prop :=
  ∀ w, v (a.run w).2 = v w

/-- The player's own state, its published state, the transfers the hub tracks and the callbacks
waiting for the player. -/
def World.actor (w : World) :
    Controller × PlayState × Table TransferProgress × List DecoderEvent × Bool :=
  (w.controller, w.published, w.hub.transfers, w.decoderEvents, w.running)

/-- What the player and the download manager own: the actor's part, the manager and the notices
it sent. -/
def World.engine (w : World) :
    (Controller × PlayState × Table TransferProgress × List DecoderEvent × Bool) × Manager ×
      Notices :=
  (w.actor, w.manager, w.notices)

section Rules

variable {α β : Type} {a : Act α} {Q R : α → World → Prop} {w : World}

@[simp] theorem holds_pure (x : α) (Q : α → World → Prop) (w : World) :
    Holds (pure x) Q w ↔ Q x w := Iff.rfl

@[simp] theorem holds_bind (a : Act α) (f : α → Act β) (Q : β → World → Prop) (w : World) :
    Holds (a >>= f) Q w ↔ Holds a (fun x w' => Holds (f x) Q w') w := Iff.rfl

@[simp] theorem holds_get (Q : World → World → Prop) (w : World) :
    Holds get Q w ↔ Q w w := Iff.rfl

@[simp] theorem holds_set (w' : World) (Q : PUnit → World → Prop) (w : World) :
    Holds (set w') Q w ↔ Q () w' := Iff.rfl

@[simp] theorem holds_modify (f : World → World) (Q : PUnit → World → Prop) (w : World) :
    Holds (modify f) Q w ↔ Q () (f w) := Iff.rfl

@[simp] theorem holds_map (f : α → β) (a : Act α) (Q : β → World → Prop) (w : World) :
    Holds (f <$> a) Q w ↔ Holds a (fun x => Q (f x)) w := Iff.rfl

theorem holds_ite (c : Prop) [Decidable c] (a b : Act α) :
    Holds (if c then a else b) Q w ↔ if c then Holds a Q w else Holds b Q w := by
  split <;> rfl

theorem Holds.mono (h : Holds a Q w) (hq : ∀ x w', Q x w' → R x w') : Holds a R w :=
  hq _ _ h

theorem Holds.and (h₁ : Holds a Q w) (h₂ : Holds a R w) :
    Holds a (fun x w' => Q x w' ∧ R x w') w :=
  ⟨h₁, h₂⟩

theorem holds_of_forall (h : ∀ x w', Q x w') : Holds a Q w := h _ _

theorem Triple.holds {P : World → Prop} (h : Triple P a Q) (hp : P w)
    (hq : ∀ x w', Q x w' → R x w') : Holds a R w :=
  (h w hp).mono hq

theorem Keeps.holds {γ : Type} {v : World → γ} (h : Keeps v a)
    (hq : ∀ x w', v w' = v w → Q x w') : Holds a Q w :=
  hq _ _ (h w)

theorem keeps_iff {γ : Type} (v : World → γ) (a : Act α) :
    Keeps v a ↔ ∀ w, Holds a (fun _ w' => v w' = v w) w := Iff.rfl

theorem Keeps.map {γ δ : Type} {v : World → γ} (h : Keeps v a) (g : γ → δ) :
    Keeps (g ∘ v) a := fun w => congrArg g (h w)

theorem Keeps.bind {γ : Type} {v : World → γ} {f : α → Act β} (ha : Keeps v a)
    (hf : ∀ x, Keeps v (f x)) : Keeps v (a >>= f) := fun w =>
  (hf _ _).trans (ha w)

theorem keeps_pure {γ : Type} (v : World → γ) (x : α) : Keeps v (pure x : Act α) :=
  fun _ => rfl

theorem keeps_get {γ : Type} (v : World → γ) : Keeps v (get : Act World) := fun _ => rfl

@[simp] theorem holds_discard (a : Act α) (Q : Unit → World → Prop) (w : World) :
    Holds (discard a) Q w ↔ Holds a (fun _ => Q ()) w := Iff.rfl

theorem Keeps.discard {γ : Type} {v : World → γ} (h : Keeps v a) : Keeps v (discard a) := h

theorem keeps_modify {γ : Type} {v : World → γ} {f : World → World} (h : ∀ w, v (f w) = v w) :
    Keeps v (modify f) := h

theorem Keeps.of_id {γ : Type} (h : Keeps id a) (v : World → γ) : Keeps v a :=
  fun w => congrArg v (h w)

theorem Keeps.actor_of_engine (h : Keeps World.engine a) : Keeps World.actor a :=
  fun w => congrArg Prod.fst (h w)

end Rules

section Fallible

variable {ε α β : Type} {w : World}

@[simp] theorem holds_attempt_pure (x : α) (Q : Except ε α → World → Prop) :
    Holds (pure x : ExceptT ε Act α).run Q w ↔ Q (.ok x) w := Iff.rfl

@[simp] theorem holds_throw (e : ε) (Q : Except ε α → World → Prop) :
    Holds (throw e : ExceptT ε Act α).run Q w ↔ Q (.error e) w := Iff.rfl

@[simp] theorem holds_liftM (a : StateT World Id α) (Q : Except ε α → World → Prop) :
    Holds (liftM a : ExceptT ε Act α).run Q w ↔ Holds a (fun x => Q (.ok x)) w := Iff.rfl

@[simp] theorem holds_attempt_get (Q : Except ε World → World → Prop) :
    Holds (get : ExceptT ε Act World).run Q w ↔ Q (.ok w) w := Iff.rfl

@[simp] theorem holds_attempt_modify (f : World → World) (Q : Except ε PUnit → World → Prop) :
    Holds (modify f : ExceptT ε Act PUnit).run Q w ↔ Q (.ok ()) (f w) := Iff.rfl

@[simp] theorem holds_attempt_set (w' : World) (Q : Except ε PUnit → World → Prop) :
    Holds (set w' : ExceptT ε Act PUnit).run Q w ↔ Q (.ok ()) w' := Iff.rfl

/-- A fallible bind runs its continuation only on success; a failure passes through. -/
@[simp] theorem holds_attempt_bind (x : ExceptT ε Act α) (f : α → ExceptT ε Act β)
    (Q : Except ε β → World → Prop) :
    Holds (x >>= f).run Q w ↔
      Holds x.run (fun r w' => match r with
        | .ok a => Holds (f a).run Q w'
        | .error e => Q (.error e) w') w := by
  simp only [ExceptT.run_bind]
  rw [holds_bind]
  unfold Holds
  rcases x.run.run w with ⟨r, w'⟩
  cases r <;> rfl

/-- A fallible bind, from what its first step gives on success and on failure. -/
theorem Holds.attemptBind {x : ExceptT ε Act α} {f : α → ExceptT ε Act β}
    {P : Except ε α → World → Prop} {Q : Except ε β → World → Prop} (hx : Holds x.run P w)
    (hf : ∀ a w', P (.ok a) w' → Holds (f a).run Q w')
    (he : ∀ e w', P (.error e) w' → Q (.error e) w') : Holds (x >>= f).run Q w := by
  rw [holds_attempt_bind]
  refine hx.mono fun r w' h => ?_
  cases r with
  | ok a => exact hf a w' h
  | error e => exact he e w' h

@[simp] theorem holds_attempt_discard (x : ExceptT ε Act α) (Q : Except ε Unit → World → Prop) :
    Holds (discard x).run Q w ↔ Holds x.run (fun r w' => Q (r.map fun _ => ()) w') w := by
  simp only [discard, Functor.mapConst, Function.comp_apply]
  show Holds (x.run >>= fun r => match r with
    | .ok _ => pure (.ok ())
    | .error e => pure (.error e)) Q w ↔ _
  rw [holds_bind]
  constructor <;> intro hq <;> refine hq.mono fun r w' hr => ?_ <;> cases r <;> exact hr

theorem Keeps.attemptBind {γ : Type} {v : World → γ} {x : ExceptT ε Act α}
    {f : α → ExceptT ε Act β} (hx : Keeps v x.run) (hf : ∀ a, Keeps v (f a).run) :
    Keeps v (x >>= f).run := by
  rw [keeps_iff]
  intro w
  rw [holds_attempt_bind]
  refine hx.holds fun r w' h => ?_
  cases r with
  | ok a => exact (hf a).holds fun _ w'' h' => h'.trans h
  | error e => exact h

theorem Keeps.liftM {γ : Type} {v : World → γ} {a : StateT World Id α} (h : Keeps v a) :
    Keeps v (liftM a : ExceptT ε Act α).run := h

theorem keeps_attemptPure {γ : Type} (v : World → γ) (x : α) :
    Keeps v (pure x : ExceptT ε Act α).run := fun _ => rfl

theorem keeps_throw {γ : Type} (v : World → γ) (e : ε) :
    Keeps v (throw e : ExceptT ε Act α).run := fun _ => rfl

theorem keeps_throw_bind {γ : Type} (v : World → γ) (e : ε) (f : α → ExceptT ε Act β) :
    Keeps v (throw e >>= f : ExceptT ε Act β).run := fun _ => rfl

theorem keeps_attemptModify {γ : Type} {v : World → γ} {f : World → World}
    (h : ∀ w, v (f w) = v w) : Keeps v (modify f : ExceptT ε Act PUnit).run := h

theorem keeps_attemptGet {γ : Type} (v : World → γ) : Keeps v (get : ExceptT ε Act World).run :=
  fun _ => rfl

theorem Keeps.attemptDiscard {γ : Type} {v : World → γ} {x : ExceptT ε Act α}
    (h : Keeps v x.run) : Keeps v (Functor.discard x).run := by
  rw [keeps_iff]
  intro w
  rw [holds_attempt_discard]
  exact h.holds fun _ _ h' => h'

end Fallible

section Primitives

open World

variable {α : Type} {w : World}

@[simp] theorem holds_log (l : LogLevel) (target message : String)
    (fields : List (String × String)) (Q : Unit → World → Prop) :
    Holds (log l target message fields) Q w ↔
      Q () { w with logs := w.logs ++
        if l.atLeast .info then [⟨l, target, message, fields, w.spans.head?⟩] else [] } := by
  unfold log
  split
  · rfl
  · simp only [List.append_nil]
    rfl

@[simp] theorem holds_inSpan (name : String) (a : Act α) (Q : α → World → Prop) :
    Holds (inSpan name a) Q w ↔
      Holds a (fun x w' => Q x { w' with spans := w'.spans.drop 1 })
        { w with spans := name :: w.spans } := Iff.rfl

@[simp] theorem attemptInSpan_run (name : String) (a : Attempt α) :
    (attemptInSpan name a).run = inSpan name a.run := rfl

@[simp] theorem holds_detached (a : Act α) (Q : α → World → Prop) :
    Holds (detached a) Q w ↔
      Holds a (fun x w' => Q x { w' with spans := w.spans }) { w with spans := [] } := Iff.rfl

@[simp] theorem holds_host (r : Except HostError α) (Q : Except PlaybackError α → World → Prop) :
    Holds (host r).run Q w ↔ Q (r.mapError .host) w := by
  cases r <;> rfl

@[simp] theorem holds_changeVolume (f : Volume → Except HostError Volume)
    (Q : Except PlaybackError Unit → World → Prop) :
    Holds (changeVolume f).run Q w ↔
      match f w.volume with
      | .ok v => Q (.ok ()) { w with volume := v }
      | .error e => Q (.error (.host e)) w := by
  unfold changeVolume
  simp only [holds_attempt_bind, holds_attempt_get, holds_host]
  cases f w.volume <;> rfl

@[simp] theorem holds_fileLen (p : String) (Q : Except PlaybackError (Option Nat) → World → Prop) :
    Holds (fileLen p).run Q w ↔ Q ((w.volume.fileLen p).mapError .host) w := by
  unfold fileLen
  simp only [holds_attempt_bind, holds_attempt_get, holds_host]

@[simp] theorem holds_readClock (Q : Int → World → Prop) :
    Holds readClock Q w ↔
      Q (1000000 + 1000 * (w.clockReadings : Int)) { w with clockReadings := w.clockReadings + 1 } :=
  Iff.rfl

@[simp] theorem holds_publish (s : PlayState) (Q : Unit → World → Prop) :
    Holds (publish s) Q w ↔ Q () { w with published := s, stateChanges := w.stateChanges ++ [s] } :=
  Iff.rfl

@[simp] theorem holds_emitBuffer (track : TrackId) (percent : Nat) (Q : Unit → World → Prop) :
    Holds (emitBuffer track percent) Q w ↔ Q () { w with hub := (w.hub.emitBuffer track percent).2 } :=
  Iff.rfl

@[simp] theorem holds_emitMove (e : MoveEvent) (Q : Unit → World → Prop) :
    Holds (emitMove e) Q w ↔ Q () { w with hub := (w.hub.emitMove e).2 } := Iff.rfl

@[simp] theorem holds_emitChange (e : ChangeEvent) (Q : Unit → World → Prop) :
    Holds (emitChange e) Q w ↔ Q () { w with hub := (w.hub.emitChange e).2 } := Iff.rfl

@[simp] theorem holds_emitDownload (e : DownloadEvent) (Q : Unit → World → Prop) :
    Holds (emitDownload e) Q w ↔ Q () { w with hub := (w.hub.emitDownload e).2 } := Iff.rfl

@[simp] theorem holds_notify (e : DownloadEvent) (Q : Unit → World → Prop) :
    Holds (notify e) Q w ↔ Q () { w with notices := w.notices.push e } := Iff.rfl

@[simp] theorem holds_decoderCall (f : Decoder → Except HostError Unit × Decoder)
    (Q : Except HostError Unit → World → Prop) :
    Holds (decoderCall f) Q w ↔ Q (f w.decoder).1 { w with decoder := (f w.decoder).2 } :=
  Iff.rfl

theorem keeps_fileLen {γ : Type} (v : World → γ) (p : String) : Keeps v (fileLen p).run := by
  rw [keeps_iff]
  intro w
  rw [holds_fileLen]

theorem keeps_log {γ : Type} {v : World → γ} (hv : ∀ w ls, v { w with logs := ls } = v w)
    (l : LogLevel) (target message : String) (fields : List (String × String)) :
    Keeps v (log l target message fields) := by
  rw [keeps_iff]
  intro w
  rw [holds_log]
  exact hv _ _

theorem Keeps.inSpan {γ : Type} {v : World → γ} {a : Act α}
    (hv : ∀ w s, v { w with spans := s } = v w) (h : Keeps v a) (name : String) :
    Keeps v (inSpan name a) := by
  rw [keeps_iff]
  intro w
  rw [holds_inSpan]
  exact h.holds fun _ w' h' => (hv _ _).trans (h'.trans (hv _ _))

theorem Keeps.detached {γ : Type} {v : World → γ} {a : Act α}
    (hv : ∀ w s, v { w with spans := s } = v w) (h : Keeps v a) : Keeps v (detached a) := by
  rw [keeps_iff]
  intro w
  rw [holds_detached]
  exact h.holds fun _ w' h' => (hv _ _).trans (h'.trans (hv _ _))

end Primitives

end PlaybackEngine
