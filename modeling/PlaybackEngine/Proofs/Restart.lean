import PlaybackEngine.Proofs.ChangeMarks
import PlaybackEngine.Proofs.SnapshotCodec
import Mathlib.Data.List.Permutation

set_option autoImplicit false

/-!
# A restarted player resumes what it saved

The player saves its queue and two play flags to its state file after each message that changed
them, and a player spawned later on the same volume takes that snapshot up. Main statement
(`restart_resumes_saved_state`): at every quiet point of a run whose cache stays clear of the state
file (`FileRun`), if the player has nothing unsaved and its file holds a snapshot, a fresh player
recovers that snapshot, with the same queue, and comes back stopped, paused at the saved offset with
nothing loaded, or loading the selected song as a start of playback does, as the old player was
stopped, paused, or preparing or playing.

It rests on an invariant (`Resumable`): an unmarked player agrees with its file, or is as fresh as
a spawn without saved state left it. Saves keep it (`save_records`), every handler keeps it since
it marks what it changes (`Guarded`), and a restored snapshot either agrees or marks
(`startPlayback_marks`).
-/

namespace PlaybackEngine

theorem holds_of_result {α : Type} {a : Act α} {Q : α → World → Prop} {w : World} {x : α}
    (h : (a.run w).1 = x) (hq : Q x (a.run w).2) : Holds a Q w := by
  unfold Holds
  rw [h]
  exact hq

theorem Path.same_self (p : String) : Path.same p p = true := Path.same_iff.mpr rfl

/-- How a player comes back after a restart: stopped, paused with nothing loaded, or loading its
song to play. -/
inductive Resumption where
  | stopped
  | paused
  | started
  deriving DecidableEq, Repr

def PlayState.resumption : PlayState → Resumption
  | .stopped => .stopped
  | .paused => .paused
  | .preparing | .playing => .started

/-- How a player that takes a snapshot up comes back: one that was not in output, or whose
position selects no song, comes back stopped. -/
def Snapshot.resumption (s : Snapshot) : Resumption :=
  if !s.playing || (PlayQueue.ofParts s.tracks s.position).position < 0 then .stopped
  else if s.paused then .paused else .started

theorem Volume.file?_eq_none_of_exists {v : Volume} {p : String} (h : v.exists_ p = false) :
    v.file? p = none := by
  unfold Volume.exists_ at h
  rw [Bool.or_eq_false_iff] at h
  unfold Volume.file?
  rw [Option.map_eq_none_iff, List.find?_eq_none]
  intro x hx hsame
  exact (List.any_eq_false.mp h.1 x hx) hsame

theorem Volume.readFile_congr {v v' : Volume} {p : String} (h : v'.file? p = v.file? p) :
    v'.readFile p = v.readFile p := by
  unfold Volume.readFile
  rw [h]

theorem Volume.any_of_readFile {v : Volume} {p : String} {b : List UInt8}
    (h : v.readFile p = .ok b) : v.files.any (Path.same ·.1 p) = true := by
  unfold Volume.readFile at h
  rw [Volume.any_eq_isSome]
  split at h
  · simp [*]
  · cases h

/-- What the cache reaches: the catalog, the cache store and the downloads. -/
def World.aside (w : World) := (w.catalog, w.store, w.manager)

theorem World.cacheApart_of_aside {f : String} {w w' : World} (h : w'.aside = w.aside)
    (hw : w.CacheApart f) : w'.CacheApart f := by
  simp only [World.aside, Prod.mk.injEq] at h
  obtain ⟨hc, hs, hm⟩ := h
  unfold World.CacheApart
  rw [hm, hc, hs]
  exact hw

namespace Persistence

/-- The volume `v` holds at `path` the bytes of a snapshot that reads back as `s`. -/
def Stored (path : String) (v : Volume) (s : Snapshot) : Prop :=
  ∃ bytes, v.readFile path = .ok bytes ∧ Snapshot.decode bytes = .ok s

theorem Stored.unique {path : String} {v : Volume} {s s' : Snapshot} (h : Stored path v s)
    (h' : Stored path v s') : s = s' := by
  obtain ⟨b, hb, hs⟩ := h
  obtain ⟨b', hb', hs'⟩ := h'
  rw [hb] at hb'
  cases hb'
  rw [hs] at hs'
  cases hs'
  rfl

theorem Stored.congr {path : String} {v v' : Volume} {s : Snapshot} (h : Stored path v s)
    (hv : v'.file? path = v.file? path) : Stored path v' s := by
  obtain ⟨b, hb, hs⟩ := h
  exact ⟨b, (Volume.readFile_congr hv).trans hb, hs⟩

theorem not_stored_of_file? {path : String} {v : Volume} (h : v.file? path = none)
    (s : Snapshot) : ¬Stored path v s := by
  rintro ⟨b, hb, -⟩
  unfold Volume.readFile at hb
  rw [h] at hb
  cases hb

theorem stored_encode {path : String} {v : Volume} {s : Snapshot}
    (hv : v.readFile path = .ok s.encode) (hs : s.Fits) (hn : s.tracks.length < 2 ^ 31)
    (hk : s.paused ∨ s.pausedOffsetMs = 0) : Stored path v s :=
  ⟨s.encode, hv, Snapshot.decode_encode_of_offsetKept s hs hn hk⟩

section Frame

variable {γ : Type} {v : World → γ}

theorem save_keeps_view (hvol : ∀ w x, v { w with volume := x } = v w)
    (hspan : ∀ w x, v { w with spans := x } = v w) (path : String) (s : Snapshot) :
    Keeps v (save path s).run := by
  have write : ∀ g, Keeps v (World.changeVolume g).run := fun g => by
    rw [keeps_iff]
    intro w
    rw [holds_changeVolume]
    split
    · exact hvol _ _
    · rfl
  simp only [save, attemptInSpan_run]
  refine Keeps.inSpan hspan ?_ _
  split
  · split
    · exact Keeps.attemptBind (keeps_attemptModify fun _ => hvol _ _) fun _ =>
        Keeps.attemptBind (write _) fun _ => write _
    · exact Keeps.attemptBind (write _) fun _ => write _
  · exact Keeps.attemptBind (write _) fun _ => write _

theorem recover_keeps_view (hvol : ∀ w x, v { w with volume := x } = v w)
    (hspan : ∀ w x, v { w with spans := x } = v w) (hlog : ∀ w x, v { w with logs := x } = v w)
    (path : String) : Keeps v (recover path).run := by
  simp only [recover, attemptInSpan_run]
  refine Keeps.inSpan hspan ?_ _
  rw [keeps_iff]
  intro w
  rw [holds_attempt_bind, holds_attempt_get]
  dsimp only
  split
  · rfl
  · rw [holds_attempt_bind, holds_attempt_get]
    dsimp only
    rw [holds_attempt_bind, holds_host]
    cases w.volume.readFile path with
    | error e => rfl
    | ok data =>
      dsimp only [Except.mapError]
      split
      · simp only [holds_attempt_bind, holds_liftM, holds_log, holds_attempt_pure]
        exact hlog _ _
      · simp only [holds_attempt_bind, holds_liftM, holds_attempt_pure, discard, holds_bind,
          holds_log, holds_get]
        split
        · exact (hvol _ _).trans (hlog _ _)
        · exact (hlog _ _).trans (hlog _ _)

end Frame

theorem save_keeps_aside (path : String) (s : Snapshot) :
    Keeps (fun w => (w.actor, w.aside)) (save path s).run :=
  save_keeps_view (fun _ _ => rfl) (fun _ _ => rfl) path s

theorem recover_keeps_aside (path : String) : Keeps World.aside (recover path).run :=
  recover_keeps_view (fun _ _ => rfl) (fun _ _ => rfl) (fun _ _ => rfl) path

/-- What a write beside the state file and a rename over it leave in the state file. -/
def Renamed (path : String) (bytes : List UInt8) (w : World) (r : Except PlaybackError Unit)
    (w' : World) : Prop :=
  (r = .ok () ↔ w.volume.writable = .ok ()) ∧
    (r = .ok () → w'.volume.file? path = some (.whole bytes)) ∧
    (r ≠ .ok () → w'.volume.file? path = w.volume.file? path)

/-- Writing beside the file and renaming over it puts the bytes in the file, whole, exactly when
the volume takes writes; otherwise it fails and leaves the file as it was. -/
theorem writeRename_live (path : String) (bytes : List UInt8) (w : World) :
    Holds (World.changeVolume (·.writeFile (tempPath path) bytes) >>= fun _ =>
        World.changeVolume (·.rename (tempPath path) path)).run (Renamed path bytes w) w := by
  rw [holds_attempt_bind, holds_changeVolume]
  unfold Volume.writeFile
  cases hw : w.volume.writable with
  | error e =>
    refine ⟨⟨fun h => (by cases h), fun h => ?_⟩, fun h => (by cases h), fun _ => rfl⟩
    rw [hw] at h
    cases h
  | ok u =>
    dsimp only [bind, Except.bind, pure, Except.pure]
    rw [holds_changeVolume]
    unfold Renamed
    unfold Volume.rename
    rw [Volume.file?_putFile, if_pos (Path.same_self _)]
    dsimp only
    rw [Volume.file?_putFile, if_pos (Path.same_self _)]
    exact ⟨iff_of_true rfl hw, fun _ => rfl, fun h => absurd rfl h⟩

/-- A save puts the snapshot's bytes in the state file, whole, exactly when the volume takes
writes; otherwise it fails and leaves the file as it was. -/
theorem save_live (path : String) (s : Snapshot) (w : World) :
    Holds (save path s).run (Renamed path s.encode w) w := by
  simp only [save, attemptInSpan_run, holds_inSpan]
  -- the directories made first hold no file and leave the volume's checks as they were
  have hwrite : ∀ w₁ : World, w₁.volume.file? path = w.volume.file? path →
      w₁.volume.writable = w.volume.writable →
      Holds (World.changeVolume (·.writeFile (tempPath path) s.encode) >>= fun _ =>
        World.changeVolume (·.rename (tempPath path) path)).run
      (fun r w' => Renamed path s.encode w r { w' with spans := w'.spans.drop 1 }) w₁ := by
    intro w₁ h₁ hw₁
    refine (writeRename_live path s.encode w₁).mono fun r w' h => ?_
    obtain ⟨hok, hput, hkeep⟩ := h
    exact ⟨hw₁ ▸ hok, hput, fun hr => (hkeep hr).trans h₁⟩
  split
  · split
    · rw [holds_attempt_bind, holds_attempt_modify]
      exact hwrite _ rfl rfl
    · exact hwrite _ rfl rfl
  · exact hwrite _ rfl rfl

/-- A save replaces the state file by the snapshot's bytes, or fails and leaves it. -/
theorem save_file (path : String) (s : Snapshot) (w : World) :
    Holds (save path s).run
      (fun r w' => match r with
        | .ok () => w'.volume.readFile path = .ok s.encode
        | .error _ => w'.volume.file? path = w.volume.file? path) w := by
  refine (save_live path s w).mono fun r w' h => ?_
  obtain ⟨-, hput, hkeep⟩ := h
  cases r with
  | ok u =>
    show w'.volume.readFile path = .ok s.encode
    unfold Volume.readFile
    rw [hput rfl]
    rfl
  | error e => exact hkeep fun h => (by cases h)

section Recovery

/-! What recovery does, by what the path holds: nothing; a file whose bytes read back; a file
whose bytes do not; or a directory and no file. -/

variable {path : String} {w : World}

theorem recover_of_absent (h : w.volume.exists_ path = false) :
    Holds (recover path).run (fun r w' => r = .ok none ∧ w'.volume = w.volume) w := by
  simp only [recover, attemptInSpan_run, holds_inSpan, holds_attempt_bind, holds_attempt_get, h,
    Bool.not_false, if_true, holds_attempt_pure, and_self]

theorem recover_of_decodes {b : List UInt8} {s : Snapshot} (hb : w.volume.readFile path = .ok b)
    (hs : Snapshot.decode b = .ok s) :
    Holds (recover path).run (fun r w' => r = .ok (some s) ∧ w'.volume = w.volume) w := by
  have hex : w.volume.exists_ path = true := by
    rw [Volume.exists_, Volume.any_of_readFile hb, Bool.true_or]
  simp only [recover, attemptInSpan_run, holds_inSpan, holds_attempt_bind, holds_attempt_get, hex,
    Bool.not_true, Bool.false_eq_true, if_false, holds_host, hb]
  simp only [Except.mapError, hs, holds_attempt_bind, holds_liftM, holds_log, holds_attempt_pure,
    and_self]

/-- A file whose bytes are no snapshot is deleted, and recovery finds none. -/
theorem recover_of_undecodable {b : List UInt8} {f : SnapshotFault}
    (hb : w.volume.readFile path = .ok b) (hf : Snapshot.decode b = .error f) :
    Holds (recover path).run
      (fun r w' => r = .ok none ∧ w'.volume = w.volume.dropFile path) w := by
  have hfile := Volume.any_of_readFile hb
  have hex : w.volume.exists_ path = true := by rw [Volume.exists_, hfile, Bool.true_or]
  simp only [recover, attemptInSpan_run, holds_inSpan, holds_attempt_bind, holds_attempt_get, hex,
    Bool.not_true, Bool.false_eq_true, if_false, holds_host, hb]
  simp only [Except.mapError, hf, holds_attempt_bind, holds_liftM, holds_attempt_pure, discard,
    holds_bind, holds_log, holds_get, Volume.deleteFile, hfile, if_true, holds_modify, and_self]

/-- A path that holds a directory and no file cannot be read: recovery fails with the read's
fault and leaves the volume. -/
theorem recover_of_unreadable {e : HostError} (hex : w.volume.exists_ path = true)
    (he : w.volume.readFile path = .error e) :
    Holds (recover path).run (fun r w' => r = .error (.host e) ∧ w'.volume = w.volume) w := by
  simp only [recover, attemptInSpan_run, holds_inSpan, holds_attempt_bind, holds_attempt_get, hex,
    Bool.not_true, Bool.false_eq_true, if_false, holds_host, he]
  simp only [Except.mapError, and_self]

end Recovery

/-- Recovery finds the snapshot the file holds; finding none, it leaves the file holding none,
deleting one that does not read back. -/
theorem recover_outcome (path : String) (w : World) :
    Holds (recover path).run (fun r w' => match r with
      | .ok (some s) => Stored path w'.volume s
      | .ok none => ∀ s, ¬Stored path w'.volume s
      | .error _ => True) w := by
  cases hex : w.volume.exists_ path with
  | false =>
    refine (recover_of_absent hex).mono fun r w' h => ?_
    obtain ⟨rfl, hv⟩ := h
    show ∀ s, ¬Stored path w'.volume s
    rw [hv]
    exact not_stored_of_file? (Volume.file?_eq_none_of_exists hex)
  | true =>
    cases hread : w.volume.readFile path with
    | error e =>
      refine (recover_of_unreadable hex hread).mono fun r w' h => ?_
      obtain ⟨rfl, -⟩ := h
      trivial
    | ok data =>
      cases hdec : Snapshot.decode data with
      | ok s =>
        refine (recover_of_decodes hread hdec).mono fun r w' h => ?_
        obtain ⟨rfl, hv⟩ := h
        show Stored path w'.volume s
        rw [hv]
        exact ⟨data, hread, hdec⟩
      | error f =>
        -- the file that did not read back is gone
        refine (recover_of_undecodable hread hdec).mono fun r w' h => ?_
        obtain ⟨rfl, hv⟩ := h
        show ∀ s, ¬Stored path w'.volume s
        rw [hv]
        exact not_stored_of_file? (by rw [Volume.file?_dropFile, if_pos (Path.same_self _)])

theorem recover_of_stored {path : String} {w : World} {s : Snapshot} (h : Stored path w.volume s) :
    ((recover path).run w).1 = .ok (some s) := by
  obtain ⟨b, hb, hs⟩ := h
  exact (recover_of_decodes hb hs).1

/-- With no file at the path, recovery finds no snapshot. -/
theorem recover_of_file?_none {path : String} {w : World} (h : w.volume.file? path = none)
    (s : Snapshot) : ((recover path).run w).1 ≠ .ok (some s) := by
  show Holds (recover path).run (fun r _ => r ≠ .ok (some s)) w
  cases hex : w.volume.exists_ path with
  | false => exact (recover_of_absent hex).mono fun r _ h => by simp [h.1]
  | true =>
    -- the path is a directory: reading it fails
    have hread : w.volume.readFile path = .error (notFound path) := by
      unfold Volume.readFile
      rw [h]
    exact (recover_of_unreadable hex hread).mono fun r _ h => by simp [h.1]

end Persistence

namespace Player

open Persistence (Stored)

/-- A player and a snapshot agree on what a restart brings back: the queue, and how it plays. -/
def Agrees (c : Controller) (s : Snapshot) : Prop :=
  PlayQueue.ofParts s.tracks s.position = c.queue ∧ s.resumption = c.state.resumption

/-- A queue the state file holds whole: fewer than `2 ^ 31` songs, each id a 64-bit word. -/
def QueueFits (q : PlayQueue) : Prop :=
  q.tracks.length < 2 ^ 31 ∧ ∀ t ∈ q.tracks, FitsSigned 64 t

instance (q : PlayQueue) : Decidable (QueueFits q) := inferInstanceAs (Decidable (_ ∧ _))

/-- A restart from the file at `f` brings back what the player is: the file holds a snapshot
that agrees with it, or the player is as fresh as a spawn without saved state left it and the file
holds none. -/
def Mirrors (f : String) (w : World) : Prop :=
  (∃ s, Stored f w.volume s ∧ Agrees w.controller s) ∨
    (w.controller.queue = PlayQueue.empty ∧ w.controller.state = .stopped ∧
      ∀ s, ¬Stored f w.volume s)

/-- The invariant of a player whose state file is `f`: it is placed towards `f`; while it waits
to take its recovered snapshot up, its task runs and its file holds that snapshot; and once it
took it up, an unmarked player whose queue fits the file is mirrored by the file. -/
structure Resumable (f : String) (w : World) : Prop where
  placed : Placed f w
  waiting : ∀ s, w.controller.recovered = some s → Stored f w.volume s ∧ w.running = true
  mirrored : w.controller.recovered = none → w.controller.dirty = false →
    QueueFits w.controller.queue → Mirrors f w

variable {f : String}

theorem Mirrors.congr {w w' : World} (h : Mirrors f w)
    (hq : w'.controller.queue = w.controller.queue) (hs : w'.controller.state = w.controller.state)
    (hv : w'.volume.file? f = w.volume.file? f) : Mirrors f w' := by
  rcases h with ⟨s, hstored, hof, hres⟩ | ⟨hempty, hstop, hnone⟩
  · exact Or.inl ⟨s, hstored.congr hv, hof.trans hq.symm, hres.trans (by rw [hs])⟩
  · exact Or.inr ⟨hq.trans hempty, hs.trans hstop, fun s h => hnone s (h.congr hv.symm)⟩

/-- A change that keeps the player, whether its task runs, its file and the cache's distance from
that file keeps the invariant. -/
theorem Resumable.of_frame {w w' : World} (h : Resumable f w) (hc : w'.controller = w.controller)
    (hr : w'.running = w.running) (hv : w'.volume.file? f = w.volume.file? f)
    (hcache : w'.CacheApart f) : Resumable f w' where
  placed := h.placed.of_controller hc hcache
  waiting s hs := by
    rw [hc] at hs
    obtain ⟨hstored, hrun⟩ := h.waiting s hs
    exact ⟨hstored.congr hv, hr.trans hrun⟩
  mirrored hnone hd hq := by
    rw [hc] at hnone hd hq
    exact (h.mirrored hnone hd hq).congr (by rw [hc]) (by rw [hc]) hv

theorem snapshotOf_fits {c : Controller} (hq : QueueFits c.queue) (hsel : c.queue.Selects)
    (o : Int) : (snapshotOf c o).Fits ∧ (snapshotOf c o).tracks.length < 2 ^ 31 := by
  obtain ⟨hn, ht⟩ := hq
  have hpos := PlayQueue.selects_iff.mp hsel
  have hlen : (c.queue.tracks.length : Int) < 2 ^ 31 := by exact_mod_cast hn
  refine ⟨⟨?_, ?_, ht⟩, hn⟩
  · simp only [FitsSigned, snapshotOf]
    omega
  · simp only [FitsSigned, snapshotOf, maxOffsetMs]
    omega

/-- A consistent player and the snapshot it saves agree, whatever offset is recorded. -/
theorem agrees_snapshotOf {c : Controller} (hc : Consistent c) (hsel : c.queue.Selects)
    (o : Int) : Agrees c (snapshotOf c o) := by
  have hof : PlayQueue.ofParts (snapshotOf c o).tracks (snapshotOf c o).position = c.queue :=
    PlayQueue.ofParts_of_selects hsel
  refine ⟨hof, ?_⟩
  unfold Snapshot.resumption
  rw [hof]
  have hpos := ((consistent_iff c).mp hc).1
  cases hst : c.state with
  | stopped => simp [snapshotOf, hst, PlayState.isOutputting, PlayState.resumption]
  | paused =>
    have h0 := (hpos (by rw [hst]; exact PlayState.noConfusion)).1
    simp [snapshotOf, hst, PlayState.isOutputting, PlayState.resumption, Int.not_lt.mpr h0]
  | preparing =>
    have h0 := (hpos (by rw [hst]; exact PlayState.noConfusion)).1
    simp [snapshotOf, hst, PlayState.isOutputting, PlayState.resumption, Int.not_lt.mpr h0]
  | playing =>
    have h0 := (hpos (by rw [hst]; exact PlayState.noConfusion)).1
    simp [snapshotOf, hst, PlayState.isOutputting, PlayState.resumption, Int.not_lt.mpr h0]

theorem stored_snapshotOf {c : Controller} {v : Volume} (hq : QueueFits c.queue)
    (hsel : c.queue.Selects) {t : Int}
    (hv : v.readFile f = .ok (snapshotOf c (if c.state = .paused then t else 0)).encode) :
    Stored f v (snapshotOf c (if c.state = .paused then t else 0)) := by
  obtain ⟨hfits, hn⟩ := snapshotOf_fits hq hsel (if c.state = .paused then t else 0)
  refine Persistence.stored_encode hv hfits hn ?_
  -- only a pause records an offset
  by_cases hp : c.state = .paused
  · exact Or.inl (by simp [snapshotOf, hp])
  · exact Or.inr (by simp [snapshotOf, hp, maxOffsetMs])

/-- A save records the queue, the play flags and, for a pause, the position `tell` gives; it
clears the mark if the file took the snapshot, and otherwise leaves the player and its file as
they were. -/
theorem save_records (w : World) :
    Holds save (fun _ w' => w'.aside = w.aside ∧ w'.running = w.running ∧
      ((w'.controller = { w.controller with dirty := false } ∧
          w'.volume.readFile w.controller.stateFile = .ok (snapshotOf w.controller
            (if w.controller.state = .paused then (tell.run w).1 else 0)).encode) ∨
        (w'.controller = w.controller ∧
          w'.volume.file? w.controller.stateFile = w.volume.file? w.controller.stateFile))) w := by
  unfold save
  rw [holds_bind, holds_controller]
  extract_lets write
  -- whatever offset is recorded, the write either takes or leaves everything as it was
  have hwrite : ∀ o, Holds (write o) (fun _ w' => w'.aside = w.aside ∧ w'.running = w.running ∧
      ((w'.controller = { w.controller with dirty := false } ∧
          w'.volume.readFile w.controller.stateFile = .ok (snapshotOf w.controller o).encode) ∨
        (w'.controller = w.controller ∧
          w'.volume.file? w.controller.stateFile = w.volume.file? w.controller.stateFile))) w := by
    intro o
    dsimp only [write]
    rw [holds_bind]
    refine ((Persistence.save_file _ _ w).and
      ((keeps_iff _ _).mp (Persistence.save_keeps_aside _ _) w)).mono fun r w₂ ⟨hfile, hkeep⟩ => ?_
    simp only [Prod.mk.injEq] at hkeep
    obtain ⟨hactor, haside⟩ := hkeep
    have hc : w₂.controller = w.controller := World.controller_of_actor hactor
    have hr : w₂.running = w.running := congrArg (fun a => a.2.2.2.2) hactor
    cases r with
    | ok u =>
      simp only [holds_modifyController]
      exact ⟨haside, hr, Or.inl ⟨by rw [hc], hfile⟩⟩
    | error e =>
      simp only [holds_log]
      exact ⟨haside, hr, Or.inr ⟨hc, hfile⟩⟩
  clear_value write
  split
  · rw [holds_bind]
    -- the pause's offset is read without changing anything
    have ht : (tell.run w).2 = w := tell_keeps w
    have hread : ∀ R : Int → World → Prop, R (tell.run w).1 w → Holds tell R w := by
      intro R h
      unfold Holds
      rw [ht]
      exact h
    exact hread _ (hwrite _)
  · rw [holds_bind, holds_pure]
    exact hwrite 0

theorem Resumable.of_kept {w w' : World} (h : Resumable f w) (hp : Placed f w') (hk : Kept f w w')
    (hnone : w.controller.recovered = none) (hnone' : w'.controller.recovered = none) :
    Resumable f w' where
  placed := hp
  waiting s hs := by
    rw [hnone'] at hs
    cases hs
  mirrored _ hd hq := by
    obtain ⟨hq', hs'⟩ := hk.clean hd
    -- unmarked now, so unmarked before: a mark would have stayed
    have hd₀ : w.controller.dirty = false := by
      cases h₀ : w.controller.dirty with
      | false => rfl
      | true => rw [hk.marked h₀] at hd; cases hd
    rw [hq'] at hq
    exact (h.mirrored hnone hd₀ hq).congr hq' hs' hk.file

/-- A handled message keeps the invariant: what it changes it marks, and the save that follows
either records the player or leaves the mark. -/
theorem handle_resumable {α : Type} {a : Act α} (hg : Guarded f a)
    (hs : Triple Settled a fun _ => Settled) {w : World} (hw : Resumable f w) (hset : Settled w) :
    Holds (handle a) (fun _ w' => Resumable f w') w := by
  simp only [handle, holds_detached, holds_bind]
  refine ((hg.spans hw.placed [] fun _ w₁ hp hk => And.intro hp hk).and (hs _ hset)).mono
    ?_
  rintro _ w₁ ⟨⟨hp₁, hk₁⟩, hs₁⟩
  have hnone₁ : w₁.controller.recovered = none := hs₁.1.1
  simp only [saveIfDirty, holds_bind, holds_controller]
  split
  · rename_i hd₁
    refine (save_records w₁).mono ?_
    rintro _ w₂ ⟨haside, _, hout⟩
    rw [holds_pure]
    have hcache₂ : w₂.CacheApart f := World.cacheApart_of_aside haside hp₁.cache
    rcases hout with ⟨hc, hread⟩ | ⟨hc, -⟩
    · -- the file took the snapshot of the player
      have hp₂ : Placed f w₂ := ⟨by rw [hc]; exact hp₁.stateFile, by rw [hc]; exact hp₁.selects,
        by rw [hc]; exact hp₁.session, hcache₂⟩
      have hw₂ : Resumable f w₂ := by
        refine ⟨hp₂, fun s h => ?_, fun _ _ hq => Or.inl ⟨snapshotOf w₁.controller
          (if w₁.controller.state = .paused then (tell.run w₁).1 else 0), ?_, ?_⟩⟩
        · rw [hc, hnone₁] at h
          cases h
        · rw [hc] at hq
          rw [hp₁.stateFile] at hread
          exact stored_snapshotOf hq hp₁.selects hread
        · rw [hc]
          exact agrees_snapshotOf hs₁.2 hp₁.selects _
      exact hw₂.of_frame rfl rfl rfl hw₂.placed.cache
    · -- the save failed, and the mark stays
      have hw₂ : Resumable f w₂ := by
        refine ⟨hp₁.of_controller hc hcache₂, fun s h => ?_, fun _ hd _ => ?_⟩
        · rw [hc, hnone₁] at h
          cases h
        · rw [hc, hd₁] at hd
          cases hd
      exact hw₂.of_frame rfl rfl rfl hw₂.placed.cache
  · rw [holds_pure, holds_pure]
    have hw₁ := hw.of_kept hp₁ hk₁ hset.1.1 hnone₁
    exact hw₁.of_frame rfl rfl rfl hp₁.cache

theorem request_resumable {α : Type} {a : Act α} (hg : Guarded f a)
    (hs : Triple Settled a fun _ => Settled) {w : World} (hw : Resumable f w) (hset : Settled w) :
    Holds (request a) (fun _ w' => Resumable f w') w := by
  simp only [request, holds_bind, holds_get]
  split
  · exact hw
  · exact (handle_resumable hg hs hw hset).mono fun _ _ h => h

theorem Guarded.keeps_mark {α : Type} {a : Act α} (h : Guarded f a) {w : World} (hw : Placed f w)
    (hd : w.controller.dirty = true) : Holds a (fun _ w' => w'.controller.dirty = true) w :=
  (h w hw).mono fun _ _ ⟨_, hk⟩ => hk.marked hd

theorem setState_marks {st : PlayState} {w : World}
    (h : w.controller.dirty = true ∨ w.controller.state ≠ st) :
    Holds (setState st) (fun _ w' => w'.controller.dirty = true) w := by
  rw [holds_setState]
  split
  · rfl
  · rename_i hsame
    exact h.resolve_right hsame

/-- Selecting a position marks the player, and what is guarded keeps the mark. -/
theorem selectPosition_marks {β : Type} {g : Unit → Act β} (hg : ∀ u, Guarded f (g u))
    {w : World} (hw : Placed f w) (p : Int) :
    Holds (selectPosition p >>= g) (fun _ w' => w'.controller.dirty = true) w := by
  rw [holds_bind, holds_selectPosition]
  exact (hg ()).keeps_mark ⟨hw.stateFile, hw.selects.setPosition p, hw.session, hw.cache⟩ rfl

/-- Skipping a song that did not open marks the player: it selects the next song, or none. -/
theorem skipUnopenable_marks {w : World} (hw : Placed f w) (q : PlayQueue) (track : TrackId)
    (e : PlaybackError) :
    Holds (skipUnopenable q track e) (fun _ w' => w'.controller.dirty = true) w := by
  unfold skipUnopenable
  rw [holds_bind]
  refine (log_guarded _ _ _ _ w hw).mono fun _ w₁ ⟨hp₁, _⟩ => ?_
  extract_lets next skip
  have hskip : ∀ u w', Placed f w' →
      Holds (skip u) (fun _ w'' => w''.controller.dirty = true) w' := by
    intro u w' hw'
    dsimp only [skip]
    split
    · rw [holds_bind]
      exact (stop_guarded w' hw').mono fun _ w'' ⟨hw'', _⟩ =>
        selectPosition_marks (fun _ => Guarded.pure _) hw'' _
    · exact selectPosition_marks (fun _ => Guarded.pure _) hw' _
  clear_value skip
  split
  · rw [holds_bind]
    exact (emitDownload_guarded _ w₁ hp₁).mono fun _ w₂ ⟨hp₂, _⟩ => hskip () w₂ hp₂
  · exact hskip () w₁ hp₁

/-- Loading the selected song into a player that is not preparing marks it, whether the song
loads or is skipped: a loaded song changes the play state, a skipped one the selection. -/
theorem startPlayback_marks {w : World} (hw : Placed f w) (hst : w.controller.state ≠ .preparing)
    {t : TrackId} (hcur : w.controller.queue.current = some t) :
    Holds (startPlayback false) (fun _ w' => w'.controller.dirty = true) w := by
  unfold startPlayback
  rw [holds_bind]
  refine (teardown_guarded w hw).mono ?_
  rintro _ w₁ ⟨hp₁, hk₁⟩
  -- a mark the teardown left stays to the end
  cases hd₁ : w₁.controller.dirty with
  | true =>
    exact (Guarded.bind queue_guarded fun _ => loadFromSelected_guarded false _).keeps_mark hp₁ hd₁
  | false =>
    obtain ⟨hq₁, hs₁⟩ := hk₁.clean hd₁
    rw [holds_bind, holds_queue]
    simp -zeta only [loadFromSelected, holds_bind, holds_queue]
    rw [hq₁, hcur]
    dsimp -zeta only
    rw [holds_bind]
    refine (openTrack_placed t w₁ hp₁).mono ?_
    rintro r w₂ ⟨hp₂, hk₂, _⟩
    cases r with
    | ok s =>
      -- the song loaded: the play state changes, unless a mark is there already
      rw [holds_bind, adoptSession, holds_bind]
      refine (log_guarded _ _ _ _ w₂ hp₂).mono ?_
      rintro _ w₃ ⟨_, hk₃⟩
      simp only [holds_bind, holds_modifyController]
      refine Holds.mono (setState_marks ?_) fun _ _ h => h
      cases hd₃ : w₃.controller.dirty with
      | true => exact Or.inl rfl
      | false =>
        refine Or.inr ?_
        rw [((hk₂.trans hk₃).clean hd₃).2, hs₁]
        simpa using hst
    | error e =>
      -- the song was skipped: the selection moves on, or to nothing
      rw [holds_bind]
      refine ((skipUnopenable_guarded _ t e w₂ hp₂).and (skipUnopenable_marks hp₂ _ t e)).mono
        ?_
      rintro more w₃ ⟨⟨hp₃, _⟩, hd₃⟩
      split
      · exact (loadFromSelected_guarded false _).keeps_mark hp₃ hd₃
      · exact hd₃

theorem PlayQueue.current_of_inBounds {q : PlayQueue} (h : q.inBounds q.position = true) :
    ∃ t, q.current = some t := by
  have hb := Player.PlayQueue.inBounds_iff.mp h
  have hlt : q.position.toNat < q.tracks.length := by omega
  exact ⟨q.tracks[q.position.toNat], by simp [PlayQueue.current, PlayQueue.songAt, h, hlt]⟩

/-- Taking a snapshot the file holds up keeps the file mirroring the player: a snapshot not in
output, or paused, leaves the player agreeing with it, and one in output starts playback, which
marks the player. -/
theorem restore_resumable (snap : Snapshot) {w : World} (hp : Placed f w)
    (hst : w.controller.state = .stopped) (hstored : Stored f w.volume snap) :
    Holds (restore snap) (fun _ w' => Placed f w' ∧ (w'.controller.dirty = false → Mirrors f w'))
      w := by
  unfold restore
  rw [holds_bind, holds_modifyController, holds_bind, holds_queue]
  have hp₁ : Placed f { w with controller :=
      { w.controller with queue := PlayQueue.ofParts snap.tracks snap.position } } :=
    ⟨hp.stateFile, PlayQueue.selects_ofParts _ _, hp.session, hp.cache⟩
  split
  · rename_i hstop
    have hres : snap.resumption = .stopped := by
      unfold Snapshot.resumption
      exact if_pos hstop
    refine ⟨hp₁, fun _ => Or.inl ⟨snap, hstored, rfl, ?_⟩⟩
    rw [hres]
    show Resumption.stopped = w.controller.state.resumption
    rw [hst]
    rfl
  · rename_i hplay
    split
    · rename_i hpaused
      have hres : snap.resumption = .paused := by
        unfold Snapshot.resumption
        rw [if_neg hplay, if_pos hpaused]
      simp only [holds_bind, holds_modifyController, holds_publish, holds_log]
      exact ⟨⟨hp.stateFile, PlayQueue.selects_ofParts _ _, hp.session, hp.cache⟩,
        fun _ => Or.inl ⟨snap, hstored, rfl, hres⟩⟩
    · -- a snapshot in output selects a song, and loading it marks the player
      have hpos : 0 ≤ (PlayQueue.ofParts snap.tracks snap.position).position := by
        simp only [Bool.or_eq_true, Bool.not_eq_true', decide_eq_true_eq, not_or] at hplay
        exact Int.not_lt.mp hplay.2
      obtain ⟨t, ht⟩ := PlayQueue.current_of_inBounds (Player.PlayQueue.ofParts_inBounds hpos)
      rw [holds_bind]
      have hprep : (PlayQueue.ofParts snap.tracks snap.position, w.controller.state).2 ≠
          .preparing := by
        rw [hst]
        exact PlayState.noConfusion
      refine ((startPlayback_guarded false _ hp₁).and (startPlayback_marks hp₁ hprep ht)).mono
        ?_
      rintro loaded w₂ ⟨⟨hp₂, _⟩, hd₂⟩
      split
      · refine (emitPlay_guarded w₂ hp₂).mono ?_
        rintro _ w₃ ⟨hp₃, hk₃⟩
        exact ⟨hp₃, fun hd => Bool.noConfusion ((hk₃.marked hd₂).symm.trans hd)⟩
      · exact ⟨hp₂, fun hd => Bool.noConfusion (hd₂.symm.trans hd)⟩

theorem answer_settled (q : Query) : Triple Settled (answer q) fun _ => Settled := by
  intro w hw
  refine (answer_keeps q).holds fun _ w' h => ?_
  change w' = w at h
  rw [h]
  exact hw

/-- Each piece of pending work keeps the invariant: taking the recovered snapshot up, a handled
callback or notice, or a transfer, which spares the file and leaves the player alone. -/
theorem settleOnce_resumable {w : World} (hw : Resumable f w) (hready : Ready w) :
    Holds settleOnce (fun _ w' => Resumable f w') w := by
  refine settleOnce_holds (fun snap hsnap => ?_) (fun hnone _ _ _ => ?_)
    (fun hnone _ _ _ _ => ?_) (fun _ _ _ t ht => ?_) (fun _ _ _ _ => hw)
  · obtain ⟨hstored, hrun⟩ := hw.waiting snap hsnap
    have hstop := hready.stopped_of_recovered hsnap
    have hl : Live { w with controller := { w.controller with recovered := none } } :=
      ⟨rfl, hstop.2.trans hstop.1.1.symm⟩
    rw [if_pos hrun, holds_detached]
    have hp₁ : Placed f
        { w with spans := [], controller := { w.controller with recovered := none } } :=
      ⟨hw.placed.stateFile, hw.placed.selects, hw.placed.session, hw.placed.cache⟩
    refine ((restore_resumable snap hp₁ hstop.1.1 hstored).and
      (restore_spec snap _ ⟨hl, hstop.1⟩)).mono ?_
    rintro _ w₂ ⟨⟨hp₂, hm₂⟩, hs₂⟩
    have hw₂ : Resumable f w₂ :=
      ⟨hp₂, fun s h => (by rw [hs₂.1.1] at h; cases h), fun _ hd _ => hm₂ hd⟩
    exact hw₂.of_frame rfl rfl rfl hp₂.cache
  · -- a decoder callback, handled if the task runs
    split
    · refine Holds.mono (handle_resumable (onDecoderEvent_guarded _) (onDecoderEvent_spec _) ?_
        (hready.settled hnone)) fun _ _ h => h
      exact hw.of_frame rfl rfl rfl hw.placed.cache
    · exact hw.of_frame rfl rfl rfl hw.placed.cache
  · -- a download notice, likewise
    split
    · refine Holds.mono (handle_resumable (onDownloadEvent_guarded _) (onDownloadEvent_spec _) ?_
        (hready.settled hnone)) fun _ _ h => h
      exact hw.of_frame rfl rfl rfl hw.placed.cache
    · exact hw.of_frame rfl rfl rfl hw.placed.cache
  · -- the transfer is one of the manager's, so it writes no file at `f`
    have hdest : Path.same f t.request.destination = false :=
      (Manager.spares_iff.mp hw.placed.cache.2).2 t (List.mem_of_find?_eq_some ht)
    refine ((runTask_guarded hdest w hw.placed).and
      ((keeps_iff _ _).mp (Downloads.runTask_keeps t) w)).mono ?_
    rintro _ w₁ ⟨⟨hp₁, hk₁⟩, ha₁⟩
    have hc₁ : w₁.controller = w.controller := World.controller_of_actor ha₁
    exact hw.of_frame hc₁ (congrArg (fun a => a.2.2.2.2) ha₁) hk₁.file hp₁.cache

/-- A spawned player is resumable: it waits with the snapshot its file holds, or it is fresh
and its file holds none. -/
theorem spawn_resumable (s : Setup) {w : World} (hf : s.stateFile = f)
    (hcat : w.catalog.spares f s.cache.baseDir = true) :
    Holds (spawn s) (fun r w' => r = .ok () → Resumable f w') w := by
  subst hf
  simp only [spawn, holds_bind, holds_modify]
  refine ((Persistence.recover_outcome s.stateFile _).and
    ((keeps_iff _ _).mp (Persistence.recover_keeps_aside s.stateFile) _)).mono
    ?_
  rintro r w₁ ⟨hout, haside⟩
  cases r with
  | error e =>
    intro h
    cases h
  | ok recovered =>
    simp only [holds_bind, holds_modify, holds_log, holds_modifyController, holds_pure]
    intro _
    -- the store and the manager are fresh, and the catalog spares the file
    have hcache : w₁.CacheApart s.stateFile := by
      simp only [World.aside, Prod.mk.injEq] at haside
      obtain ⟨hc, hs, hm⟩ := haside
      refine ⟨?_, ?_⟩
      · rw [hc, hs]
        exact hcat
      · rw [hm]
        rfl
    have hp : Placed s.stateFile { w₁ with
        controller := { settings := s.playback, stateFile := s.stateFile, recovered } } :=
      ⟨rfl, Or.inl rfl, rfl, hcache⟩
    cases recovered with
    | none =>
      exact ⟨⟨hp.stateFile, hp.selects, hp.session, hp.cache⟩, fun _ h => (by cases h),
        fun _ _ _ => Or.inr ⟨rfl, rfl, hout⟩⟩
    | some snap =>
      exact ⟨⟨hp.stateFile, hp.selects, hp.session, hp.cache⟩,
        fun _ h => (by cases h; exact ⟨hout, rfl⟩), fun h => (by cases h)⟩

/-- One step of a player whose state file is `f`: a message or a piece of pending work, as for
any player, or a change by the host that keeps the player, whether its task runs, the state file,
and the cache clear of that file. -/
inductive FileStep (f : String) : World → World → Prop
  | command {w : World} (c : Command) (h : w.controller.recovered = none) :
      FileStep f w ((command c).run w).2
  | query {w : World} (q : Query) (h : w.controller.recovered = none) :
      FileStep f w ((query q).run w).2
  | signal {w : World} (s : Signal) (h : w.controller.recovered = none) :
      FileStep f w ((signal s).run w).2
  | work {w : World} : FileStep f w (settleOnce.run w).2
  | host {w w' : World} (hc : w'.controller = w.controller) (hp : w'.published = w.published)
      (hr : w'.running = w.running) (hv : w'.volume.file? f = w.volume.file? f)
      (hcache : w'.CacheApart f) : FileStep f w w'

/-- The worlds a player with state file `f` reaches: spawned on a catalog that names no file at
`f`, then stepped. -/
inductive FileRun (f : String) : World → Prop
  | start (w : World) (s : Setup) (hf : s.stateFile = f)
      (hc : w.catalog.spares f s.cache.baseDir = true) (h : ((spawn s).run w).1 = .ok ()) :
      FileRun f ((spawn s).run w).2
  | step {w w' : World} (h : FileRun f w) (hs : FileStep f w w') : FileRun f w'

theorem FileStep.playerStep {w w' : World} (h : FileStep f w w') : PlayerStep w w' := by
  cases h with
  | command c h => exact .command c h
  | query q h => exact .query q h
  | signal s h => exact .signal s h
  | work => exact .work
  | host hc hp => exact .host hc hp

theorem FileRun.playerRun {w : World} (h : FileRun f w) : PlayerRun w := by
  induction h with
  | start w s _ _ h => exact .start w s h
  | step _ hs ih => exact .step ih hs.playerStep

theorem FileStep.resumable {w w' : World} (h : FileStep f w w') (hw : Resumable f w)
    (hready : Ready w) : Resumable f w' := by
  -- a message is handled once the recovered state is taken up, between settled worlds
  have settled : w.controller.recovered = none → Settled w := fun hnone =>
    hready.resolve_right fun ⟨h, _⟩ => by
      rw [hnone] at h
      cases h
  cases h with
  | command c hnone => exact request_resumable (apply_guarded c) (apply_spec c) hw (settled hnone)
  | query q hnone => exact request_resumable (answer_guarded q) (answer_settled q) hw (settled hnone)
  | signal s hnone =>
    exact request_resumable (onSignal_guarded s) (onSignal_spec s) hw (settled hnone)
  | work => exact settleOnce_resumable hw hready
  | host hc _ hr hv hcache => exact hw.of_frame hc hr hv hcache

/-- Every world of a run is resumable. -/
theorem FileRun.resumable {w : World} (h : FileRun f w) : Resumable f w := by
  induction h with
  | start w s hf hc h => exact spawn_resumable s hf hc h
  | step hrun hs ih => exact hs.resumable ih hrun.playerRun.ready

/-- A player spawned on a volume whose state file holds a snapshot starts, fresh, with that
snapshot waiting to be taken up. -/
theorem spawn_recovers (s : Setup) {w : World} {snap : Snapshot}
    (hs : Stored s.stateFile w.volume snap) :
    ((spawn s).run w).1 = .ok () ∧
      ((spawn s).run w).2.controller =
        { settings := s.playback, stateFile := s.stateFile, recovered := some snap } ∧
      ((spawn s).run w).2.running = true := by
  have hrec := Persistence.recover_of_stored
    (w := { w with store := { settings := s.cache }, manager := { settings := s.download } }) hs
  show Holds (spawn s) (fun r w' => r = .ok () ∧
    w'.controller = { settings := s.playback, stateFile := s.stateFile, recovered := some snap } ∧
    w'.running = true) w
  simp only [spawn, holds_bind, holds_modify]
  refine holds_of_result hrec ?_
  simp only [holds_bind, holds_modify, holds_log, holds_modifyController, holds_pure]
  exact ⟨trivial, trivial, trivial⟩

/-- A player spawned on a volume with no state file recovers nothing, whether or not it starts. -/
theorem spawn_recovers_nothing (s : Setup) {w : World} (hf : w.volume.file? s.stateFile = none)
    (hr : w.controller.recovered = none) : ((spawn s).run w).2.controller.recovered = none := by
  show Holds (spawn s) (fun _ w' => w'.controller.recovered = none) w
  simp only [spawn, holds_bind, holds_modify]
  have hnone : Holds (Persistence.recover s.stateFile).run (fun r _ => ∀ snap, r ≠ .ok (some snap))
      { w with store := { settings := s.cache }, manager := { settings := s.download } } :=
    Persistence.recover_of_file?_none hf
  refine (hnone.and ((Persistence.recover_keeps_engine s.stateFile).holds fun _ w' h => h)).mono
    ?_
  rintro r w' ⟨hsome, hkeep⟩
  have hctl : w'.controller = w.controller := World.controller_of_actor (congrArg Prod.fst hkeep)
  rcases r with e | _ | snap
  · -- recovery failed: the player is not started, and keeps what it had
    show w'.controller.recovered = none
    rw [hctl]
    exact hr
  · simp only [holds_bind, holds_modify, holds_log, holds_modifyController, holds_pure]
  · exact absurd rfl (hsome snap)

/-- What a restarted player that took `snap` up is, by how the old player played: stopped, or
paused at the snapshot's offset, with the queue `q` and nothing loaded; or, for a player in
output, what starting playback at `q` makes of `w₁`, the player before it took the snapshot up. -/
def Resumed (q : PlayQueue) (snap : Snapshot) (w₁ : World) : Resumption → World → Prop
  | .stopped, w' =>
    w'.controller.state = .stopped ∧ w'.controller.queue = q ∧ w'.controller.session = none
  | .paused, w' =>
    w'.controller.state = .paused ∧ w'.controller.queue = q ∧ w'.controller.session = none ∧
      (tell.run w').1 = max snap.pausedOffsetMs 0 ∧ (duration.run w').1 = -1
  | .started, w' =>
    w' = ((World.detached do if ← startPlayback false then emitPlay).run
      { w₁ with controller := { w₁.controller with queue := q, recovered := none } }).2

/-- A fresh player takes a snapshot up as `Resumed` says. -/
theorem restore_resumed (snap : Snapshot) (w₁ : World) (hst : w₁.controller.state = .stopped)
    (hsession : w₁.controller.session = none) :
    Holds (World.detached (restore snap))
      (fun _ w' => Resumed (PlayQueue.ofParts snap.tracks snap.position) snap w₁ snap.resumption w')
      { w₁ with controller := { w₁.controller with recovered := none } } := by
  rw [holds_detached]
  unfold restore
  rw [holds_bind, holds_modifyController, holds_bind, holds_queue]
  unfold Snapshot.resumption
  split
  · exact ⟨hst, rfl, hsession⟩
  · split
    · simp only [holds_bind, holds_modifyController, holds_publish, holds_log]
      -- nothing is loaded, so `tell` reads the offset and `duration` knows none
      refine ⟨rfl, rfl, hsession, ?_, ?_⟩
      · change Holds tell (fun r _ => r = max snap.pausedOffsetMs 0) _
        simp only [tell, holds_bind, holds_controller]
        simp [Controller.prepared, hsession, Int.ofNat_toNat]
      · change Holds duration (fun r _ => r = -1) _
        simp only [duration, holds_bind, holds_controller]
        simp [Controller.prepared, hsession]
    · rfl

/-- The first piece of work of a spawned player takes its recovered snapshot up. -/
theorem settleOnce_takes_up {w : World} {snap : Snapshot} (hrec : w.controller.recovered = some snap)
    (hrun : w.running = true) :
    settleOnce.run w = (true, ((World.detached (restore snap)).run
      { w with controller := { w.controller with recovered := none } }).2) := by
  show Holds settleOnce (fun r w' => (r, w') = (true, ((World.detached (restore snap)).run
    { w with controller := { w.controller with recovered := none } }).2)) w
  simp only [settleOnce, holds_bind, holds_get]
  split
  · rename_i snap' hsnap
    rw [hrec] at hsnap
    cases hsnap
    simp only [holds_bind, holds_set]
    rw [if_pos hrun]
    rfl
  · rename_i hnone
    rw [hrec] at hnone
    cases hnone

/-- A restart resumes what the player saved. At every point of a run between two messages where
the player took its recovered state up, has nothing unsaved and has a queue its file can hold, if
the file holds a snapshot, then a fresh player spawned on the same volume starts, recovers that
snapshot with the player's queue, and once it took it up it is stopped, or paused at the
snapshot's offset, with that queue and nothing loaded, or it starts playback at that queue, as the
player was stopped, paused, or preparing or playing. -/
theorem restart_resumes_saved_state {w : World} (hrun : FileRun f w)
    (hlive : w.controller.recovered = none) (hclean : w.controller.dirty = false)
    (hfits : QueueFits w.controller.queue) {snap : Snapshot} (hsaved : Stored f w.volume snap)
    (s : Setup) (hs : s.stateFile = f) (w₀ : World) (hv : w₀.volume = w.volume) :
    ((spawn s).run w₀).1 = .ok () ∧ ((spawn s).run w₀).2.controller.recovered = some snap ∧
      PlayQueue.ofParts snap.tracks snap.position = w.controller.queue ∧
      (settleOnce.run ((spawn s).run w₀).2).1 = true ∧
      Resumed w.controller.queue snap ((spawn s).run w₀).2 w.controller.state.resumption
        (settleOnce.run ((spawn s).run w₀).2).2 := by
  -- the file mirrors the player, and what it holds is `snap`
  have hagree : Agrees w.controller snap := by
    rcases hrun.resumable.mirrored hlive hclean hfits with ⟨s', hs', hag⟩ | ⟨_, _, hnone⟩
    · rw [hsaved.unique hs']
      exact hag
    · exact absurd hsaved (hnone snap)
  have hstored : Stored s.stateFile w₀.volume snap := by
    rw [hs, hv]
    exact hsaved
  obtain ⟨hok, hctl, hrunning⟩ := spawn_recovers s hstored
  have hrec : ((spawn s).run w₀).2.controller.recovered = some snap := by rw [hctl]
  rw [settleOnce_takes_up hrec hrunning]
  refine ⟨hok, hrec, hagree.1, rfl, ?_⟩
  have hout := restore_resumed snap ((spawn s).run w₀).2 (by rw [hctl]) (by rw [hctl])
  rw [hagree.1, hagree.2] at hout
  exact hout

/-- The state file of the runs below. -/
def restartFile : String := "/state/player.state"

def restartSetup : Setup := ⟨{}, {}, {}, restartFile⟩

/-- A pause at 93.5 s in the second of two songs. -/
def pausedSnapshot : Snapshot := ⟨[1, 2], 1, true, true, 93500⟩

/-- A volume whose state file holds that pause, and nothing else. -/
def pausedHost : World :=
  { volume := ({ capacity := 1024 * 1024 * 1024 } : Volume).putFile restartFile
      (.whole pausedSnapshot.encode) }

/-- The player spawned there, once it took the pause up. -/
def resumedPause : World := (settleOnce.run ((spawn restartSetup).run pausedHost).2).2

/-- The pause taken up is mirrored by its file, and a second restart brings it back paused. -/
theorem saved_pause_resumes_again :
    FileRun restartFile resumedPause ∧ resumedPause.controller.recovered = none ∧
      resumedPause.controller.dirty = false ∧ QueueFits resumedPause.controller.queue ∧
      Stored restartFile resumedPause.volume pausedSnapshot ∧
      let w₁ := ((spawn restartSetup).run resumedPause).2
      ((spawn restartSetup).run resumedPause).1 = .ok () ∧
        w₁.controller.recovered = some pausedSnapshot ∧
        PlayQueue.ofParts pausedSnapshot.tracks pausedSnapshot.position =
          resumedPause.controller.queue ∧
        (settleOnce.run w₁).1 = true ∧
        Resumed resumedPause.controller.queue pausedSnapshot w₁
          resumedPause.controller.state.resumption (settleOnce.run w₁).2 := by
  have hrun : FileRun restartFile resumedPause :=
    .step (.start pausedHost restartSetup rfl rfl rfl) .work
  have hlive : resumedPause.controller.recovered = none := by decide +kernel
  have hclean : resumedPause.controller.dirty = false := by decide +kernel
  have hfits : QueueFits resumedPause.controller.queue := by decide +kernel
  have hsaved : Stored restartFile resumedPause.volume pausedSnapshot :=
    ⟨pausedSnapshot.encode, rfl,
      Snapshot.decode_encode_of_offsetKept _ (by decide) (by decide) (Or.inl rfl)⟩
  exact ⟨hrun, hlive, hclean, hfits, hsaved,
    restart_resumes_saved_state hrun hlive hclean hfits hsaved restartSetup rfl resumedPause rfl⟩

/-! ## A catalog that names the state file as a cached song -/

def plainTrack (id : TrackId) : TrackInfo :=
  { id, sourceId := 1, contentId := s!"c{id}", mime := "audio/mpeg", url := Script.defaultUrl id,
    size := 4096 }

/-- A host whose state file, holding a queue of track 2, is for the catalog also the cached file
of track 3, the oldest in the cache; the volume has room for little more than two songs. -/
def strayHost : World :=
  let saved : Snapshot := ⟨[2], -1, false, false, 0⟩
  { volume := ({ capacity := 8200 } : Volume).putFile restartFile
      (.whole saved.encode),
    catalog := [(1, plainTrack 1), (2, plainTrack 2),
      (3, { plainTrack 3 with cachedPath := some restartFile, cachedAt := some 1 })],
    transport := (({ honourRanges := true } : Transport).setRoute (plainTrack 1).url
      (.body 4096)).setRoute (plainTrack 2).url (.body 4096) }

def prefetchSetup : Setup :=
  ⟨{ prefetch := true }, {}, { baseDir := "/cache", leaveFreeBytes := 0 }, restartFile⟩

/-- The player on that host once track 1 is inserted before track 2: it prepares track 1, and
the change is saved. -/
def savedInsert : World :=
  let w₁ := ((spawn prefetchSetup).run strayHost).2
  ((command (.insert 1 0)).run (settleOnce.run w₁).2).2

/-- The player there before its third piece of work: track 1 is downloaded and committed, and
the notice of its finish waits. -/
def finishedFirst : World := (settleOnce.run (settleOnce.run savedInsert).2).2

/-- Then the prefetch of track 2 makes room by evicting track 3: the state file. -/
def strayEviction : World := (settleOnce.run finishedFirst).2

/-- The committed entries eviction may take for track 2 there: track 1's file, cached at the
first clock reading, and the state file, which the catalog gives as track 3's. -/
def firstEntry : CachedContent := ⟨1, "c1", "/cache/1/c1.mp3", 4096, 1000000⟩

def strayEntry : CachedContent := ⟨1, "c3", restartFile, 4096, 1⟩

/-- Where the player stands before the third piece of work: nothing unsaved, track 1 loaded and
preparing with track 2 next, prefetching on and no transfer active, the finish of track 1 the
first notice; the volume is mounted, and the store allocates under `/cache` with no margin. -/
theorem finishedFirst_stands :
    finishedFirst.controller.recovered = none ∧ finishedFirst.decoderEvents = [] ∧
      finishedFirst.running = true ∧ finishedFirst.controller.dirty = false ∧
      finishedFirst.controller.queue = ⟨[1, 2], 0⟩ ∧
      finishedFirst.controller.state = .preparing ∧
      finishedFirst.controller.session.map (·.track) = some 1 ∧
      finishedFirst.controller.settings.prefetch = true ∧ finishedFirst.manager.active = none ∧
      finishedFirst.notices.pop?.map (·.1) = some (.finish 1) ∧
      finishedFirst.catalog.lookup 2 = some (plainTrack 2) ∧
      finishedFirst.volume.mounted = true ∧ finishedFirst.store.settings.baseDir = "/cache" ∧
      finishedFirst.store.settings.leaveFreeBytes = 0 := by
  decide +kernel

section Eviction

variable {w : World} (hc : w.catalog = finishedFirst.catalog) (hs : w.store = finishedFirst.store)

include hc hs in
/-- Making room for track 2 there starts from the state file: both entries may go, and the
order is oldest first. -/
theorem strayEviction_order :
    Cache.evictionOrder w (plainTrack 2).key = [strayEntry, firstEntry] := by
  have hentries : finishedFirst.catalog.cachedEntries.filter
      (Cache.evictable (plainTrack 2).key (finishedFirst.store.provisional.map (·.1))) =
      [firstEntry, strayEntry] := by
    decide +kernel
  have hperm := Cache.evictionOrder_perm w (plainTrack 2).key
  rw [hc, hs, hentries] at hperm
  rcases List.perm_pair.mp hperm with h | h
  · -- track 1's entry is the newer one, so it cannot come first
    have hsorted := Cache.evictionOrder_sorted w (plainTrack 2).key
    rw [h] at hsorted
    simp [firstEntry, strayEntry] at hsorted
  · exact h

include hc hs in
/-- The allocation for track 2 evicts exactly the state file: the volume lacks 26 bytes for it,
and dropping the state file frees enough. After it the cache is clear of the state file again,
and the player is as it was. -/
theorem requestStorage_evicts_state_file (hv : w.volume = finishedFirst.volume)
    (hm : w.manager = finishedFirst.manager) :
    Holds (Cache.requestStorage (plainTrack 2)).run
      (fun r w' => w'.volume.file? restartFile = none ∧ w'.CacheApart restartFile ∧
        w'.controller = w.controller ∧ ∀ p, r = .ok p → Path.same restartFile p = false) w := by
  have hmounted : w.volume.mounted = true := by
    rw [hv]
    exact finishedFirst_stands.2.2.2.2.2.2.2.2.2.2.2.1
  have hpath : Cache.pathFor w.store.settings.baseDir (plainTrack 2).key (plainTrack 2).mime =
      .ok "/cache/1/c2.mp3" := by
    rw [hs]
    decide +kernel
  refine ((Cache.requestStorage_spec w _ _ hmounted hpath).and
    ((keeps_iff _ _).mp (Cache.requestStorage_keeps _) w)).mono fun r w' ⟨hroom, hkeep⟩ => ?_
  obtain ⟨n, hn, hmin, hcat, hfiles, hout⟩ := hroom
  simp only [Cache.freeAfter, strayEviction_order hc hs, hv, hs] at hn hmin hcat hfiles hout
  -- the volume falls short by 26 bytes, and dropping the state file alone makes room
  have hneeded : min maxWord (finishedFirst.store.settings.leaveFreeBytes +
      ((plainTrack 2).size - finishedFirst.volume.lengthAt "/cache/1/c2.mp3")) = 4096 := by
    decide +kernel
  have hshort : (finishedFirst.volume.dropFiles []).free = 4070 := by decide +kernel
  have hroom : (finishedFirst.volume.dropFiles [strayEntry]).free = 4104 := by decide +kernel
  rw [hneeded] at hmin hout
  have hn₁ : n = 1 := by
    match n, hn with
    | 0, _ =>
      rcases hout with ⟨henough, -⟩ | ⟨-, hall, -⟩
      · simp only [List.take_zero, hshort] at henough
        omega
      · cases hall
    | 1, _ => rfl
    | 2, _ =>
      have h₁ := hmin 1 (by omega)
      simp only [List.take_one, List.head?_cons, Option.toList_some, hroom] at h₁
      omega
  subst hn₁
  have hengine := congrArg Prod.fst hkeep
  have hmgr : w'.manager = w.manager := congrArg (fun e => e.2.1) hkeep
  have hsettings : w'.store.settings = finishedFirst.store.settings := by
    rcases hout with ⟨-, -, hst⟩ | ⟨-, -, -, hst⟩
    · rw [hst]
      rfl
    · rw [hst]
  refine ⟨?_, ⟨?_, ?_⟩, World.controller_of_actor hengine, ?_⟩
  · -- the state file is among the files dropped
    unfold Volume.file?
    rw [hfiles]
    exact Volume.file?_dropFiles_of_mem (List.mem_singleton_self strayEntry) (Path.same_self _)
  · rw [hcat, hsettings, hc]
    decide +kernel
  · rw [hmgr, hm]
    decide +kernel
  · intro p hp
    rcases hout with ⟨-, hr, -⟩ | ⟨-, -, hr, -⟩
    · rw [hr] at hp
      cases hp
      decide +kernel
    · rw [hr] at hp
      cases hp

end Eviction

/-- The prefetch that the finish of track 1 sets off deletes the state file and leaves the player
as it was. -/
theorem prefetch_deletes_state_file {w : World} (hc : w.catalog = finishedFirst.catalog)
    (hs : w.store = finishedFirst.store) (hv : w.volume = finishedFirst.volume)
    (hm : w.manager = finishedFirst.manager) (hctl : w.controller = finishedFirst.controller) :
    Holds prefetch (fun _ w' => w'.volume.file? restartFile = none ∧
      w'.controller = finishedFirst.controller) w := by
  obtain ⟨-, -, -, -, hq, -, -, hpre, hidle, -, hlookup, -⟩ := finishedFirst_stands
  refine (Holds.and ?_ (prefetch_keeps.holds fun _ w' h => World.controller_of_actor h)).mono
    fun _ _ h => ⟨h.1, h.2.trans hctl⟩
  simp only [prefetch, holds_bind, holds_controller, holds_get, hctl, hm, hpre, hidle, hq]
  -- track 2 is next; it is not committed, so storage is requested for it
  simp only [Bool.not_true, Option.isSome_none, Bool.or_false, Bool.false_eq_true, if_false]
  change Holds (discard (prefetchTrack 2).run) _ w
  rw [holds_discard]
  simp only [prefetchTrack, lookupTrack, holds_attempt_bind, holds_attempt_get, hc, hlookup]
  have hfresh : (plainTrack 2).cachedPath = none := rfl
  simp only [Cache.committedPath, hfresh, holds_attempt_pure, Option.isSome_none,
    Bool.false_eq_true, if_false]
  rw [holds_attempt_bind]
  refine (requestStorage_evicts_state_file hc hs hv hm).mono ?_
  rintro r w₁ ⟨hfile, happart, _, hpath⟩
  cases r with
  | error e => exact hfile
  | ok path =>
    -- what follows writes nothing at the state file
    have htail := (Spares.attemptBind (Spares.of_keeps_id (partialLength_reads path)) fun offset =>
      Spares.attemptDiscard (Spares.liftM (Downloads.start_spares (f := restartFile)
        (downloadRequest (plainTrack 2) path offset) (hpath path rfl)))) w₁ happart
    refine htail.mono ?_
    rintro _ w₂ ⟨-, hv₂⟩
    exact hv₂.trans hfile

/-- The third piece of work handles the finish of track 1: it leaves the player as it was, and
its prefetch deletes the state file. -/
theorem strayEviction_spec :
    strayEviction.controller = finishedFirst.controller ∧
      strayEviction.volume.file? restartFile = none := by
  obtain ⟨hrec, hdec, hrun, hdirty, -, -, hsession, -, -, hpop, -⟩ := finishedFirst_stands
  obtain ⟨rest, hrest⟩ : ∃ rest, finishedFirst.notices.pop? = some (.finish 1, rest) := by
    cases h : finishedFirst.notices.pop? with
    | none => rw [h] at hpop; cases hpop
    | some p =>
      obtain ⟨e, rest⟩ := p
      simp only [h, Option.map_some, Option.some.injEq] at hpop
      subst hpop
      exact ⟨rest, rfl⟩
  show Holds settleOnce (fun _ w' => w'.controller = finishedFirst.controller ∧
    w'.volume.file? restartFile = none) finishedFirst
  simp only [settleOnce, holds_bind, holds_get, hrec, hdec, hrest, holds_set, hrun, if_true,
    handle, holds_detached, onDownloadEvent, holds_emitDownload, holds_controller, hsession,
    if_true, holds_emitBuffer]
  -- the handler reaches the prefetch with the cache, the manager and the player as they were
  refine Holds.mono (prefetch_deletes_state_file (by rfl) (by rfl) (by rfl) (by rfl) (by rfl))
    ?_
  rintro _ w₁ ⟨hfile, hctl⟩
  -- nothing was marked, so nothing is saved
  have hclean : w₁.controller.dirty = false := by rw [hctl]; exact hdirty
  simp only [saveIfDirty, holds_bind, holds_controller, hclean, Bool.false_eq_true, if_false,
    holds_pure]
  exact ⟨hctl, hfile⟩

/-- A save succeeds and nothing changes after it, yet the cache deletes the state file: at that
point a fresh player recovers nothing, where the old one has a queue of two songs and prepares
the first. -/
theorem eviction_deletes_saved_state :
    PlayerRun savedInsert ∧ savedInsert.controller.dirty = false ∧
      Stored restartFile savedInsert.volume ⟨[1, 2], 0, true, false, 0⟩ ∧
      PlayerRun strayEviction ∧ strayEviction.controller.recovered = none ∧
      strayEviction.controller.dirty = false ∧ strayEviction.controller.queue = ⟨[1, 2], 0⟩ ∧
      strayEviction.controller.state = .preparing ∧
      strayEviction.volume.file? restartFile = none ∧
      ((spawn prefetchSetup).run strayEviction).2.controller.recovered = none := by
  have hsaved : PlayerRun savedInsert :=
    .step (.step (.start strayHost prefetchSetup rfl) .work) (.command _ rfl)
  have hevicted : PlayerRun strayEviction := .step (.step (.step hsaved .work) .work) .work
  have hstored : Stored restartFile savedInsert.volume ⟨[1, 2], 0, true, false, 0⟩ :=
    Persistence.stored_encode (by decide +kernel) (by decide) (by decide) (Or.inr rfl)
  obtain ⟨hctl, hfile⟩ := strayEviction_spec
  obtain ⟨hrec, -, -, hdirty, hq, hst, -⟩ := finishedFirst_stands
  rw [← hctl] at hrec hdirty hq hst
  exact ⟨hsaved, by decide +kernel, hstored, hevicted, hrec, hdirty, hq, hst, hfile,
    spawn_recovers_nothing prefetchSetup hfile hrec⟩

end Player

end PlaybackEngine
