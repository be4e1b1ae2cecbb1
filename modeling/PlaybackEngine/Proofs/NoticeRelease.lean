import PlaybackEngine.Proofs.TransferReplay

set_option autoImplicit false

/-!
# What a download notice may delete and release

Download notices name a track only. The player handles a `Cancel` for a track by releasing the
storage of the track's newest transfer, unless the active transfer still writes that file or the
loaded song plays it; and a failure for good by releasing the loaded song's storage when the song
is that track, else the newest transfer's, skipping the song in the first case. Releasing ends
the content's allocation and deletes the file; it never reads or changes the catalog.

So a `Cancel` leaves the player, the download manager and the catalog as they are, deletes at
most the file of the track's newest transfer, and never the active transfer's or the loaded
song's (`cancel_spares_files_in_use`); a failure for good about a track that is not loaded leaves
the player, the manager and the catalog alone and deletes at most that same file
(`failure_of_unloaded_track_releases_newest`). `notices_touch_only_newest_storage` puts the two
together.

The allocations the two notices end are exact (`notices_end_newest_allocation`): the `Cancel`
ends the one its release test picks (`cancelledKey`), the failure that of the track's newest
transfer, and neither another. Both find the transfer through the manager's record of the track,
so a notice about a track whose record pruning has dropped ends no allocation at all.

Neither handler knows which transfer sent the notice, nor what the catalog records:

* a song whose catalog file was cut short is fetched again into the same file, and a failure for
  good of that fetch deletes the file the catalog still names
  (`failed_refetch_deletes_cataloged_file`);
* a failure notice still waiting when the song is loaded again, with a newer transfer into the
  same file, deletes the newer transfer's file and skips the song
  (`stale_failure_drops_newer_transfer`).
-/

namespace PlaybackEngine

namespace Path

theorem same_iff {p q : String} : same p q = true ↔ components p = components q := beq_iff_eq

theorem same_symm {p q : String} (h : same p q = true) : same q p = true :=
  same_iff.mpr (same_iff.mp h).symm

theorem same_trans {p q r : String} (h₁ : same p q = true) (h₂ : same q r = true) :
    same p r = true :=
  same_iff.mpr ((same_iff.mp h₁).trans (same_iff.mp h₂))

end Path

namespace Volume

theorem file?_dropFile (v : Volume) (p q : String) :
    (v.dropFile p).file? q = if Path.same q p then none else v.file? q := by
  unfold file? dropFile
  split
  · rename_i hqp
    -- a file found under `q` would be one under `p` too, and those are filtered out
    rw [List.find?_eq_none.mpr, Option.map_none]
    intro x hx hxq
    have hxp : Path.same x.1 p = true := Path.same_trans hxq hqp
    simp [List.mem_filter, hxp] at hx
  · rename_i hqp
    rw [List.find?_filter]
    congr 2
    funext x
    by_cases hxq : Path.same x.1 q = true
    · have hxp : Path.same x.1 p = false := by
        cases h : Path.same x.1 p with
        | false => rfl
        | true => exact absurd (Path.same_trans (Path.same_symm hxq) h) hqp
      simp [hxq, hxp]
    · simp [hxq]

/-- `v'` is `v` with the file at `p` deleted or kept: every file that changed is at `p`, and
gone. -/
def LosesAtMost (v : Volume) (p : String) (v' : Volume) : Prop :=
  ∀ q, v'.file? q ≠ v.file? q → Path.same q p = true ∧ v'.file? q = none

theorem losesAtMost_refl (v : Volume) (p : String) : v.LosesAtMost p v :=
  fun _ h => absurd rfl h

theorem losesAtMost_dropFile (v : Volume) (p : String) : v.LosesAtMost p (v.dropFile p) := by
  intro q hq
  by_cases hqp : Path.same q p = true
  · exact ⟨hqp, by rw [file?_dropFile, if_pos hqp]⟩
  · rw [file?_dropFile, if_neg hqp] at hq
    exact absurd rfl hq

theorem LosesAtMost.file?_eq {v v' : Volume} {p q : String} (h : v.LosesAtMost p v')
    (hq : Path.same q p = false) : v'.file? q = v.file? q := by
  by_cases hne : v'.file? q = v.file? q
  · exact hne
  · have hsame := (h q hne).1
    rw [hq] at hsame
    cases hsame

end Volume

namespace CacheStore

/-- The store with the allocation of a content ended, or as it is for no content. -/
def releasing (s : CacheStore) : Option CacheKey → CacheStore
  | some k => (s.endAllocation k).2
  | none => s

end CacheStore

namespace Cache

theorem releaseStorage_spec (k : CacheKey) (p : String) (w : World) :
    Holds (releaseStorage k p).run
      (fun _ w' => w'.catalog = w.catalog ∧ w.volume.LosesAtMost p w'.volume) w := by
  unfold releaseStorage
  simp only [attemptInSpan_run, holds_inSpan, holds_attempt_bind, holds_attempt_modify,
    holds_attempt_get]
  split
  · simp only [holds_changeVolume, Volume.deleteFile]
    by_cases hany : (w.volume.files.any fun x => Path.same x.1 p) = true
    · simp [hany, Volume.losesAtMost_dropFile]
    · simp [hany, Volume.losesAtMost_refl]
  · exact ⟨rfl, Volume.losesAtMost_refl _ _⟩

/-- Releasing ends the content's allocation whatever becomes of its file. -/
theorem releaseStorage_store (k : CacheKey) (p : String) (w : World) :
    Holds (releaseStorage k p).run (fun _ w' => w'.store = (w.store.endAllocation k).2) w := by
  unfold releaseStorage
  simp only [attemptInSpan_run, holds_inSpan, holds_attempt_bind, holds_attempt_modify,
    holds_attempt_get]
  split
  · simp only [holds_changeVolume]
    split <;> trivial
  · rfl

end Cache

end PlaybackEngine

namespace PlaybackEngine.Player

open PlaybackEngine.World Downloads

theorem releaseQuietly_spec (track : TrackId) (k : CacheKey) (p : String) (w : World) :
    Holds (releaseQuietly track k p)
      (fun _ w' => w'.catalog = w.catalog ∧ w.volume.LosesAtMost p w'.volume) w := by
  unfold releaseQuietly
  rw [holds_bind]
  refine (Cache.releaseStorage_spec k p w).mono fun r w' hw' => ?_
  cases r with
  | ok => exact hw'
  | error => exact hw'

theorem releaseQuietly_store (track : TrackId) (k : CacheKey) (p : String) (w : World) :
    Holds (releaseQuietly track k p) (fun _ w' => w'.store = (w.store.endAllocation k).2) w := by
  unfold releaseQuietly
  rw [holds_bind]
  refine (Cache.releaseStorage_store k p w).mono fun r w' hw' => ?_
  cases r with
  | ok => exact hw'
  | error => exact hw'

/-- From `w` to `w'` at most the file of the newest transfer of `track` went: every file that
changed is that transfer's destination, and gone. -/
def ReleasedNewest (track : TrackId) (w w' : World) : Prop :=
  ∀ q, w'.volume.file? q ≠ w.volume.file? q →
    ∃ req, requestFor w.manager track = some req ∧ Path.same q req.destination = true ∧
      w'.volume.file? q = none

/-- From `w` to `w'` the file the active transfer writes and the file the loaded song plays
stayed as they were. -/
def SparedInUse (w w' : World) : Prop :=
  (∀ d ∈ activeRecord w.manager, w'.volume.file? d.destination = w.volume.file? d.destination) ∧
    ∀ s ∈ w.controller.session, w'.volume.file? s.path = w.volume.file? s.path

theorem releaseSuperseded_spec (track : TrackId) (w : World) :
    Holds (releaseSuperseded track)
      (fun _ w' => w'.catalog = w.catalog ∧ ReleasedNewest track w w' ∧ SparedInUse w w') w := by
  unfold releaseSuperseded
  simp only [holds_bind, holds_get]
  split
  · exact ⟨rfl, fun _ h => absurd rfl h, fun _ _ => rfl, fun _ _ => rfl⟩
  · rename_i req hreq
    split
    · exact ⟨rfl, fun _ h => absurd rfl h, fun _ _ => rfl, fun _ _ => rfl⟩
    · rename_i hfree
      -- neither the active transfer nor the loaded song names the released file
      simp only [Bool.or_eq_true, not_or] at hfree
      obtain ⟨hwritten, hplayed⟩ := hfree
      refine (releaseQuietly_spec track req.key req.destination w).mono ?_
      rintro _ w' ⟨hc, hv⟩
      refine ⟨hc, fun q hq => ?_, fun d hd => ?_, fun s hs => ?_⟩
      · obtain ⟨hsame, hgone⟩ := hv q hq
        exact ⟨req, hreq, hsame, hgone⟩
      · rw [Option.mem_def] at hd
        rw [hd] at hwritten
        exact hv.file?_eq (by simpa using hwritten)
      · rw [Option.mem_def] at hs
        rw [hs] at hplayed
        exact hv.file?_eq (by simpa using hplayed)

/-- A failure for good releases the loaded song's storage when the song is the failed track,
else the storage of the track's newest transfer. -/
theorem releaseFailed_spec (track : TrackId) (w : World) :
    Holds (releaseFailed track)
      (fun _ w' => w'.catalog = w.catalog ∧
        match w.controller.session.filter (·.track == track) with
        | some s => w.volume.LosesAtMost s.path w'.volume
        | none => ReleasedNewest track w w') w := by
  unfold releaseFailed
  simp only [holds_bind, holds_get]
  cases hs : w.controller.session.filter (·.track == track) with
  | some s =>
    exact releaseQuietly_spec track s.key s.path w
  | none =>
    cases hr : requestFor w.manager track with
    | none => exact ⟨rfl, fun _ h => absurd rfl h⟩
    | some req =>
      refine (releaseQuietly_spec track req.key req.destination w).mono ?_
      rintro _ w' ⟨hc, hv⟩
      refine ⟨hc, fun q hq => ?_⟩
      obtain ⟨hsame, hgone⟩ := hv q hq
      exact ⟨req, hr, hsame, hgone⟩

/-- Whether the active transfer writes, or the loaded song plays, the file at `p`. -/
def inUse (w : World) (p : String) : Bool :=
  (activeRecord w.manager).any (Path.same ·.destination p) ||
    w.controller.session.any (Path.same ·.path p)

/-- The content whose allocation a `Cancel` of `track` ends: that of the track's newest
transfer, unless its file is in use. -/
def cancelledKey (w : World) (track : TrackId) : Option CacheKey :=
  match requestFor w.manager track with
  | some req => if inUse w req.destination then none else some req.key
  | none => none

theorem releaseSuperseded_store (track : TrackId) (w : World) :
    Holds (releaseSuperseded track)
      (fun _ w' => w'.store = w.store.releasing (cancelledKey w track)) w := by
  unfold releaseSuperseded cancelledKey
  simp only [holds_bind, holds_get]
  cases hreq : requestFor w.manager track with
  | none => rfl
  | some req =>
    -- the skip test of the handler is `inUse`, spelt out
    simp only
    by_cases hbusy : inUse w req.destination = true
    · rw [if_pos hbusy]
      rw [inUse] at hbusy
      simp only [hbusy, if_true]
      rfl
    · rw [if_neg hbusy]
      rw [inUse] at hbusy
      simp only [hbusy]
      exact releaseQuietly_store track req.key req.destination w

theorem releaseFailed_store (track : TrackId) (w : World)
    (hu : w.controller.session.filter (·.track == track) = none) :
    Holds (releaseFailed track)
      (fun _ w' => w'.store = w.store.releasing ((requestFor w.manager track).map (·.key))) w := by
  unfold releaseFailed
  simp only [holds_bind, holds_get, hu]
  cases requestFor w.manager track with
  | none => rfl
  | some req => exact releaseQuietly_store track req.key req.destination w

theorem session_filter_of_unloaded {c : Controller} {track : TrackId}
    (hu : ∀ s ∈ c.session, s.track ≠ track) : c.session.filter (·.track == track) = none := by
  cases hs : c.session with
  | none => rfl
  | some s =>
    have hst : s.track ≠ track := hu s hs
    simp [hst]

theorem current_ne_of_unloaded {c : Controller} {track : TrackId}
    (hu : ∀ s ∈ c.session, s.track ≠ track) : c.session.map (·.track) ≠ some track := by
  intro h
  obtain ⟨s, hs, hst⟩ := Option.map_eq_some_iff.mp h
  exact hu s hs hst

/-- Handling a `Cancel` changes neither the player nor the manager nor the catalog, and deletes
at most the file of the track's newest transfer, never one the active transfer writes or the
loaded song plays. -/
theorem cancel_spares_files_in_use (track : TrackId) (w : World) :
    let w' := ((onDownloadEvent (.cancel track)).run w).2
    w'.controller = w.controller ∧ w'.manager = w.manager ∧ w'.catalog = w.catalog ∧
      ReleasedNewest track w w' ∧ SparedInUse w w' := by
  intro w'
  let w₁ : World := { w with hub := (w.hub.emitDownload (.cancel track)).2 }
  have hrun : w' = ((releaseSuperseded track).run w₁).2 := rfl
  have hkeep := releaseSuperseded_keeps track w₁
  obtain ⟨hc, hr, hs⟩ := releaseSuperseded_spec track w₁
  rw [hrun]
  exact ⟨congrArg (·.1.1) hkeep, congrArg (·.2.1) hkeep, hc, hr, hs⟩

/-- Handling a failure for good of a track that is not loaded changes neither the player nor
the manager nor the catalog, and deletes at most the file of the track's newest transfer. -/
theorem failure_of_unloaded_track_releases_newest (track : TrackId) (m : String) (w : World)
    (hu : ∀ s ∈ w.controller.session, s.track ≠ track) :
    let w' := ((onDownloadEvent (.error track m false)).run w).2
    w'.controller = w.controller ∧ w'.manager = w.manager ∧ w'.catalog = w.catalog ∧
      ReleasedNewest track w w' := by
  show Holds (onDownloadEvent (.error track m false)) (fun _ w' =>
    w'.controller = w.controller ∧ w'.manager = w.manager ∧ w'.catalog = w.catalog ∧
      ReleasedNewest track w w') w
  unfold onDownloadEvent controller
  simp only [holds_bind, holds_emitDownload, holds_get, holds_pure]
  -- the failed track is not loaded, so nothing is skipped after the release
  refine ((releaseFailed_spec track _).and ((keeps_iff _ _).mp (releaseFailed_keeps track) _)).mono
    ?_
  rintro _ w' ⟨⟨hc, hrel⟩, hkeep⟩
  rw [holds_ite, if_neg (current_ne_of_unloaded hu)]
  simp only [session_filter_of_unloaded hu] at hrel
  exact ⟨congrArg (·.1.1) hkeep, congrArg (·.2.1) hkeep, hc, hrel⟩

/-- A `Cancel` or a failure for good touches no storage but that of the track's newest transfer:
a `Cancel` never a file in use and never the player, a failure the player only when the track is
loaded. -/
theorem notices_touch_only_newest_storage (track : TrackId) (m : String) (w : World) :
    (let w' := ((onDownloadEvent (.cancel track)).run w).2
     w'.controller = w.controller ∧ w'.manager = w.manager ∧ w'.catalog = w.catalog ∧
       ReleasedNewest track w w' ∧ SparedInUse w w') ∧
    ((∀ s ∈ w.controller.session, s.track ≠ track) →
      let w' := ((onDownloadEvent (.error track m false)).run w).2
      w'.controller = w.controller ∧ w'.manager = w.manager ∧ w'.catalog = w.catalog ∧
        ReleasedNewest track w w') :=
  ⟨cancel_spares_files_in_use track w, failure_of_unloaded_track_releases_newest track m w⟩

/-! ## Which allocations a notice ends -/

/-- A `Cancel` ends the allocation its release test picks, and no other. -/
theorem cancel_store (track : TrackId) (w : World) :
    ((onDownloadEvent (.cancel track)).run w).2.store = w.store.releasing (cancelledKey w track) :=
  releaseSuperseded_store track { w with hub := (w.hub.emitDownload (.cancel track)).2 }

/-- A failure for good of a track that is not loaded ends the allocation of the track's newest
transfer, and no other. -/
theorem failure_store (track : TrackId) (m : String) (w : World)
    (hu : ∀ s ∈ w.controller.session, s.track ≠ track) :
    ((onDownloadEvent (.error track m false)).run w).2.store =
      w.store.releasing ((requestFor w.manager track).map (·.key)) := by
  show Holds (onDownloadEvent (.error track m false)) (fun _ w' =>
    w'.store = w.store.releasing ((requestFor w.manager track).map (·.key))) w
  unfold onDownloadEvent controller
  simp only [holds_bind, holds_emitDownload, holds_get, holds_pure]
  refine Holds.mono (releaseFailed_store track _ (session_filter_of_unloaded hu))
    fun _ w' h => ?_
  rw [holds_ite, if_neg (current_ne_of_unloaded hu)]
  exact h

/-- The allocations a notice ends. A `Cancel` ends that of the track's newest transfer unless the
active transfer writes its file or the loaded song plays it, and a failure for good of a track
that is not loaded ends it always; neither ends another. Both find the transfer through the
manager's record of the track: once pruning has dropped that record, the notice ends no
allocation, and the aborted transfer's allocation stays for good. -/
theorem notices_end_newest_allocation (track : TrackId) (m : String) (w : World) :
    ((onDownloadEvent (.cancel track)).run w).2.store = w.store.releasing (cancelledKey w track) ∧
    ((∀ s ∈ w.controller.session, s.track ≠ track) →
      ((onDownloadEvent (.error track m false)).run w).2.store =
        w.store.releasing ((requestFor w.manager track).map (·.key))) :=
  ⟨cancel_store track w, failure_store track m w⟩

/-- Track 2 loaded while its transfer runs, and the aborted transfer of track 1 still recorded:
both hold their allocations. -/
def supersededTransfer : World :=
  let t₁ : TrackInfo :=
    { id := 1, sourceId := 1, contentId := "c1", mime := "audio/mpeg",
      url := Script.defaultUrl 1, size := 4096 }
  let t₂ : TrackInfo := { t₁ with id := 2, contentId := "c2", url := Script.defaultUrl 2 }
  let r₁ := downloadRequest t₁ "/cache/1/c1.mp3" 0
  let r₂ := downloadRequest t₂ "/cache/1/c2.mp3" 0
  let record (r : DownloadRequest) (s : DownloadState) : Download :=
    { track := r.track, url := r.url, destination := r.destination, expectedLength := 4096,
      bytesWritten := 0, resumeOffset := 0, state := s, lastError := none }
  { catalog := [(1, t₁), (2, t₂)],
    manager :=
      { records := [(1, ⟨1, record r₁ .aborted, r₁⟩), (2, ⟨2, record r₂ .connecting, r₂⟩)],
        active := some (2, 2), nextTransfer := 3 },
    store :=
      { settings := {},
        provisional := [(t₁.key, ⟨r₁.destination, 4096⟩), (t₂.key, ⟨r₂.destination, 4096⟩)] },
    controller := { session := some ⟨1, 2, t₂.key, r₂.destination, false⟩ } }

/-- Either notice about track 1 ends its allocation and keeps that of the loaded track 2. -/
theorem superseded_allocation_ends :
    (∀ s ∈ supersededTransfer.controller.session, s.track ≠ 1) ∧
    ((onDownloadEvent (.cancel 1)).run supersededTransfer).2.store.provisional =
      [(⟨1, "c2"⟩, ⟨"/cache/1/c2.mp3", 4096⟩)] ∧
    ((onDownloadEvent (.error 1 "HTTP 404: fake status" false)).run
      supersededTransfer).2.store.provisional = [(⟨1, "c2"⟩, ⟨"/cache/1/c2.mp3", 4096⟩)] := by
  have hu : ∀ s ∈ supersededTransfer.controller.session, s.track ≠ 1 := by decide
  have h := notices_end_newest_allocation 1 "HTTP 404: fake status" supersededTransfer
  refine ⟨hu, ?_, ?_⟩
  · rw [h.1]
    decide +kernel
  · rw [h.2 hu]
    decide +kernel

/-! ## Two runs where a failure deletes a file it should keep -/

/-- A track whose catalog entry names a file of 100 of its 4096 bytes, on a server that answers
404. -/
def truncatedTrack : TrackInfo :=
  { id := 1, sourceId := 1, contentId := "c1", mime := "audio/mpeg", url := Script.defaultUrl 1,
    size := 4096, cachedPath := some "/cache/1/c1.mp3", cachedAt := some 5 }

/-- A host holding the track's short file. -/
def truncatedHost : World :=
  { volume := ({ capacity := 1024 * 1024 * 1024 } : Volume).putFile "/cache/1/c1.mp3" (.sized 100),
    catalog := [(1, truncatedTrack)],
    transport := ({ honourRanges := true } : Transport).setRoute truncatedTrack.url (.status 404) }

/-- The player on that host once the track is inserted: its file is fetched again into the same
place, the fetch fails for good, and the failure waits to be handled. -/
def failedRefetch : World :=
  let w₁ := ((spawn cacheSetup).run truncatedHost).2
  let w₂ := ((command (.insert 1 0)).run w₁).2
  (settleOnce.run (settleOnce.run w₂).2).2

theorem failedRefetch_run : PlayerRun failedRefetch :=
  .step (.step (.step (.start truncatedHost cacheSetup rfl) (.command _ rfl)) .work) .work

/-- Handling that failure deletes the file the catalog still names as the track's. -/
theorem failed_refetch_deletes_cataloged_file :
    ∃ w, PlayerRun w ∧ w.notices.toList.head? = some (.error 1 "HTTP 404: fake status" false) ∧
      (w.catalog.lookup 1).bind (·.cachedPath) = some "/cache/1/c1.mp3" ∧
      (w.volume.file? "/cache/1/c1.mp3").isSome ∧
      let w' := (settleOnce.run w).2
      PlayerStep w w' ∧ (w'.catalog.lookup 1).bind (·.cachedPath) = some "/cache/1/c1.mp3" ∧
        w'.volume.file? "/cache/1/c1.mp3" = none :=
  ⟨failedRefetch, failedRefetch_run, by decide +kernel, by decide +kernel, by decide +kernel,
    .work, by decide +kernel, by decide +kernel⟩

/-- A track whose server sends twice its size. -/
def oversizedTrack : TrackInfo :=
  { id := 1, sourceId := 1, contentId := "c1", mime := "audio/mpeg", url := Script.defaultUrl 1,
    size := 4096 }

/-- A host with that track. -/
def oversizedHost : World :=
  { volume := { capacity := 1024 * 1024 * 1024 }, catalog := [(1, oversizedTrack)],
    transport := ({ honourRanges := true } : Transport).setRoute oversizedTrack.url (.body 8192) }

/-- The player on that host once the track is inserted, its transfer has failed for good, and
the track is loaded again with a newer transfer into the same file before the failure is
handled. -/
def staleFailure : World :=
  let w₁ := ((spawn cacheSetup).run oversizedHost).2
  let w₂ := ((command (.insert 1 0)).run w₁).2
  let w₃ := (settleOnce.run (settleOnce.run w₂).2).2
  ((command (.jump 0)).run w₃).2

theorem staleFailure_run : PlayerRun staleFailure :=
  .step (.step (.step (.step (.start oversizedHost cacheSetup rfl) (.command _ rfl)) .work) .work)
    (.command _ (by decide +kernel))

/-- The old failure, handled while the newer transfer writes the track's file and the track is
loaded from it, deletes that file and skips the track. -/
theorem stale_failure_drops_newer_transfer :
    ∃ w, PlayerRun w ∧
      w.notices.toList.head? =
        some (.error 1 "body exceeds expected length of 4096 bytes" false) ∧
      (activeRecord w.manager).map (·.destination) = some "/cache/1/c1.mp3" ∧
      w.controller.session.map (·.track) = some 1 ∧ (w.volume.file? "/cache/1/c1.mp3").isSome ∧
      let w' := (settleOnce.run w).2
      PlayerStep w w' ∧ (activeRecord w'.manager).map (·.destination) = some "/cache/1/c1.mp3" ∧
        w'.volume.file? "/cache/1/c1.mp3" = none ∧ w'.controller.session = none :=
  ⟨staleFailure, staleFailure_run, by decide +kernel, by decide +kernel, by decide +kernel,
    by decide +kernel, .work, by decide +kernel, by decide +kernel, by decide +kernel⟩

end PlaybackEngine.Player
