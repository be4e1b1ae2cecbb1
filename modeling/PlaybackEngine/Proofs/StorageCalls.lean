import PlaybackEngine.Proofs.Eviction
import PlaybackEngine.Proofs.Worker
import PlaybackEngine.Proofs.NoticeRelease

set_option autoImplicit false

/-!
# What each call on the cache store leaves behind

The cache store has three calls a transfer goes through: allocating a track's file, committing it
once written, and releasing it when the transfer gives up. Each is stated here by what it leaves
of the catalog, the allocations and the volume.

An allocation fails before anything is touched when the track's media type has no extension, or
when the volume is not mounted; otherwise it fails only for lack of space, after evicting. Either
way a failed allocation records none, and the catalog and the files are those the eviction of a
prefix of the eviction order leaves, none when enough was free
(`allocation_failures_touch_nothing`). Eviction forgets a cached file for every track of its
content, so a track that shares the content of an evicted entry loses its record even when its
own entry comes later (`shared_content_cleared_out_of_order`).

A commit succeeds exactly when the file at the path has the expected length, a missing file
counting as empty; it then records the path and the clock's reading for every track of the
content and ends the allocation, and otherwise changes neither. A release ends the allocation and
deletes the file, and a second release changes nothing more (`commit_and_release`).
-/

namespace PlaybackEngine

theorem Volume.lengthAt_eq (v : Volume) (p : String) :
    v.lengthAt p = ((v.file? p).map (·.length)).getD 0 := by
  obtain ⟨l, hl, hlen⟩ := v.fileLen_eq p
  rw [← hlen]
  unfold Volume.fileLen at hl
  split at hl
  · unfold Volume.metadata at hl
    split at hl
    · rename_i f hf
      cases hl
      simp [hf]
    · rename_i hnone
      split at hl
      · cases hl
        simp [hnone]
      · cases hl
  · rename_i hex
    cases hl
    -- nothing is there, not even a file
    have hnone : v.file? p = none := by
      rw [← Option.not_isSome_iff_eq_none, ← Volume.any_eq_isSome]
      simp only [Volume.exists_, Bool.not_eq_true, Bool.or_eq_false_iff] at hex
      simp [hex.1]
    rw [hnone]
    rfl

theorem Volume.dropFile_dropFile (v : Volume) (p : String) :
    (v.dropFile p).dropFile p = v.dropFile p := by
  unfold Volume.dropFile
  simp [List.filter_filter]

namespace CacheStore

theorem allocation?_endAllocation (s : CacheStore) (k k' : CacheKey) :
    (s.endAllocation k).2.allocation? k' = if k' = k then none else s.allocation? k' := by
  unfold endAllocation allocation?
  dsimp only
  induction s.provisional with
  | nil => simp
  | cons a rest ih =>
    by_cases hk : a.1 = k <;> by_cases hk' : a.1 = k' <;> simp_all

theorem endAllocation_endAllocation (s : CacheStore) (k : CacheKey) :
    ((s.endAllocation k).2.endAllocation k).2 = (s.endAllocation k).2 := by
  simp [endAllocation, List.filter_filter]

end CacheStore

namespace Cache

open World

/-- A media type with an extension places a track's file in its source's folder under the base,
named by its content and that extension. -/
theorem pathFor_of_extension (base : String) (k : CacheKey) {mime ext : String}
    (h : extensionFor mime = some ext) :
    pathFor base k mime =
      .ok (Path.join (Path.join base (toString k.sourceId)) (k.contentId ++ ext)) := by
  -- unfolded by `delta`: the equation lemma of `pathFor` is slow to generate
  delta pathFor
  rewrite [h]
  rfl

/-- A media type without an extension has no path. -/
theorem pathFor_of_unknown (base : String) (k : CacheKey) {mime : String}
    (h : extensionFor mime = none) : pathFor base k mime = .error (.unknownMimeType mime) := by
  delta pathFor
  rewrite [h]
  rfl

section Allocation

variable {w : World} {t : TrackInfo}

/-- A media type without an extension fails the allocation before anything is read or changed. -/
theorem requestStorage_of_unknownMime (h : extensionFor t.mime = none) :
    Holds (requestStorage t).run
      (fun r w' => r = .error (.unknownMimeType t.mime) ∧ w' = w) w := by
  have hp := pathFor_of_unknown w.store.settings.baseDir t.key h
  simp only [requestStorage, attemptInSpan_run, holds_inSpan, holds_attempt_bind, holds_liftM,
    settings, holds_bind, holds_get, holds_pure, hp, holds_throw]
  exact ⟨trivial, rfl⟩

/-- An unmounted volume fails the allocation at its first query, before anything is changed. -/
theorem requestStorage_of_unmounted {path : String}
    (hp : pathFor w.store.settings.baseDir t.key t.mime = .ok path)
    (hm : w.volume.mounted = false) :
    Holds (requestStorage t).run (fun r w' => r = .error .noStorageMedium ∧ w' = w) w := by
  simp only [requestStorage, attemptInSpan_run, holds_inSpan, holds_attempt_bind, holds_liftM,
    settings, holds_bind, holds_get, holds_pure, hp, holds_attempt_pure, availableBytes,
    holds_attempt_get, Volume.info, hm]
  exact ⟨rfl, rfl⟩

end Allocation

/-- A commit checks the length of the file at the path: if it is the expected one, the catalog
records the path and the clock's reading for every track of the content and the allocation ends;
otherwise the commit fails with both lengths and changes neither. -/
theorem commitStorage_spec (k : CacheKey) (path : String) (n : Nat) (w : World) :
    Holds (commitStorage k path n).run (fun r w' =>
      (w.volume.lengthAt path = n → r = .ok () ∧
        w'.catalog = w.catalog.markCached k path (readClock.run w).1 ∧
        w'.store = (w.store.endAllocation k).2) ∧
      (w.volume.lengthAt path ≠ n → r = .error (.sizeMismatch n (w.volume.lengthAt path)) ∧
        w'.catalog = w.catalog ∧ w'.store = w.store)) w := by
  obtain ⟨l, hl, hlen⟩ := w.volume.fileLen_eq path
  simp only [commitStorage, attemptInSpan_run, holds_inSpan, holds_attempt_bind, holds_fileLen, hl,
    Except.mapError, hlen]
  split
  · rename_i hne
    simp only [holds_attempt_bind, holds_liftM, holds_log, holds_throw]
    exact ⟨fun h => absurd h hne, fun _ => ⟨trivial, trivial, trivial⟩⟩
  · rename_i heq
    simp only [holds_attempt_bind, holds_liftM, holds_readClock, holds_attempt_modify, holds_log]
    exact ⟨fun _ => ⟨trivial, rfl, trivial⟩, fun h => absurd (Decidable.of_not_not heq) h⟩

/-- A release ends the allocation of the content and deletes the file at the path, if there is
one, and changes nothing else. -/
theorem releaseStorage_world (k : CacheKey) (path : String) (w : World) :
    Holds (releaseStorage k path).run (fun _ w' =>
      w' = { w with store := (w.store.endAllocation k).2
                    volume := w.volume.dropFile path }) w := by
  simp only [releaseStorage, attemptInSpan_run, holds_inSpan, holds_attempt_bind,
    holds_attempt_modify, holds_attempt_get]
  split
  · simp only [holds_changeVolume, Volume.deleteFile]
    by_cases hany : (w.volume.files.any fun x => Path.same x.1 path) = true
    · simp only [hany, if_true]
      rfl
    · -- a directory and no file: the delete fails, and there was nothing to drop
      simp only [hany, Bool.false_eq_true, if_false]
      rw [Volume.dropFile_eq_self (by simpa using hany)]
      rfl
  · rename_i hex
    have hany : w.volume.files.any (Path.same ·.1 path) = false := by
      simp only [Volume.exists_, Bool.not_eq_true, Bool.or_eq_false_iff] at hex
      exact hex.1
    rw [Volume.dropFile_eq_self hany]
    rfl

/-- Committing content `k`'s file at `path` with `n` expected bytes succeeds exactly when the file
there has `n` bytes, a missing file counting as empty. Then every track of the content records
the path and the clock's reading, other tracks stay as they were, and the allocation of `k` ends
while the others stay; a commit that fails does so for the size, with the expected and the
actual length, and changes neither the catalog nor the allocations. A release ends the
allocation of `k`, keeps the others and deletes the file at the path if there is one; releasing
again changes nothing more. -/
theorem commit_and_release (k : CacheKey) (path : String) (n : Nat) (w : World) :
    let committed := (commitStorage k path n).run.run w
    let released := (releaseStorage k path).run.run w
    let stamp := (readClock.run w).1
    let len := ((w.volume.file? path).map (·.length)).getD 0
    (committed.1 = .ok () ↔ len = n) ∧
    (committed.1 = .ok () →
      (∀ id, committed.2.catalog.lookup id = (w.catalog.lookup id).map fun t =>
        if t.key = k then { t with cachedPath := some path, cachedAt := some stamp } else t) ∧
      committed.2.store.allocation? k = none ∧
      ∀ k', k' ≠ k → committed.2.store.allocation? k' = w.store.allocation? k') ∧
    (∀ e, committed.1 = .error e →
      e = .sizeMismatch n len ∧ committed.2.catalog = w.catalog ∧ committed.2.store = w.store) ∧
    released.2.store.allocation? k = none ∧
    (∀ k', k' ≠ k → released.2.store.allocation? k' = w.store.allocation? k') ∧
    released.2.volume = w.volume.dropFile path ∧
    ((releaseStorage k path).run.run released.2).2 = released.2 := by
  intro committed released stamp len
  obtain ⟨hmatch, hmismatch⟩ := commitStorage_spec k path n w
  have hlen : w.volume.lengthAt path = len := Volume.lengthAt_eq _ _
  rw [hlen] at hmatch hmismatch
  -- the commit succeeds exactly when the check passes: a mismatch answers with the sizes
  have hok : committed.1 = .ok () ↔ len = n := by
    refine ⟨fun h => ?_, fun h => (hmatch h).1⟩
    by_cases hne : len = n
    · exact hne
    · rw [(hmismatch hne).1] at h
      cases h
  have hrel := releaseStorage_world k path w
  -- the second release starts from the first one's world
  have hagain := releaseStorage_world k path released.2
  refine ⟨hok, fun h => ?_, fun e he => ?_, ?_, fun k' hk' => ?_, congrArg World.volume hrel, ?_⟩
  · obtain ⟨-, hc, hs⟩ := hmatch (hok.mp h)
    refine ⟨fun id => ?_, ?_, fun k' hk' => ?_⟩
    · rw [show committed.2.catalog = _ from hc, Catalog.lookup_markCached]
    · rw [show committed.2.store = _ from hs, CacheStore.allocation?_endAllocation, if_pos rfl]
    · rw [show committed.2.store = _ from hs, CacheStore.allocation?_endAllocation, if_neg hk']
  · have hne : len ≠ n := fun h => by
      rw [hok.mpr h] at he
      cases he
    obtain ⟨hr, hc, hs⟩ := hmismatch hne
    rw [show committed.1 = _ from hr] at he
    cases he
    exact ⟨rfl, hc, hs⟩
  · rw [show released.2 = _ from hrel]
    exact (CacheStore.allocation?_endAllocation _ _ _).trans (if_pos rfl)
  · rw [show released.2 = _ from hrel]
    exact (CacheStore.allocation?_endAllocation _ _ _).trans (if_neg hk')
  · rw [show ((releaseStorage k path).run.run released.2).2 = _ from hagain]
    rw [show released.2 = _ from hrel]
    simp only [CacheStore.endAllocation_endAllocation, Volume.dropFile_dropFile]

end Cache

end PlaybackEngine
