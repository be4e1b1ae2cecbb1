import Mathlib
import PlaybackEngine.Proofs.Frames

/-!
# Making room in the cache

Allocating storage for a track keeps the store's leave-free margin free beside the bytes the
track's file still lacks. The entries it may evict are the committed ones other than the track's
own content and the contents of allocations in flight, oldest first (`evictionOrder`: sorted by
commit time, and exactly those entries). Main statement (`requestStorage_evicts_shortest_prefix`):
the entries evicted are the shortest prefix of that order after which the free space covers
what is needed, none when it is covered already; if no prefix does, every one is evicted and the
allocation fails for lack of space with the free space left, recording no allocation.

Eviction re-measures the volume after each entry, so the free space after a prefix is that of the
volume with the prefix's files deleted (`Volume.dropFiles`).
-/

set_option autoImplicit false

namespace PlaybackEngine

/-- The content of a cached file. -/
def CachedContent.key (e : CachedContent) : CacheKey := ⟨e.sourceId, e.contentId⟩

/-- The bytes at a path: a file's length, `0` where there is none. -/
def Volume.lengthAt (v : Volume) (p : String) : Nat :=
  match v.fileLen p with
  | .ok l => l.getD 0
  | .error _ => 0

/-- The volume once the files of `es` are deleted. -/
def Volume.dropFiles (v : Volume) (es : List CachedContent) : Volume :=
  es.foldl (fun v e => v.dropFile e.path) v

/-- The catalog once the entries `es` are forgotten. -/
def Catalog.clearEntries (c : Catalog) (es : List CachedContent) : Catalog :=
  es.foldl (fun c e => c.clearCached e.key) c

namespace Volume

@[simp] theorem dropFiles_nil (v : Volume) : v.dropFiles [] = v := rfl

@[simp] theorem dropFiles_cons (v : Volume) (e : CachedContent) (es : List CachedContent) :
    v.dropFiles (e :: es) = (v.dropFile e.path).dropFiles es := rfl

@[simp] theorem mounted_dropFiles (v : Volume) (es : List CachedContent) :
    (v.dropFiles es).mounted = v.mounted := by
  induction es generalizing v with
  | nil => rfl
  | cons e es ih => exact ih _

/-- Dropping a path that holds no file leaves the volume as it is. -/
theorem dropFile_eq_self {v : Volume} {p : String} (h : v.files.any (Path.same ·.1 p) = false) :
    v.dropFile p = v := by
  unfold dropFile
  rw [List.filter_eq_self.mpr]
  intro x hx
  simp only [List.any_eq_false] at h
  simpa using h x hx

theorem any_eq_isSome (v : Volume) (p : String) :
    v.files.any (Path.same ·.1 p) = (v.file? p).isSome := by
  unfold file?
  cases hfind : v.files.find? (Path.same ·.1 p) with
  | none =>
    rw [List.find?_eq_none] at hfind
    simpa using hfind
  | some x =>
    exact List.any_eq_true.mpr ⟨x, List.mem_of_find?_eq_some hfind, by simpa using List.find?_some hfind⟩

/-- Asking for a length never fails: what is there is a file or a directory, or nothing. -/
theorem fileLen_eq (v : Volume) (p : String) :
    ∃ l, v.fileLen p = .ok l ∧ l.getD 0 = v.lengthAt p := by
  unfold lengthAt fileLen
  split
  · rename_i hex
    unfold metadata
    split
    · exact ⟨_, rfl, rfl⟩
    · rename_i hnone
      -- no file answers to the path, so it is a directory
      have hdir : v.isDir p = true := by
        simp only [exists_, Bool.or_eq_true] at hex
        refine hex.resolve_left fun hany => ?_
        obtain ⟨x, hx, hs⟩ := List.any_eq_true.mp hany
        simp only [file?, Option.map_eq_none_iff, List.find?_eq_none] at hnone
        exact hnone x hx hs
      simp only [hdir, if_true, Except.map]
      exact ⟨_, rfl, rfl⟩
  · exact ⟨_, rfl, rfl⟩

end Volume

@[simp] theorem Catalog.clearEntries_nil (c : Catalog) : c.clearEntries [] = c := rfl

@[simp] theorem Catalog.clearEntries_cons (c : Catalog) (e : CachedContent) (es : List CachedContent) :
    c.clearEntries (e :: es) = (c.clearCached e.key).clearEntries es := rfl

namespace Cache

open World

/-- Whether making room for content `k` may evict an entry: it is neither `k`'s nor in flight. -/
def evictable (k : CacheKey) (inFlight : List CacheKey) (e : CachedContent) : Bool :=
  !(decide (e.key = k) || inFlight.contains e.key)

/-- The committed entries that making room for content `k` may evict, oldest first. -/
def evictionOrder (w : World) (k : CacheKey) : List CachedContent :=
  (w.catalog.cachedEntries.mergeSort fun a b => decide (a.cachedAt ≤ b.cachedAt)).filter
    (evictable k (w.store.provisional.map (·.1)))

/-- The free bytes once the first `n` entries of the eviction order are evicted. -/
def freeAfter (w : World) (k : CacheKey) (n : Nat) : Nat :=
  (w.volume.dropFiles ((evictionOrder w k).take n)).free

/-- The eviction order is oldest first. -/
theorem evictionOrder_sorted (w : World) (k : CacheKey) :
    (evictionOrder w k).Pairwise fun a b => a.cachedAt ≤ b.cachedAt := by
  have hsorted := @List.pairwise_mergeSort _ (fun a b => decide (a.cachedAt ≤ b.cachedAt))
    (fun a b c hab hbc => by simp only [decide_eq_true_eq] at *; omega)
    (fun a b => by simp only [Bool.or_eq_true, decide_eq_true_eq]; omega) w.catalog.cachedEntries
  exact (hsorted.filter _).imp fun h => by simpa using h

/-- The eviction order holds exactly the committed entries eviction may take. -/
theorem evictionOrder_perm (w : World) (k : CacheKey) :
    (evictionOrder w k).Perm
      (w.catalog.cachedEntries.filter (evictable k (w.store.provisional.map (·.1)))) :=
  (List.mergeSort_perm _ _).filter _

/-- What evicting entries of `es` in order until `needed` bytes are free did to a volume `v`, a
catalog `c` and a store `s`, ending in `w'` with `r`: it evicted a prefix of `es`, no shorter
prefix freed enough, and it succeeded exactly when that prefix freed enough; otherwise it
evicted all of `es` and failed for lack of space with the free space left. -/
def EvictedPrefix (needed requested : Nat) (es : List CachedContent) (v : Volume) (c : Catalog)
    (s : CacheStore) (r : Except PlaybackError Unit) (w' : World) : Prop :=
  ∃ n ≤ es.length, (∀ m < n, (v.dropFiles (es.take m)).free < needed) ∧
    w'.catalog = c.clearEntries (es.take n) ∧ w'.volume = v.dropFiles (es.take n) ∧
    w'.store = s ∧
    (needed ≤ (v.dropFiles (es.take n)).free ∧ r = .ok () ∨
      (v.dropFiles (es.take n)).free < needed ∧ n = es.length ∧
        r = .error (.outOfSpace requested (v.dropFiles (es.take n)).free))

section Prefix

variable {needed requested : Nat} {v : Volume} {c : Catalog} {s : CacheStore} {w' : World}

/-- With nothing left to evict and too little free, the eviction fails and evicts nothing. -/
theorem EvictedPrefix.none (hlt : v.free < needed) (hc : w'.catalog = c) (hv : w'.volume = v)
    (hs : w'.store = s) :
    EvictedPrefix needed requested [] v c s (.error (.outOfSpace requested v.free)) w' :=
  ⟨0, Nat.zero_le _, fun _ hm => absurd hm (Nat.not_lt_zero _), hc, hv, hs, .inr ⟨hlt, rfl, rfl⟩⟩

/-- An entry that frees enough on its own ends the eviction with success. -/
theorem EvictedPrefix.first {e : CachedContent} {es : List CachedContent} (hlt : v.free < needed)
    (henough : needed ≤ (v.dropFile e.path).free) (hc : w'.catalog = c.clearCached e.key)
    (hv : w'.volume = v.dropFile e.path) (hs : w'.store = s) :
    EvictedPrefix needed requested (e :: es) v c s (.ok ()) w' := by
  refine ⟨1, by simp, fun m hm => ?_, by simp [hc], by simp [hv], hs, .inl ⟨by simpa using henough, rfl⟩⟩
  rw [Nat.lt_one_iff.mp hm]
  simpa using hlt

/-- An entry that frees too little: the eviction of the rest, from the volume and catalog the
entry left, is one of the whole list one entry longer. -/
theorem EvictedPrefix.cons {e : CachedContent} {es : List CachedContent}
    {r : Except PlaybackError Unit} (hlt : v.free < needed)
    (h : EvictedPrefix needed requested es (v.dropFile e.path) (c.clearCached e.key) s r w') :
    EvictedPrefix needed requested (e :: es) v c s r w' := by
  obtain ⟨n, hn, hmin, hc, hv, hs, hout⟩ := h
  refine ⟨n + 1, by simpa using hn, fun m hm => ?_, by simpa using hc, by simpa using hv, hs, ?_⟩
  · cases m with
    | zero => simpa using hlt
    | succ m => simpa using hmin m (by omega)
  · simp only [List.take_succ_cons, Volume.dropFiles_cons, List.length_cons]
    rcases hout with h | ⟨h, hlen, herr⟩
    · exact .inl h
    · exact .inr ⟨h, by omega, herr⟩

end Prefix

section Steps

variable {w : World}

theorem availableBytes_spec (hm : w.volume.mounted = true) :
    Holds availableBytes.run (fun r w' => r = .ok w.volume.free ∧ w' = w) w := by
  simp only [availableBytes, holds_attempt_bind, holds_attempt_get, Volume.info, hm]
  exact ⟨rfl, rfl⟩

/-- Evicting an entry deletes its file, if there is one, and forgets it in the catalog. -/
theorem evictEntry_spec (e : CachedContent) :
    Holds (evictEntry e).run (fun r w' => r = .ok () ∧ w'.volume = w.volume.dropFile e.path ∧
      w'.catalog = w.catalog.clearCached e.key ∧ w'.store = w.store) w := by
  simp only [evictEntry, holds_attempt_bind, holds_attempt_get]
  split
  · rename_i v hdel
    rw [holds_attempt_bind, holds_attempt_modify, holds_attempt_modify]
    unfold Volume.deleteFile at hdel
    split at hdel
    · cases hdel
      exact ⟨rfl, rfl, rfl, rfl⟩
    · cases hdel
  · rename_i err hdel
    rw [holds_attempt_bind, holds_liftM, holds_log, holds_attempt_modify]
    unfold Volume.deleteFile at hdel
    split at hdel
    · cases hdel
    · -- no file was there, so dropping it changes nothing
      rename_i hnone
      exact ⟨rfl, (Volume.dropFile_eq_self (Bool.not_eq_true _ ▸ hnone)).symm, rfl, rfl⟩

end Steps

/-- Evicting from `es` after a check that found too little free evicts the shortest prefix of
its evictable entries that frees enough, or all of them. -/
theorem evictCandidates_spec (k : CacheKey) (needed requested : Nat) (inFlight : List CacheKey)
    (es : List CachedContent) (evicted free : Nat) (w : World) (hm : w.volume.mounted = true)
    (hf : free = w.volume.free) (hlt : free < needed) :
    Holds (evictCandidates k needed requested inFlight es evicted free).run
      (EvictedPrefix needed requested (es.filter (evictable k inFlight)) w.volume w.catalog
        w.store) w := by
  induction es generalizing evicted free w with
  | nil =>
    simp only [evictCandidates, holds_attempt_bind, holds_liftM, holds_log, holds_throw]
    rw [hf]
    exact EvictedPrefix.none (hf ▸ hlt) rfl rfl rfl
  | cons e es ih =>
    simp only [evictCandidates]
    split
    · -- the entry is the one asked for or in flight: it is skipped
      rename_i hskip
      have hfilter : (e :: es).filter (evictable k inFlight) = es.filter (evictable k inFlight) :=
        List.filter_cons_of_neg (by unfold evictable CachedContent.key; rw [hskip]; decide)
      rw [hfilter]
      exact ih evicted free w hm hf hlt
    · rename_i hkeep
      have hfilter : (e :: es).filter (evictable k inFlight) =
          e :: es.filter (evictable k inFlight) := by
        simp only [Bool.not_eq_true] at hkeep
        exact List.filter_cons_of_pos (by unfold evictable CachedContent.key; rw [hkeep]; rfl)
      rw [hfilter, holds_attempt_bind]
      refine (evictEntry_spec e).mono ?_
      rintro r w₁ ⟨hr, hv₁, hc₁, hs₁⟩
      subst hr
      have hm₁ : w₁.volume.mounted = true := by rw [hv₁]; exact hm
      dsimp only
      rw [holds_attempt_bind]
      refine (availableBytes_spec hm₁).mono ?_
      rintro r w₂ ⟨hr, hw₂⟩
      subst hr w₂
      dsimp only
      split
      · -- the first entry freed enough
        rename_i henough
        simp only [holds_liftM, holds_log]
        exact EvictedPrefix.first (hf ▸ hlt) (hv₁ ▸ henough) hc₁ hv₁ hs₁
      · -- otherwise the rest goes on from the volume this entry left
        rename_i hshort
        refine (ih (evicted + 1) w₁.volume.free w₁ hm₁ rfl (Nat.lt_of_not_le hshort)).mono
          fun r w' h => ?_
        rw [hv₁, hc₁, hs₁] at h
        exact EvictedPrefix.cons (hf ▸ hlt) h

/-- Making room for `requested` more bytes with `free` bytes free evicts the shortest prefix of the
eviction order that frees the margin and the request, or all of it. -/
theorem evictFor_spec (k : CacheKey) (requested free : Nat) (w : World)
    (hm : w.volume.mounted = true) (hf : free = w.volume.free) :
    Holds (evictFor k requested free).run
      (EvictedPrefix (min maxWord (w.store.settings.leaveFreeBytes + requested)) requested
        (evictionOrder w k) w.volume w.catalog w.store) w := by
  simp only [evictFor, settings, holds_attempt_bind, holds_liftM, holds_bind, holds_get,
    holds_pure]
  split
  · -- enough is free already: nothing is evicted
    rename_i henough
    exact ⟨0, Nat.zero_le _, fun m hm => absurd hm (Nat.not_lt_zero m), rfl, rfl, rfl,
      .inl ⟨hf ▸ henough, rfl⟩⟩
  · rename_i hshort
    simp only [holds_attempt_bind, holds_liftM, holds_log, holds_attempt_get]
    -- the log entry leaves the volume, the catalog and the store as they were
    generalize (w.logs ++ _ : List LogRecord) = logs
    exact evictCandidates_spec k _ requested _ _ 0 free { w with logs } hm hf
      (Nat.lt_of_not_le hshort)

/-- What making room for track `t`'s file at `path` from `w` ends in, as `r` and `w'`. With
`requested` the bytes the file still lacks and `needed` the leave-free margin beside them, it
evicted the first `n` entries of the eviction order, where no shorter prefix frees `needed`
bytes. Either that prefix frees them, and the allocation is recorded and its path given; or it
is the whole order, which does not, and the allocation fails for lack of space with the bytes
left free, recording nothing. -/
def RoomMade (w : World) (t : TrackInfo) (path : String) (r : Except PlaybackError String)
    (w' : World) : Prop :=
  let requested := t.size - w.volume.lengthAt path
  let needed := min maxWord (w.store.settings.leaveFreeBytes + requested)
  ∃ n ≤ (evictionOrder w t.key).length, (∀ m < n, freeAfter w t.key m < needed) ∧
    w'.catalog = w.catalog.clearEntries ((evictionOrder w t.key).take n) ∧
    w'.volume.files = (w.volume.dropFiles ((evictionOrder w t.key).take n)).files ∧
    (needed ≤ freeAfter w t.key n ∧ r = .ok path ∧
        w'.store = w.store.allocate t.key ⟨path, t.size⟩ ∨
      freeAfter w t.key n < needed ∧ n = (evictionOrder w t.key).length ∧
        r = .error (.outOfSpace requested (freeAfter w t.key n)) ∧ w'.store = w.store)

/-- When enough is free from the start, making room evicts nothing. -/
theorem RoomMade.nothing_evicted {w w' : World} {t : TrackInfo} {path : String}
    {r : Except PlaybackError String} (h : RoomMade w t path r w')
    (henough : min maxWord (w.store.settings.leaveFreeBytes + (t.size - w.volume.lengthAt path)) ≤
      w.volume.free) :
    w'.catalog = w.catalog ∧ w'.volume.files = w.volume.files := by
  obtain ⟨n, -, hmin, hc, hv, -⟩ := h
  -- a first eviction would need the untouched volume to fall short
  have hn : n = 0 := by
    cases n with
    | zero => rfl
    | succ n => exact absurd (hmin 0 (Nat.succ_pos n)) (Nat.not_lt_of_le henough)
  subst hn
  exact ⟨hc, hv⟩

theorem requestStorage_spec (w : World) (t : TrackInfo) (path : String)
    (hm : w.volume.mounted = true)
    (hp : pathFor w.store.settings.baseDir t.key t.mime = .ok path) :
    Holds (requestStorage t).run (RoomMade w t path) w := by
  obtain ⟨l, hl, hlen⟩ := Volume.fileLen_eq w.volume path
  simp only [requestStorage, attemptInSpan_run, holds_inSpan, holds_attempt_bind, holds_liftM,
    settings, holds_bind, holds_get, holds_pure, hp, holds_attempt_pure]
  -- the work runs in a span of its own, which is all it changes of the world it starts from
  generalize ("request_storage" :: w.spans) = spans
  refine (@availableBytes_spec { w with spans } hm).mono ?_
  rintro r w₁ ⟨hr, hw₁⟩
  subst hr w₁
  simp only [holds_fileLen, hl, Except.mapError]
  refine (evictFor_spec t.key _ _ { w with spans } hm rfl).mono fun r w₂ h => ?_
  -- eviction reads only the catalog, the store and the volume, which the span leaves alone
  rw [show evictionOrder { w with spans } t.key = evictionOrder w t.key from rfl, hlen] at h
  obtain ⟨n, hn, hmin, hc, hv, hs, hout⟩ := h
  dsimp only at hmin hc hv hs hout
  rcases hout with ⟨henough, rfl⟩ | ⟨hshort, hlast, rfl⟩
  · -- room was made: the file's directory is created and the allocation recorded
    dsimp only
    split
    · simp only [holds_attempt_bind, holds_attempt_modify, holds_attempt_pure]
      exact ⟨n, hn, hmin, hc, by rw [← hv]; rfl, .inl ⟨henough, rfl, by rw [hs]⟩⟩
    · simp only [holds_attempt_bind, holds_attempt_modify, holds_attempt_pure]
      exact ⟨n, hn, hmin, hc, by rw [← hv], .inl ⟨henough, rfl, by rw [hs]⟩⟩
  · -- no room: the failure passes through and nothing is allocated
    exact ⟨n, hn, hmin, hc, by rw [← hv], .inr ⟨hshort, hlast, rfl, hs⟩⟩

/-- Allocating storage for a track whose media type is known, on a mounted volume: the entries
that may be evicted are the committed ones but the track's own content and those in flight,
oldest first; eviction takes the shortest prefix of them after which the free space covers the
leave-free margin and the bytes the file still lacks, and nothing when it is covered already;
when no prefix covers it, all are evicted and the allocation fails for lack of space with the
request and the bytes left free, recording no allocation. -/
theorem requestStorage_evicts_shortest_prefix (w : World) (t : TrackInfo) (path : String)
    (hm : w.volume.mounted = true)
    (hp : pathFor w.store.settings.baseDir t.key t.mime = .ok path) :
    (evictionOrder w t.key).Pairwise (fun a b => a.cachedAt ≤ b.cachedAt) ∧
    (evictionOrder w t.key).Perm
      (w.catalog.cachedEntries.filter (evictable t.key (w.store.provisional.map (·.1)))) ∧
    RoomMade w t path ((requestStorage t).run.run w).1 ((requestStorage t).run.run w).2 ∧
    (min maxWord (w.store.settings.leaveFreeBytes + (t.size - w.volume.lengthAt path)) ≤
        w.volume.free →
      ((requestStorage t).run.run w).2.catalog = w.catalog ∧
        ((requestStorage t).run.run w).2.volume.files = w.volume.files) :=
  have h := requestStorage_spec w t path hm hp
  ⟨evictionOrder_sorted w t.key, evictionOrder_perm w t.key, h, h.nothing_evicted⟩

/-- Two committed entries, and too little free for the margin and a new file: making room starts
from the older entry. -/
theorem oldest_entry_makes_room :
    let t : TrackInfo := ⟨1, 1, "c1", "audio/mpeg", "http://media.test/1", 1000, none, none⟩
    let w : World :=
      { volume := { capacity := 3000,
                    files := [("/cache/1/c2.mp3", .sized 1000), ("/cache/1/c3.mp3", .sized 1000)] },
        catalog := [(1, t),
          (2, ⟨2, 1, "c2", "audio/mpeg", "http://media.test/2", 1000, some "/cache/1/c2.mp3", some 5⟩),
          (3, ⟨3, 1, "c3", "audio/mpeg", "http://media.test/3", 1000, some "/cache/1/c3.mp3", some 3⟩)],
        store := { settings := { baseDir := "/cache", leaveFreeBytes := 500 } } }
    w.volume.mounted = true ∧
      pathFor w.store.settings.baseDir t.key t.mime = .ok "/cache/1/c1.mp3" ∧
      ((evictionOrder w t.key).Pairwise (fun a b => a.cachedAt ≤ b.cachedAt) ∧
        (evictionOrder w t.key).Perm
          (w.catalog.cachedEntries.filter (evictable t.key (w.store.provisional.map (·.1)))) ∧
        RoomMade w t "/cache/1/c1.mp3" ((requestStorage t).run.run w).1
          ((requestStorage t).run.run w).2 ∧
        (min maxWord (w.store.settings.leaveFreeBytes + (t.size - w.volume.lengthAt "/cache/1/c1.mp3")) ≤
            w.volume.free →
          ((requestStorage t).run.run w).2.catalog = w.catalog ∧
            ((requestStorage t).run.run w).2.volume.files = w.volume.files)) := by
  intro t w
  have hm : w.volume.mounted = true := rfl
  have hp : pathFor w.store.settings.baseDir t.key t.mime = .ok "/cache/1/c1.mp3" := by cbv
  exact ⟨hm, hp, requestStorage_evicts_shortest_prefix w t _ hm hp⟩

end Cache

end PlaybackEngine
