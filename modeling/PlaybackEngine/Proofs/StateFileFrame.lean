import PlaybackEngine.Proofs.NoticeRelease
import PlaybackEngine.Proofs.Eviction

set_option autoImplicit false

/-!
# Only a save touches the state file

The player's state file shares the volume with the cache. The cache deletes the files the
catalog names when it evicts, deletes the files it released, creates the directories of the
files it allocates, and its transfers write their destinations; the player keeps its queue and
play state, and marks them changed (`dirty`) whenever it changes them.

`Placed f w` says that none of that can reach the state file `f`: the catalog's files and the
files the cache would allocate for its tracks, with their directories, the destinations of the
download records and tasks and the loaded song's file are all elsewhere; and the queue selects
a song or nothing. `Kept f w w'` is what an operation other than a save does then: the state
file and a directory of its name stay as they were, a changed mark stays, and a state that is
not marked changed has its queue and play state. `Guarded f a` says that `a` keeps `Placed f`
and does no more than `Kept f`; every handler of a command, query, signal, decoder callback or
download notice, and every transfer, is `Guarded`.
-/

namespace PlaybackEngine

namespace Volume

theorem file?_putFile (v : Volume) (p q : String) (e : FileEntry) :
    (v.putFile p e).file? q = if Path.same q p then some e else v.file? q := by
  unfold putFile file?
  split
  · rename_i hany
    rw [List.find?_map]
    -- the map keeps every path, so the same entry is found, and it is the new one at `p`
    have hkeep : ((fun x : String × FileEntry => Path.same x.1 q) ∘
        fun x : String × FileEntry => if Path.same x.1 p then (x.1, e) else x) =
        fun x => Path.same x.1 q := by
      funext x
      simp only [Function.comp]
      split <;> rfl
    rw [hkeep]
    split
    · rename_i hqp
      obtain ⟨y, hy, hyp⟩ := List.any_eq_true.mp hany
      cases hfind : v.files.find? (Path.same ·.1 q) with
      | none =>
        exact absurd (Path.same_trans hyp (Path.same_symm hqp))
          (by simpa using List.find?_eq_none.mp hfind y hy)
      | some x =>
        have hxq : Path.same x.1 q = true := by simpa using List.find?_some hfind
        simp [Path.same_trans hxq hqp]
    · rename_i hqp
      cases hfind : v.files.find? (Path.same ·.1 q) with
      | none => rfl
      | some x =>
        have hxq : Path.same x.1 q = true := by simpa using List.find?_some hfind
        have hxp : Path.same x.1 p = false := by
          cases h : Path.same x.1 p with
          | false => rfl
          | true => exact absurd (Path.same_trans (Path.same_symm hxq) h) hqp
        simp [hxp]
  · rename_i hnone
    rw [List.find?_append]
    split
    · rename_i hqp
      -- no entry is at `p`, so none is at `q`, and the appended one is found
      have hfind : v.files.find? (Path.same ·.1 q) = none := by
        rw [List.find?_eq_none]
        intro x hx hxq
        exact hnone (List.any_eq_true.mpr ⟨x, hx, Path.same_trans hxq hqp⟩)
      simp [hfind, Path.same_symm hqp]
    · rename_i hqp
      cases hfind : v.files.find? (Path.same ·.1 q) with
      | none =>
        have hpq : Path.same p q = false := by
          cases h : Path.same p q with
          | false => rfl
          | true => exact absurd (Path.same_symm h) hqp
        simp [hpq]
      | some x => rfl

@[simp] theorem file?_createDirAll (v : Volume) (p q : String) :
    (v.createDirAll p).file? q = v.file? q :=
  rfl

theorem exists_of_file? {v : Volume} {p : String} {e : FileEntry} (h : v.file? p = some e) :
    v.exists_ p = true := by
  unfold exists_
  unfold file? at h
  obtain ⟨x, hx, -⟩ := Option.map_eq_some_iff.mp h
  rw [List.any_eq_true.mpr ⟨x, List.mem_of_find?_eq_some hx, List.find?_some hx⟩, Bool.true_or]

theorem file?_putFile_of_apart (v : Volume) {f p : String} (e : FileEntry)
    (h : Path.same f p = false) : (v.putFile p e).file? f = v.file? f := by
  rw [file?_putFile, h]
  rfl

theorem file?_dropFile_of_apart (v : Volume) {f p : String} (h : Path.same f p = false) :
    (v.dropFile p).file? f = v.file? f := by
  rw [file?_dropFile, h]
  rfl

theorem file?_dropFiles (v : Volume) {f : String} (es : List CachedContent)
    (h : ∀ e ∈ es, Path.same f e.path = false) : (v.dropFiles es).file? f = v.file? f := by
  induction es generalizing v with
  | nil => rfl
  | cons e es ih =>
    rw [dropFiles_cons, ih _ fun e' he' => h e' (List.mem_cons_of_mem e he'),
      file?_dropFile_of_apart v (h e List.mem_cons_self)]

theorem file?_dropFiles_eq_none {v : Volume} {f : String} (h : v.file? f = none)
    (es : List CachedContent) : (v.dropFiles es).file? f = none := by
  induction es generalizing v with
  | nil => exact h
  | cons e es ih =>
    rw [dropFiles_cons]
    refine ih ?_
    rw [file?_dropFile]
    split
    · rfl
    · exact h

/-- Deleting the files of `es` leaves no file at a path one of them names. -/
theorem file?_dropFiles_of_mem {v : Volume} {f : String} {es : List CachedContent}
    {e : CachedContent} (he : e ∈ es) (hf : Path.same f e.path = true) :
    (v.dropFiles es).file? f = none := by
  induction es generalizing v with
  | nil => cases he
  | cons e' es ih =>
    rw [dropFiles_cons]
    rcases List.mem_cons.mp he with rfl | he
    · exact file?_dropFiles_eq_none (by rw [file?_dropFile, if_pos hf]) es
    · exact ih he

theorem file?_of_openWriteStream {v v' : Volume} {f p : String} (h : v.openWriteStream p = .ok v')
    (hp : Path.same f p = false) : v'.file? f = v.file? f := by
  unfold openWriteStream at h
  cases hw : v.writable with
  | error e => simp [hw, bind, Except.bind] at h
  | ok u =>
    simp only [hw, bind, Except.bind, pure, Except.pure, Except.ok.injEq] at h
    subst h
    exact file?_putFile_of_apart v _ hp

theorem file?_of_openAppendStream {v v' : Volume} {f p : String}
    (h : v.openAppendStream p = .ok v') (hp : Path.same f p = false) : v'.file? f = v.file? f := by
  unfold openAppendStream at h
  cases hw : v.writable with
  | error e => simp [hw, bind, Except.bind] at h
  | ok u =>
    simp only [hw, bind, Except.bind] at h
    split at h
    · cases h
      rfl
    · cases h
      exact file?_putFile_of_apart v _ hp

theorem file?_of_streamWrite {v v' : Volume} {f p : String} {c : Piece}
    (h : v.streamWrite p c = .ok v') (hp : Path.same f p = false) : v'.file? f = v.file? f := by
  unfold streamWrite at h
  split at h
  · cases h
  · split at h
    · cases h
    · cases h
      exact file?_putFile_of_apart v _ hp

end Volume

namespace Table

variable {α : Type}

/-- An entry of a table after an insertion is the inserted one or one it had. -/
theorem mem_insert {t : Table α} {k : Int} {v : α} {x : Int × α} (h : x ∈ t.insert k v) :
    x = (k, v) ∨ x ∈ t := by
  induction t with
  | nil => simpa [insert] using h
  | cons e rest ih =>
    unfold insert at h
    split at h
    · rcases List.mem_cons.mp h with h | h
      · exact .inl h
      · exact .inr h
    · split at h
      · rcases List.mem_cons.mp h with h | h
        · exact .inl h
        · exact .inr (List.mem_cons_of_mem e h)
      · rcases List.mem_cons.mp h with h | h
        · exact .inr (h ▸ List.mem_cons_self)
        · exact (ih h).imp_right (List.mem_cons_of_mem e)

end Table

/-! ## What the cache may reach -/

/-- The file the cache would allocate under `base` for content `k` of type `mime` is not at `f`. -/
def Cache.allocationSpares (f base : String) (k : CacheKey) (mime : String) : Bool :=
  match Cache.pathFor base k mime with
  | .ok p => !Path.same f p
  | .error _ => true

/-- A track's files stay clear of `f`: the one the catalog records for it and the one the cache
would allocate for it under `base`. -/
def TrackInfo.spares (f base : String) (t : TrackInfo) : Bool :=
  t.cachedPath.all (!Path.same f ·) && Cache.allocationSpares f base t.key t.mime

/-- Every track of the catalog spares `f`. -/
def Catalog.spares (f base : String) (c : Catalog) : Bool := c.all (·.2.spares f base)

/-- A tracked transfer's request and record write elsewhere than `f`. -/
def Tracked.spares (f : String) (t : Tracked) : Bool :=
  !Path.same f t.request.destination && !Path.same f t.record.destination

/-- The download manager's records and tasks write elsewhere than `f`. -/
def Manager.spares (f : String) (m : Manager) : Bool :=
  m.records.all (·.2.spares f) && m.tasks.all (!Path.same f ·.request.destination)

/-- Nothing the cache deletes or writes is at `f`: not the catalog's files, not those it would
allocate, not those of the download manager. -/
def World.CacheApart (f : String) (w : World) : Prop :=
  w.catalog.spares f w.store.settings.baseDir = true ∧ w.manager.spares f = true

namespace TrackInfo

variable {f base : String} {t : TrackInfo}

theorem cachedPath_apart (h : t.spares f base = true) {p : String} (hp : t.cachedPath = some p) :
    Path.same f p = false := by
  simp only [spares, hp, Option.all_some, Bool.and_eq_true, Bool.not_eq_true'] at h
  exact h.1

theorem pathFor_apart (h : t.spares f base = true) {p : String}
    (hp : Cache.pathFor base t.key t.mime = .ok p) : Path.same f p = false := by
  unfold spares at h
  rw [Bool.and_eq_true] at h
  have halloc := h.2
  unfold Cache.allocationSpares at halloc
  rw [hp, Bool.not_eq_true'] at halloc
  exact halloc

/-- Recording or forgetting a cached file keeps the content and the media type, so the file the
cache would allocate stays the same. -/
theorem spares_withCached (h : t.spares f base = true) {c : Option String} (a : Option Int)
    (hc : c.all (!Path.same f ·) = true) :
    { t with cachedPath := c, cachedAt := a }.spares f base = true := by
  unfold spares at h ⊢
  rw [Bool.and_eq_true] at h ⊢
  exact ⟨hc, h.2⟩

end TrackInfo

namespace Catalog

variable {f base : String} {c : Catalog}

theorem spares_iff : c.spares f base = true ↔ ∀ e ∈ c, e.2.spares f base = true := List.all_eq_true

theorem spares_of_lookup (h : c.spares f base = true) {id : TrackId} {t : TrackInfo}
    (ht : c.lookup id = some t) : t.spares f base = true :=
  spares_iff.mp h _ (Table.mem_of_get? ht)

theorem spares_markCached (h : c.spares f base = true) (k : CacheKey) {path : String}
    (hp : Path.same f path = false) (at_ : Int) : (c.markCached k path at_).spares f base = true := by
  refine spares_iff.mpr fun e he => ?_
  obtain ⟨⟨id, t⟩, ht, rfl⟩ := List.mem_map.mp he
  have hs := spares_iff.mp h _ ht
  dsimp only
  split
  · exact TrackInfo.spares_withCached hs _ (by simp [hp])
  · exact hs

theorem spares_clearCached (h : c.spares f base = true) (k : CacheKey) :
    (c.clearCached k).spares f base = true := by
  refine spares_iff.mpr fun e he => ?_
  obtain ⟨⟨id, t⟩, ht, rfl⟩ := List.mem_map.mp he
  have hs := spares_iff.mp h _ ht
  dsimp only
  split
  · exact TrackInfo.spares_withCached hs _ rfl
  · exact hs

theorem spares_clearEntries (h : c.spares f base = true) (es : List CachedContent) :
    (c.clearEntries es).spares f base = true := by
  induction es generalizing c with
  | nil => exact h
  | cons e es ih => exact ih (spares_clearCached h e.key)

theorem path_apart_of_cachedEntries (h : c.spares f base = true) {e : CachedContent}
    (he : e ∈ c.cachedEntries) : Path.same f e.path = false := by
  obtain ⟨⟨id, t⟩, ht, hsome⟩ := List.mem_filterMap.mp he
  have hs := spares_iff.mp h _ ht
  dsimp only at hsome hs
  split at hsome
  · rename_i p _ hp _
    cases hsome
    exact TrackInfo.cachedPath_apart hs hp
  · cases hsome

end Catalog

namespace Manager

variable {f : String} {m : Manager}

theorem spares_iff : m.spares f = true ↔
    (∀ e ∈ m.records, e.2.spares f = true) ∧ ∀ t ∈ m.tasks, Path.same f t.request.destination = false := by
  simp [spares, List.all_eq_true]

/-- A manager whose records are the old ones or spare `f`, and whose tasks are the old ones or
write elsewhere, spares `f`. -/
theorem spares_of_mem (h : m.spares f = true) {m' : Manager}
    (hr : ∀ e ∈ m'.records, e ∈ m.records ∨ e.2.spares f = true)
    (ht : ∀ t ∈ m'.tasks, t ∈ m.tasks ∨ Path.same f t.request.destination = false) :
    m'.spares f = true := by
  obtain ⟨hr₀, ht₀⟩ := spares_iff.mp h
  refine spares_iff.mpr ⟨fun e he => ?_, fun t htask => ?_⟩
  · exact (hr e he).elim (hr₀ e) id
  · exact (ht t htask).elim (ht₀ t) id

theorem spares_prune (h : m.spares f = true) : (Downloads.prune m).spares f = true := by
  unfold Downloads.prune
  dsimp only
  split
  · exact h
  · exact spares_of_mem h (fun e he => .inl (List.mem_filter.mp he).1) fun t ht => .inl ht

theorem spares_releaseSlot (h : m.spares f = true) (n : Nat) :
    (Downloads.releaseSlot m n).spares f = true := by
  unfold Downloads.releaseSlot
  split
  · split
    · exact h
    · exact h
  · exact h

theorem spares_insert (h : m.spares f = true) (k : TrackId) {t : Tracked} (ht : t.spares f = true) :
    { m with records := m.records.insert k t }.spares f = true := by
  refine spares_of_mem h (fun e he => ?_) fun t ht => .inl ht
  rcases Table.mem_insert he with rfl | he
  · exact .inr ht
  · exact .inl he

theorem spares_of_mem_records (h : m.spares f = true) {k : TrackId} {t : Tracked}
    (ht : (k, t) ∈ m.records) : t.spares f = true := by
  have hall := (spares_iff.mp h).1
  exact hall (k, t) ht

end Manager

/-! ## Preserving an invariant along a relation -/

section Preservation

variable {α β ε : Type} {I : World → Prop} {R : World → World → Prop}

/-- From every world of `I`, `a` ends in a world of `I` that `R` relates to the one it started
from. -/
def Preserves (I : World → Prop) (R : World → World → Prop) (a : Act α) : Prop :=
  ∀ w, I w → Holds a (fun _ w' => I w' ∧ R w w') w

theorem Preserves.bind (htrans : ∀ {u v x : World}, R u v → R v x → R u x) {a : Act α}
    {g : α → Act β} (ha : Preserves I R a) (hg : ∀ x, Preserves I R (g x)) :
    Preserves I R (a >>= g) := by
  intro w hw
  rw [holds_bind]
  exact (ha w hw).mono fun x _ ⟨h₁, r₁⟩ => (hg x _ h₁).mono fun _ _ ⟨h₂, r₂⟩ => ⟨h₂, htrans r₁ r₂⟩

theorem Preserves.attemptBind (htrans : ∀ {u v x : World}, R u v → R v x → R u x)
    {x : ExceptT ε Act α} {g : α → ExceptT ε Act β} (hx : Preserves I R x.run)
    (hg : ∀ a, Preserves I R (g a).run) : Preserves I R (x >>= g).run := by
  intro w hw
  rw [holds_attempt_bind]
  refine (hx w hw).mono fun r w₁ ⟨h₁, r₁⟩ => ?_
  cases r with
  | ok a => exact (hg a w₁ h₁).mono fun _ _ ⟨h₂, r₂⟩ => ⟨h₂, htrans r₁ r₂⟩
  | error e => exact ⟨h₁, r₁⟩

end Preservation

/-- What the cache's reach and the state file depend on: the volume, the catalog, the store's
settings and the manager's records and tasks. -/
def World.cacheView (w : World) :
    Volume × Catalog × CacheSettings × Table Tracked × List TransferTask :=
  (w.volume, w.catalog, w.store.settings, w.manager.records, w.manager.tasks)

theorem World.cacheApart_of_view {f : String} {w w' : World} (h : w'.cacheView = w.cacheView)
    (hw : w.CacheApart f) : w'.CacheApart f := by
  simp only [World.cacheView, Prod.mk.injEq] at h
  obtain ⟨-, hc, hs, hr, ht⟩ := h
  unfold World.CacheApart Manager.spares at hw ⊢
  rw [hc, hs, hr, ht]
  exact hw

theorem World.file?_of_view {w w' : World} (h : w'.cacheView = w.cacheView) (f : String) :
    w'.volume.file? f = w.volume.file? f := by
  have hv : w'.volume = w.volume := congrArg Prod.fst h
  rw [hv]

/-- `a` keeps the cache clear of `f`, and the file at `f` as it was. -/
def Spares (f : String) {α : Type} (a : Act α) : Prop :=
  Preserves (World.CacheApart f) (fun w w' => w'.volume.file? f = w.volume.file? f) a

namespace Spares

variable {f : String} {α β ε : Type}

theorem bind {a : Act α} {g : α → Act β} (ha : Spares f a) (hg : ∀ x, Spares f (g x)) :
    Spares f (a >>= g) :=
  Preserves.bind (fun h₁ h₂ => h₂.trans h₁) ha hg

theorem attemptBind {x : ExceptT ε Act α} {g : α → ExceptT ε Act β} (hx : Spares f x.run)
    (hg : ∀ a, Spares f (g a).run) : Spares f (x >>= g).run :=
  Preserves.attemptBind (fun h₁ h₂ => h₂.trans h₁) hx hg

theorem of_keeps_id {a : Act α} (h : Keeps id a) : Spares f a := fun w hw =>
  h.holds fun _ w' h' => by
    cases h'
    exact ⟨hw, rfl⟩

theorem of_keeps {a : Act α} (h : Keeps World.cacheView a) : Spares f a := fun _ hw =>
  h.holds fun _ _ h' => ⟨World.cacheApart_of_view h' hw, World.file?_of_view h' f⟩

theorem pure (x : α) : Spares f (pure x : Act α) := of_keeps_id (keeps_pure _ _)

theorem discard {a : Act α} (h : Spares f a) : Spares f (discard a) := h

theorem attemptPure (x : α) : Spares f (Pure.pure x : ExceptT ε Act α).run :=
  of_keeps_id (keeps_attemptPure _ _)

theorem throw_bind (e : ε) (g : α → ExceptT ε Act β) : Spares f (throw e >>= g).run :=
  of_keeps_id (keeps_throw_bind _ _ _)

theorem liftM {a : StateT World Id α} (h : Spares f a) : Spares f (liftM a : ExceptT ε Act α).run := h

theorem attemptDiscard {x : ExceptT ε Act α} (h : Spares f x.run) :
    Spares f (Functor.discard x).run := by
  intro w hw
  rw [holds_attempt_discard]
  exact h w hw

theorem log (l : LogLevel) (target message : String) (fields : List (String × String)) :
    Spares f (World.log l target message fields) :=
  of_keeps (keeps_log (fun _ _ => rfl) _ _ _ _)

theorem notify (e : DownloadEvent) : Spares f (World.notify e) := of_keeps fun _ => rfl

theorem inSpan {a : Act α} (h : Spares f a) (name : String) : Spares f (World.inSpan name a) := by
  intro w hw
  rw [holds_inSpan]
  exact h _ hw

theorem detached {a : Act α} (h : Spares f a) : Spares f (World.detached a) := by
  intro w hw
  rw [holds_detached]
  exact h _ hw

end Spares

namespace Cache

open World

variable {f : String}

theorem committedPath_reads (t : TrackInfo) : Keeps id (committedPath t).run := by
  rw [keeps_iff]
  intro w
  simp only [committedPath]
  split
  · rfl
  · simp only [holds_attempt_bind, holds_fileLen]
    rcases w.volume.fileLen _ with _ | (_ | _)
    · exact trivial
    · rfl
    · rfl

/-- A committed file is the one the catalog records. -/
theorem committedPath_recorded (t : TrackInfo) (w : World) :
    Holds (committedPath t).run (fun r _ => ∀ p, r = .ok (some p) → t.cachedPath = some p) w := by
  simp only [committedPath]
  split
  · simp
  · rename_i q hq
    simp only [holds_attempt_bind, holds_fileLen]
    rcases w.volume.fileLen q with _ | (_ | len)
    · simp [Except.mapError]
    · simp [Except.mapError]
    · simp only [Except.mapError, holds_attempt_pure]
      intro p hp
      split at hp
      · cases hp
        exact hq
      · cases hp

/-- Allocating a track's file evicts catalog files only and creates directories only, so it
spares `f` when the track does; the file it gives is not at `f`. -/
theorem requestStorage_spares (t : TrackInfo) (w : World) (hw : w.CacheApart f)
    (ht : t.spares f w.store.settings.baseDir = true) :
    Holds (requestStorage t).run (fun r w' => (w'.CacheApart f ∧
      w'.volume.file? f = w.volume.file? f) ∧ ∀ p, r = .ok p → Path.same f p = false) w := by
  cases hp : pathFor w.store.settings.baseDir t.key t.mime with
  | error e =>
    simp only [requestStorage, attemptInSpan_run, holds_inSpan, holds_attempt_bind, holds_liftM,
      settings, holds_bind, holds_get, holds_pure, hp, holds_throw]
    exact ⟨⟨hw, by simp⟩, by simp⟩
  | ok path =>
    have hpath : Path.same f path = false := TrackInfo.pathFor_apart ht hp
    by_cases hm : w.volume.mounted = true
    · refine ((requestStorage_spec w t path hm hp).and
        ((keeps_iff _ _).mp (requestStorage_keeps t) w)).mono ?_
      rintro r w' ⟨hroom, he⟩
      obtain ⟨n, -, -, hc, hv, hout⟩ := hroom
      have hman : w'.manager = w.manager := congrArg (fun v => v.2.1) he
      have hstore : w'.store.settings = w.store.settings := by
        rcases hout with ⟨-, -, hs⟩ | ⟨-, -, -, hs⟩ <;> rw [hs]
        rfl
      -- every evicted entry is a catalog file, so none is at `f`
      have hevicted : ∀ e ∈ (evictionOrder w t.key).take n, Path.same f e.path = false :=
        fun e he => hw.1 |> fun hcat => Catalog.path_apart_of_cachedEntries hcat
          (List.mem_mergeSort.mp (List.mem_filter.mp (List.mem_of_mem_take he)).1)
      have hfile : w'.volume.file? f = w.volume.file? f := by
        have hfiles : w'.volume.file? f =
            (w.volume.dropFiles ((evictionOrder w t.key).take n)).file? f := by
          unfold Volume.file?
          rw [hv]
        rw [hfiles, Volume.file?_dropFiles _ _ hevicted]
      refine ⟨⟨⟨?_, ?_⟩, hfile⟩, fun p hr => ?_⟩
      · rw [hc, hstore]
        exact Catalog.spares_clearEntries hw.1 _
      · rw [hman]
        exact hw.2
      · rcases hout with ⟨-, rfl, -⟩ | ⟨-, -, rfl, -⟩
        · cases hr
          exact hpath
        · cases hr
    · -- an unmounted volume fails the allocation before anything changes
      simp only [requestStorage, attemptInSpan_run, holds_inSpan, holds_attempt_bind, holds_liftM,
        settings, holds_bind, holds_get, holds_pure, hp, holds_attempt_pure]
      generalize ("request_storage" :: w.spans) = spans
      simp only [availableBytes, holds_attempt_bind, holds_attempt_get, Volume.info, hm]
      simp
      exact hw

/-- Committing records the file in the catalog; it spares `f` when that file is elsewhere. -/
theorem commitStorage_spares (k : CacheKey) {path : String} (expected : Nat)
    (hp : Path.same f path = false) : Spares f (commitStorage k path expected).run := by
  intro w hw
  simp only [commitStorage, attemptInSpan_run, holds_inSpan, holds_attempt_bind, holds_fileLen]
  rcases w.volume.fileLen path with _ | len
  · exact ⟨hw, trivial⟩
  · simp only [Except.mapError]
    split
    · simp only [holds_attempt_bind, holds_liftM, holds_log, holds_throw]
      exact ⟨hw, trivial⟩
    · simp only [holds_attempt_bind, holds_liftM, holds_readClock, holds_attempt_modify, holds_log]
      exact ⟨⟨Catalog.spares_markCached hw.1 k hp _, hw.2⟩, trivial⟩

/-- Releasing deletes at most the released file; it spares `f` when that file is elsewhere. -/
theorem releaseStorage_spares (k : CacheKey) {path : String} (hp : Path.same f path = false) :
    Spares f (releaseStorage k path).run := by
  intro w hw
  simp only [releaseStorage, attemptInSpan_run, holds_inSpan, holds_attempt_bind,
    holds_attempt_modify, holds_attempt_get]
  split
  · simp only [holds_changeVolume, Volume.deleteFile]
    by_cases hany : (w.volume.files.any fun x => Path.same x.1 path) = true
    · simp only [hany, if_true]
      exact ⟨hw, Volume.file?_dropFile_of_apart _ hp⟩
    · simp only [hany]
      exact ⟨hw, trivial⟩
  · exact ⟨hw, rfl⟩

end Cache

namespace Downloads

open World

variable {f : String}

/-- Changing a record keeps its request; when it keeps the record's destination too, the
manager still spares `f`. -/
theorem update_spares (track : TrackId) (n : Nat) (g : Download → Download)
    (hg : ∀ r, (g r).destination = r.destination) : Spares f (update track n g) := by
  intro w hw
  simp only [update, holds_bind, holds_get]
  split
  · rename_i t ht
    have hmem := Table.mem_of_get? (owned?_eq_some.mp ht).1
    have hspares : ({ t with record := g t.record } : Tracked).spares f = true := by
      have := Manager.spares_of_mem_records hw.2 hmem
      unfold Tracked.spares at this ⊢
      rw [hg]
      exact this
    exact ⟨⟨hw.1, Manager.spares_insert hw.2 track hspares⟩, rfl⟩
  · exact ⟨hw, rfl⟩

theorem abort_spares (track : TrackId) (n : Nat) : Spares f (abort track n) := by
  intro w hw
  simp only [abort, holds_bind, holds_get]
  -- the record turns aborted, if it does, and the task leaves: both keep the destinations
  have hdrop : ∀ w₁ : World, w₁.CacheApart f → World.CacheApart f { w₁ with manager :=
      { w₁.manager with tasks := w₁.manager.tasks.filter (·.transfer != n) } } := fun w₁ h₁ =>
    ⟨h₁.1, Manager.spares_of_mem h₁.2 (fun e he => .inl he)
      fun t ht => .inl (List.mem_filter.mp ht).1⟩
  have hrest : ∀ (aborted : Bool) (w₁ : World), w₁.CacheApart f →
      w₁.volume.file? f = w.volume.file? f → Holds (do
        modify fun w => { w with manager := { w.manager with
          tasks := w.manager.tasks.filter (·.transfer != n) } }
        if aborted then
          log .info managerTarget "Download aborted"
            [("track_id", toString track), ("transfer", transferName n)]
          notify (.cancel track))
        (fun _ w' => w'.CacheApart f ∧ w'.volume.file? f = w.volume.file? f) w₁ := by
    intro aborted w₁ h₁ hv₁
    simp only [holds_bind, holds_modify]
    cases aborted
    · exact ⟨hdrop w₁ h₁, hv₁⟩
    · simp only [holds_bind, holds_log, holds_notify, ite_true]
      exact ⟨hdrop w₁ h₁, hv₁⟩
  split
  · split
    · simp only [holds_bind, holds_discard, holds_pure]
      refine (update_spares track n (fun r => { r with state := .aborted }) (fun _ => rfl) w
        hw).mono ?_
      rintro _ w₁ ⟨h₁, hv₁⟩
      exact hrest true w₁ h₁ hv₁
    · exact hrest false w hw rfl
  · exact hrest false w hw rfl

theorem stopAll_spares : Spares f stopAll := by
  intro w hw
  simp only [stopAll, holds_bind, holds_get]
  split
  · simp only [holds_bind, holds_set]
    exact abort_spares _ _ _ hw
  · exact ⟨hw, rfl⟩

/-- Starting a download into a file elsewhere than `f` keeps the manager clear of `f`. -/
theorem start_spares (req : DownloadRequest) (hreq : Path.same f req.destination = false) :
    Spares f (start req) := by
  intro w hw
  simp only [start, holds_inSpan, holds_bind]
  refine (stopAll_spares { w with spans := "start_download" :: w.spans } hw).mono
    ?_
  rintro _ w₁ ⟨h₁, hv₁⟩
  simp only [holds_get, holds_set, holds_notify, holds_modify, holds_log, holds_pure]
  -- the new record and the new task both write the request's destination
  have hrec : Tracked.spares f ⟨w₁.manager.nextTransfer,
      ⟨req.track, req.url, req.destination, req.expectedLength, req.resumeOffset, req.resumeOffset,
        .connecting, none⟩, req⟩ = true := by
    simp [Tracked.spares, hreq]
  have hpruned := Manager.spares_prune (Manager.spares_insert
    (m := { w₁.manager with nextTransfer := w₁.manager.nextTransfer + 1 }) h₁.2 req.track hrec)
  refine ⟨⟨h₁.1, Manager.spares_of_mem hpruned (fun e he => .inl he) fun t ht => ?_⟩, hv₁⟩
  rcases List.mem_append.mp ht with ht | ht
  · exact .inl ht
  · rw [List.mem_singleton.mp ht]
    exact .inr hreq

theorem abortPaused_spares (track : TrackId) : Spares f (abortPaused track) := by
  intro w hw
  simp only [abortPaused, holds_bind, holds_get]
  split
  · rename_i t ht
    split
    · simp only [holds_bind, holds_set, holds_notify]
      have hold := Manager.spares_of_mem_records hw.2 (Table.mem_of_get? ht)
      have hspares : ({ t with record := { t.record with state := .aborted } } : Tracked).spares f =
          true := by
        unfold Tracked.spares at hold ⊢
        exact hold
      exact ⟨⟨hw.1, Manager.spares_insert hw.2 track hspares⟩, trivial⟩
    · exact ⟨hw, rfl⟩
  · exact ⟨hw, rfl⟩

theorem stop_spares (track : TrackId) : Spares f (stop track) := by
  intro w hw
  simp only [stop, holds_inSpan, holds_bind, holds_get]
  split
  · split
    · simp only [holds_bind, holds_set]
      exact abort_spares _ _ _ ⟨hw.1, hw.2⟩
    · exact abortPaused_spares _ _ ⟨hw.1, hw.2⟩
  · exact abortPaused_spares _ _ ⟨hw.1, hw.2⟩

/-- Resuming restarts a paused record's request, which writes that record's file. -/
theorem resume_spares : Spares f resume := by
  intro w hw
  simp only [resume, holds_inSpan, holds_bind, holds_get]
  split
  · exact ⟨hw, rfl⟩
  · split
    · rename_i t ht
      obtain ⟨⟨k, hk⟩, -⟩ := latestPaused_mem ht
      have hreq : Path.same f t.request.destination = false := by
        have := Manager.spares_of_mem_records hw.2 hk
        simp only [Tracked.spares, Bool.and_eq_true, Bool.not_eq_true'] at this
        exact this.1
      simp only [holds_bind, holds_log, holds_discard, holds_pure]
      exact start_spares { t.request with resumeOffset := t.record.bytesWritten } hreq _
        ⟨hw.1, hw.2⟩
    · exact ⟨hw, rfl⟩


theorem openBody_spares (req : DownloadRequest) (offset : Nat) :
    Spares f (openBody req offset).run := by
  refine Spares.of_keeps ?_
  rw [keeps_iff]
  intro w
  simp only [openBody, holds_attempt_bind, holds_attempt_get, holds_attempt_set]
  split <;> rfl

section Request

variable {req : DownloadRequest} (hreq : Path.same f req.destination = false)
include hreq

theorem commit_spares : Spares f (commit req).run := by
  unfold commit
  refine Spares.attemptBind (Spares.liftM (Cache.commitStorage_spares _ _ hreq)) fun r => ?_
  split
  · exact Spares.attemptPure _
  · exact Spares.of_keeps_id (keeps_throw _ _)

theorem openWriter_spares (offset : Nat) : Spares f (openWriter req offset).run := by
  intro w hw
  simp only [openWriter, holds_attempt_bind, holds_attempt_get]
  split
  · rename_i v hv
    refine ⟨hw, ?_⟩
    split at hv
    · exact Volume.file?_of_openAppendStream hv hreq
    · exact Volume.file?_of_openWriteStream hv hreq
  · simp only [holds_attempt_bind, holds_liftM]
    exact (writeFailure_keeps _).holds fun _ _ h => by
      cases h
      exact ⟨hw, rfl⟩

/-- A record update that sets the bytes written, the state or the error keeps the destination. -/
theorem copyBody_spares (n : Nat) (chunk : Nat) (progress : Bool) (ending : BodyEnd)
    (remaining source written : Nat) :
    Spares f (copyBody n req chunk progress ending remaining source written).run := by
  fun_induction copyBody n req chunk progress ending remaining source written with
  | case1 => exact Spares.attemptPure _
  | case2 => exact Spares.of_keeps_id (keeps_throw _ _)
  | case3 => exact Spares.attemptPure _
  | case4 => exact Spares.throw_bind _ _
  | case5 remaining source written _ _ _ ih =>
    intro w hw
    simp +zetaDelta only [holds_attempt_bind, holds_attempt_get]
    split
    · simp only [holds_attempt_bind, holds_liftM]
      exact (writeFailure_keeps _).holds fun _ _ h => by
        cases h
        exact ⟨hw, rfl⟩
    · rename_i v hv
      have hv' : v.file? f = w.volume.file? f := Volume.file?_of_streamWrite hv hreq
      simp only [holds_attempt_bind, holds_attempt_set, holds_attempt_discard, holds_liftM,
        Except.map]
      refine (update_spares req.track n
        (fun r => { r with bytesWritten := written + min (max chunk 1) (remaining + 1) })
        (fun _ => rfl) { w with volume := v } hw).mono ?_
      rintro _ w₁ ⟨h₁, hv₁⟩
      split
      · simp only [holds_attempt_bind, holds_liftM, holds_notify]
        exact (ih { w₁ with notices := w₁.notices.push _ } h₁).mono fun _ _ h₂ =>
          ⟨h₂.1, h₂.2.trans (hv₁.trans hv')⟩
      · exact (ih w₁ h₁).mono fun _ _ h₂ => ⟨h₂.1, h₂.2.trans (hv₁.trans hv')⟩

theorem finishBody_spares (written : Nat) : Spares f (finishBody req written).run := by
  unfold finishBody
  split
  · exact Spares.throw_bind _ _
  · exact commit_spares hreq

theorem runAfterStall_spares (written : Nat) : Spares f (runAfterStall req written).run :=
  Spares.attemptBind (finishBody_spares hreq written) fun _ => Spares.attemptPure _

theorem runFromStart_spares (n : Nat) : Spares f (runFromStart n req).run := by
  unfold runFromStart
  refine Spares.attemptBind (Spares.of_keeps_id (usableOffset_keeps req)) fun offset => ?_
  split
  · exact Spares.attemptBind (commit_spares hreq) fun _ => Spares.attemptPure _
  refine Spares.attemptBind (openBody_spares req offset) fun resp => ?_
  -- the rest of the transfer, once the body and its offset are settled
  extract_lets tail
  have htail : ∀ x, Spares f (tail x).run := by
    rintro ⟨resp, offset⟩
    dsimp -zeta only [tail]
    extract_lets body
    have hbody : ∀ u, Spares f (body u).run := fun _ =>
      Spares.attemptBind (openWriter_spares hreq offset) fun _ =>
      Spares.attemptBind (Spares.attemptDiscard (Spares.liftM
        (update_spares _ _ _ fun _ => rfl))) fun _ =>
      Spares.attemptBind (Spares.of_keeps_id (keeps_attemptGet _)) fun _ =>
      Spares.attemptBind (copyBody_spares hreq _ _ _ _ _ _ _) fun stop => by
        cases stop
        · exact Spares.attemptBind (finishBody_spares hreq _) fun _ => Spares.attemptPure _
        · exact Spares.attemptPure _
    clear_value body
    split
    · split
      · exact Spares.attemptBind (Spares.liftM (Spares.log _ _ _ _)) hbody
      · exact hbody ()
    · exact hbody ()
  clear_value tail
  split
  · exact Spares.attemptBind (Spares.attemptPure _) htail
  split
  · exact Spares.attemptBind (Spares.attemptPure _) htail
  refine Spares.attemptBind (openBody_spares req 0) fun again => ?_
  extract_lets retry
  have hretry : ∀ u, Spares f (retry u).run := fun _ =>
    Spares.attemptBind (Spares.attemptPure _) htail
  clear_value retry
  split
  · exact Spares.throw_bind _ _
  · exact hretry ()

end Request

theorem finish_spares (n : Nat) (req : DownloadRequest) (r : Except TransferFailure Unit) :
    Spares f (finish n req r) := by
  unfold finish
  extract_lets track announce
  have hannounce : ∀ e, Spares f (announce e) := by
    intro e
    dsimp -zeta only [announce]
    split
    · refine Spares.bind ?_ fun _ => Spares.notify _
      intro w hw
      exact ⟨⟨hw.1, Manager.spares_prune (Manager.spares_releaseSlot hw.2 n)⟩, rfl⟩
    · exact Spares.pure _
  clear_value announce
  split
  · refine Spares.bind (update_spares _ _ _ fun _ => rfl) fun applied => ?_
    split
    · exact Spares.bind (Spares.log _ _ _ _) fun _ => Spares.bind (Spares.pure _) hannounce
    · exact Spares.bind (Spares.pure _) hannounce
  · rename_i fl
    refine Spares.bind (update_spares _ _ _ fun _ => rfl) fun applied => ?_
    split
    · extract_lets fields logged
      have hlogged : ∀ u, Spares f (logged u) := fun _ => Spares.bind (Spares.pure _) hannounce
      clear_value logged
      split
      · exact Spares.bind (Spares.log _ _ _ _) hlogged
      · exact Spares.bind (Spares.log _ _ _ _) hlogged
    · exact Spares.bind (Spares.pure _) hannounce

/-- A task runs its request, which writes the task's file; so a task writing elsewhere than `f`
spares it. -/
theorem runTask_spares {t : TransferTask} (ht : Path.same f t.request.destination = false) :
    Spares f (runTask t) := by
  unfold runTask
  refine Spares.detached ?_
  extract_lets work settled
  have hwork : Spares f work.run := by
    dsimp -zeta only [work]
    split
    · exact runAfterStall_spares ht _
    · exact runFromStart_spares ht _
  have hsettled : ∀ o, Spares f (settled o) := by
    intro o
    dsimp -zeta only [settled]
    split
    · refine Spares.bind ?_ fun _ => finish_spares _ _ _
      intro w hw
      exact ⟨⟨hw.1, Manager.spares_of_mem hw.2 (fun e he => .inl he)
        fun u hu => .inl (List.mem_filter.mp hu).1⟩, rfl⟩
    · intro w hw
      refine ⟨⟨hw.1, Manager.spares_of_mem hw.2 (fun e he => .inl he) fun u hu => ?_⟩, rfl⟩
      -- a stalled task keeps its request
      obtain ⟨u₀, hu₀, rfl⟩ := List.mem_map.mp hu
      split
      · exact .inr ((Manager.spares_iff.mp hw.2).2 u₀ hu₀)
      · exact .inl hu₀
  clear_value work settled
  refine Spares.bind hwork fun r => ?_
  split <;> exact Spares.bind (Spares.pure _) hsettled

end Downloads

end PlaybackEngine
