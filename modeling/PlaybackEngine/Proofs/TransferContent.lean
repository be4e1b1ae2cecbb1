import Mathlib
import PlaybackEngine.Proofs.StateFileFrame

set_option autoImplicit false

/-!
# What a transfer leaves in its file

A file's pieces say where its bytes come from; given the content each url serves (`serve`), they
read as the file's bytes (`Volume.contentAt`). A transfer opens its destination for appending
when it resumes and for writing from the start otherwise, and appends the body it reads, chunk
by chunk, as runs of the content its url serves, starting where the answer starts.

`runFromStart_fetched` says how every run from the start ends, seen from the file: the file was
already whole, or no body came, or the volume took no writes, or the body of `bodyAnswer` was
read into the file opened at the body's start (`Opened`, `Read`). From it,
`finished_transfer_content` gives the file a finished transfer leaves, `overlong_body_fails`
what a body longer than the file lacks does, and `short_body_pauses` what a body that ends short
does to the file and to the record that counts its bytes.
-/

namespace PlaybackEngine

namespace Piece

variable (serve : String → List UInt8)

/-- The bytes of a piece, given the content each url serves; past the end of a content the bytes
read as zeros. -/
def bytesIn : Piece → List UInt8
  | .bytes b => b
  | .zeros n => List.replicate n 0
  | .served u s n => (List.range n).map fun i => (serve u).getD (s + i) 0

/-- The bytes of pieces laid end to end. -/
def contentOf (ps : List Piece) : List UInt8 := ps.flatMap (bytesIn serve)

@[simp] theorem length_bytesIn (p : Piece) : (p.bytesIn serve).length = p.length := by
  cases p <;> simp [bytesIn, length]

theorem length_contentOf (ps : List Piece) : (contentOf serve ps).length = total ps := by
  induction ps with
  | nil => rfl
  | cons p ps ih =>
    simp only [contentOf, List.flatMap_cons, List.length_append, length_bytesIn] at ih ⊢
    simp [total, ih]

/-- Two runs of one content that follow each other read as the run they make up. -/
theorem bytesIn_served_add (u : String) (s n n' : Nat) :
    (Piece.served u s (n + n')).bytesIn serve =
      (Piece.served u s n).bytesIn serve ++ (Piece.served u (s + n) n').bytesIn serve := by
  simp [bytesIn, List.range_add, Nat.add_assoc]

theorem bytesIn_of_join? {p c q : Piece} (h : p.join? c = some q) :
    q.bytesIn serve = p.bytesIn serve ++ c.bytesIn serve := by
  match p, c with
  | .served u s n, .served u' s' n' =>
    simp only [join?] at h
    split at h
    · rename_i hjoin
      obtain ⟨rfl, rfl⟩ := hjoin
      cases h
      exact bytesIn_served_add serve u s n n'
    · cases h

theorem contentOf_push (ps : List Piece) (c : Piece) :
    contentOf serve (push ps c) = contentOf serve ps ++ c.bytesIn serve := by
  fun_induction push ps c with
  | case1 c => simp [contentOf]
  | case2 p c q h => simp [contentOf, bytesIn_of_join? serve h]
  | case3 p c _ => simp [contentOf]
  | case4 p ps c _ ih =>
    simp only [contentOf, List.flatMap_cons, List.append_assoc] at ih ⊢
    rw [ih]

/-- A run that lies inside the content reads that part of it. -/
theorem bytesIn_served_of_le {u : String} {s n : Nat} (h : s + n ≤ (serve u).length) :
    (Piece.served u s n).bytesIn serve = ((serve u).drop s).take n := by
  apply List.ext_getElem
  · simp only [length_bytesIn, length, List.length_take, List.length_drop]
    omega
  · intro i h₁ h₂
    have hi : s + i < (serve u).length := by
      simp only [length_bytesIn, length] at h₁
      omega
    simp [bytesIn, List.getD_eq_getElem?_getD, List.getElem?_eq_getElem hi]

/-- A run to the end of a url's content reads as the rest of the content. -/
theorem bytesIn_served_rest (u : String) (s : Nat) :
    (Piece.served u s ((serve u).length - s)).bytesIn serve = (serve u).drop s := by
  by_cases hs : s ≤ (serve u).length
  · rw [bytesIn_served_of_le serve (by omega), List.take_of_length_le (by simp)]
  · rw [Nat.sub_eq_zero_of_le (by omega), List.drop_of_length_le (by omega)]
    rfl

end Piece

namespace Volume

variable (serve : String → List UInt8)

/-- What the file at `p` holds, given the content each url serves; nothing when no file is
there. -/
def contentAt (v : Volume) (p : String) : List UInt8 :=
  match v.file? p with
  | some f => Piece.contentOf serve f.pieces
  | none => []

theorem contentAt_putFile_self (v : Volume) (p : String) (f : FileEntry) :
    (v.putFile p f).contentAt serve p = Piece.contentOf serve f.pieces := by
  simp [contentAt, file?_putFile, Path.same_iff]

/-- The length a volume reports for a path is the length of what it holds. -/
theorem length_contentAt_of_fileLen {v : Volume} {p : String} {len : Option Nat}
    (h : v.fileLen p = .ok len) : (v.contentAt serve p).length = len.getD 0 := by
  unfold fileLen at h
  unfold contentAt
  cases hf : v.file? p with
  | some f =>
    -- a file reports its own length, which its pieces add up to
    rw [if_pos (exists_of_file? hf)] at h
    simp only [metadata, hf, Except.map] at h
    cases h
    simp [Piece.length_contentOf, f.total_pieces]
  | none =>
    -- a directory reports length zero, and nothing else is there
    split at h
    · simp only [metadata, hf] at h
      split at h
      · cases h
        rfl
      · cases h
    · cases h
      rfl

theorem contentAt_of_openWriteStream {v v' : Volume} {p : String}
    (h : v.openWriteStream p = .ok v') : v'.contentAt serve p = [] := by
  unfold openWriteStream at h
  cases hw : v.writable with
  | error e =>
    rw [hw] at h
    cases h
  | ok u =>
    rw [hw] at h
    cases h
    rw [contentAt_putFile_self]
    rfl

theorem contentAt_of_openAppendStream {v v' : Volume} {p : String}
    (h : v.openAppendStream p = .ok v') : v'.contentAt serve p = v.contentAt serve p := by
  unfold openAppendStream at h
  cases hw : v.writable with
  | error e =>
    rw [hw] at h
    cases h
  | ok u =>
    rw [hw] at h
    simp only [bind, Except.bind] at h
    split at h
    · cases h
      rfl
    · rename_i hnone
      cases h
      rw [contentAt_putFile_self]
      simp [contentAt, hnone, FileEntry.empty, Piece.contentOf]

/-- A stream write that succeeds puts at the path the file grown by the chunk. -/
theorem eq_of_streamWrite {v v' : Volume} {p : String} {c : Piece}
    (h : v.streamWrite p c = .ok v') :
    v' = v.putFile p (((v.file? p).getD .empty).extend c) := by
  unfold streamWrite at h
  split at h
  · cases h
  · split at h
    · cases h
    · cases h
      rfl

/-- A stream write appends its chunk to what the file held. -/
theorem contentAt_of_streamWrite {v v' : Volume} {p : String} {c : Piece}
    (h : v.streamWrite p c = .ok v') :
    v'.contentAt serve p = v.contentAt serve p ++ c.bytesIn serve := by
  rw [eq_of_streamWrite h, contentAt_putFile_self]
  unfold contentAt
  cases v.file? p with
  | none => simp [FileEntry.extend, FileEntry.empty, Piece.push, Piece.contentOf]
  | some f => simp [FileEntry.extend, Piece.contentOf_push]

theorem fileLen_of_file? {v : Volume} {p : String} {f : FileEntry} (h : v.file? p = some f) :
    v.fileLen p = .ok (some f.length) := by
  simp [fileLen, exists_of_file? h, metadata, h, Except.map]

/-- Asking a volume for a length never fails: a path is a file, a directory or nothing. -/
theorem fileLen_ok (v : Volume) (p : String) : ∃ len, v.fileLen p = .ok len := by
  cases hf : v.file? p with
  | some f => exact ⟨_, fileLen_of_file? hf⟩
  | none =>
    -- with no file at `p`, the path is there only as a directory
    have hany : v.files.any (Path.same ·.1 p) = false := by
      unfold file? at hf
      rw [Option.map_eq_none_iff, List.find?_eq_none] at hf
      exact List.any_eq_false.mpr hf
    unfold fileLen exists_ metadata
    simp only [hany, hf, Bool.false_or]
    split
    · simp [Except.map]
    · exact ⟨none, rfl⟩

/-- The length a volume reports for a file is the length of what it holds. -/
theorem fileLen_eq_length_contentAt {v : Volume} {p : String} (h : (v.file? p).isSome) :
    v.fileLen p = .ok (some (v.contentAt serve p).length) := by
  obtain ⟨f, hf⟩ := Option.isSome_iff_exists.mp h
  rw [fileLen_of_file? hf]
  simp [contentAt, hf, Piece.length_contentOf, f.total_pieces]

theorem isSome_file?_putFile (v : Volume) (p : String) (f : FileEntry) :
    ((v.putFile p f).file? p).isSome := by
  simp [file?_putFile, Path.same_iff]

/-! ### Room for the writes -/

/-- No two files of the volume share a path, as every volume the engine builds. -/
def Distinct (v : Volume) : Prop := v.files.Pairwise fun a b => Path.same a.1 b.1 = false

/-- The bytes the files hold, before the used space is capped at a word. -/
def stored (v : Volume) : Nat := (v.files.map (·.2.length)).sum

theorem used_eq (v : Volume) : v.used = min maxWord v.stored := by
  -- the fold that sums the lengths is the sum of the lengths
  have hfold : ∀ (l : List (String × FileEntry)) (a : Nat),
      l.foldl (fun acc (x : String × FileEntry) => acc + x.2.length) a =
        a + (l.map (·.2.length)).sum := by
    intro l
    induction l with
    | nil => simp
    | cons x l ih =>
      intro a
      simp only [List.foldl_cons, List.map_cons, List.sum_cons, ih]
      omega
  simp [used, stored, hfold]

theorem putFile_files (v : Volume) (p : String) (f : FileEntry) :
    (v.putFile p f).mounted = v.mounted ∧ (v.putFile p f).failWrites = v.failWrites ∧
      (v.putFile p f).capacity = v.capacity := by
  unfold putFile
  split <;> exact ⟨rfl, rfl, rfl⟩

/-- Replacing the one entry at a path in a list where no two entries share a path. -/
theorem replace_one {l : List (String × FileEntry)} {p : String} (f : FileEntry)
    (hd : l.Pairwise fun a b => Path.same a.1 b.1 = false) (hany : l.any (Path.same ·.1 p) = true) :
    let l' := l.map fun (q, g) => if Path.same q p then (q, f) else (q, g)
    (l'.map (·.2.length)).sum + (((l.find? (Path.same ·.1 p)).map (·.2)).map (·.length)).getD 0 =
        (l.map (·.2.length)).sum + f.length ∧
      l'.Pairwise fun a b => Path.same a.1 b.1 = false := by
  induction l with
  | nil => simp at hany
  | cons x rest ih =>
    rw [List.pairwise_cons] at hd
    obtain ⟨hx, hrest⟩ := hd
    -- the paths stay, so the list stays free of shared paths
    have hpaths : ∀ y ∈ rest.map (fun (q, g) => if Path.same q p then (q, f) else (q, g)),
        Path.same (if Path.same x.1 p then (x.1, f) else x).1 y.1 = false := by
      intro y hy
      obtain ⟨⟨q, g⟩, hz, rfl⟩ := List.mem_map.mp hy
      have hq : (if Path.same q p then (q, f) else (q, g)).1 = q := by split <;> rfl
      have hx' : (if Path.same x.1 p then (x.1, f) else x).1 = x.1 := by split <;> rfl
      rw [hq, hx']
      exact hx (q, g) hz
    by_cases hxp : Path.same x.1 p = true
    · -- the head is the one entry at the path: the rest is left alone
      have hnone : ∀ y ∈ rest, Path.same y.1 p = false := fun y hy => by
        cases hyp : Path.same y.1 p with
        | false => rfl
        | true => exact absurd (Path.same_trans hxp (Path.same_symm hyp)) (by simp [hx y hy])
      have hmap : (rest.map fun (q, g) => if Path.same q p then (q, f) else (q, g)) = rest := by
        conv => rhs; rw [← List.map_id rest]
        apply List.map_congr_left
        intro y hy
        simp [hnone y hy]
      refine ⟨?_, List.pairwise_cons.mpr ⟨hpaths, by rw [hmap]; exact hrest⟩⟩
      simp only [List.map_cons, hxp, if_true, hmap, List.sum_cons, List.find?_cons,
        Option.map_some, Option.getD_some]
      omega
    · have hrany : rest.any (Path.same ·.1 p) = true := by simpa [hxp] using hany
      obtain ⟨ih₁, ih₂⟩ := ih hrest hrany
      refine ⟨?_, List.pairwise_cons.mpr ⟨hpaths, ih₂⟩⟩
      simp only [Bool.not_eq_true] at hxp
      simp only [List.map_cons, hxp, List.sum_cons, List.find?_cons, Bool.false_eq_true,
        if_false] at ih₁ ⊢
      omega

/-- Putting a file replaces what the one file at its path held. -/
theorem stored_putFile {v : Volume} (hd : v.Distinct) (p : String) (f : FileEntry) :
    (v.putFile p f).stored + ((v.file? p).map (·.length)).getD 0 = v.stored + f.length ∧
      (v.putFile p f).Distinct := by
  unfold putFile stored file? Distinct at *
  split
  · rename_i hany
    exact replace_one f hd hany
  · rename_i hany
    have hnone : v.files.find? (Path.same ·.1 p) = none := by
      rw [List.find?_eq_none]
      intro x hx hxp
      exact hany (List.any_eq_true.mpr ⟨x, hx, hxp⟩)
    simp only [List.map_append, List.sum_append, List.map_cons, List.map_nil, List.sum_cons,
      List.sum_nil, hnone, Option.map_none, Option.getD_none]
    refine ⟨by omega, List.pairwise_append.mpr ⟨hd, List.pairwise_singleton _ _, ?_⟩⟩
    intro x hx y hy
    rw [List.mem_singleton] at hy
    subst hy
    cases hxp : Path.same x.1 p with
    | false => rfl
    | true => exact absurd (List.any_eq_true.mpr ⟨x, hx, hxp⟩) hany

/-- Putting a file in place of a shorter one, or of none, frees at most what it adds. -/
theorem free_putFile {v : Volume} (hd : v.Distinct) (p : String) (f : FileEntry) {k : Nat}
    (hk : f.length ≤ ((v.file? p).map (·.length)).getD 0 + k) :
    v.free ≤ (v.putFile p f).free + k ∧ (v.putFile p f).Distinct := by
  obtain ⟨hs, hd'⟩ := stored_putFile hd p f
  obtain ⟨-, -, hcap⟩ := putFile_files v p f
  refine ⟨?_, hd'⟩
  simp only [free, used_eq, hcap]
  have : min maxWord (v.putFile p f).stored ≤ min maxWord v.stored + k := by omega
  omega

theorem writable_ok {v : Volume} (hm : v.mounted = true) (hf : v.failWrites = false) :
    v.writable = .ok () := by
  simp [writable, hm, hf]

/-- A stream write on a volume that takes writes succeeds when the chunk fits. -/
theorem streamWrite_ok {v : Volume} (p : String) (c : Piece) (hm : v.mounted = true)
    (hf : v.failWrites = false) (hc : c.length ≤ v.free) :
    v.streamWrite p c = .ok (v.putFile p (((v.file? p).getD .empty).extend c)) := by
  simp [streamWrite, hm, hf, Nat.not_lt.mpr hc]

/-- A stream write keeps the volume's flags and leaves a file at the path. -/
theorem streamWrite_kept {v v' : Volume} {p : String} {c : Piece}
    (h : v.streamWrite p c = .ok v') :
    v'.mounted = v.mounted ∧ v'.failWrites = v.failWrites ∧ (v'.file? p).isSome := by
  rw [eq_of_streamWrite h]
  obtain ⟨hm, hf, -⟩ := putFile_files v p (((v.file? p).getD .empty).extend c)
  exact ⟨hm, hf, isSome_file?_putFile _ _ _⟩

/-- A stream write keeps the volume's distinct paths, and all free space but the chunk's. -/
theorem streamWrite_room {v v' : Volume} {p : String} {c : Piece} (hd : v.Distinct)
    (h : v.streamWrite p c = .ok v') : v.free ≤ v'.free + c.length ∧ v'.Distinct := by
  rw [eq_of_streamWrite h]
  have hgrow : (((v.file? p).getD .empty).extend c).length ≤
      ((v.file? p).map (·.length)).getD 0 + c.length := by
    cases v.file? p <;> simp [FileEntry.extend, FileEntry.empty]
  exact free_putFile hd p _ hgrow

/-- Opening a stream needs a volume that takes writes, and either puts an empty file at the path
or finds a file there to append to. -/
theorem openStream_cases {v v' : Volume} {p : String}
    (h : v.openWriteStream p = .ok v' ∨ v.openAppendStream p = .ok v') :
    v.writable = .ok () ∧ (v' = v.putFile p .empty ∨ v' = v ∧ (v.file? p).isSome) := by
  rcases h with h | h
  · unfold openWriteStream at h
    cases hw : v.writable with
    | error e => rw [hw] at h; cases h
    | ok u =>
      rw [hw] at h
      cases h
      exact ⟨rfl, Or.inl rfl⟩
  · unfold openAppendStream at h
    cases hw : v.writable with
    | error e => rw [hw] at h; cases h
    | ok u =>
      rw [hw] at h
      simp only [bind, Except.bind] at h
      split at h
      · rename_i f hf
        cases h
        exact ⟨rfl, Or.inr ⟨rfl, by rw [hf]; rfl⟩⟩
      · cases h
        exact ⟨rfl, Or.inl rfl⟩

/-- On a volume that takes writes both streams open. -/
theorem openStream_ok {v : Volume} (p : String) (hm : v.mounted = true)
    (hf : v.failWrites = false) :
    (∃ v', v.openWriteStream p = .ok v') ∧ ∃ v', v.openAppendStream p = .ok v' := by
  refine ⟨⟨_, by simp only [openWriteStream, writable_ok hm hf]; rfl⟩, ?_⟩
  unfold openAppendStream
  rw [writable_ok hm hf]
  cases v.file? p <;> exact ⟨_, rfl⟩

/-- Opening a stream keeps the volume's distinct paths, and frees space if anything. -/
theorem openStream_room {v v' : Volume} {p : String} (hd : v.Distinct)
    (h : v.openWriteStream p = .ok v' ∨ v.openAppendStream p = .ok v') :
    v.free ≤ v'.free ∧ v'.Distinct := by
  rcases (openStream_cases h).2 with rfl | ⟨rfl, -⟩
  · have hroom := free_putFile (k := 0) hd p .empty (by simp [FileEntry.empty])
    exact ⟨by simpa using hroom.1, hroom.2⟩
  · exact ⟨Nat.le_refl _, hd⟩

/-- Opening a stream keeps the volume's flags and leaves a file at the path. -/
theorem openStream_kept {v v' : Volume} {p : String}
    (h : v.openWriteStream p = .ok v' ∨ v.openAppendStream p = .ok v') :
    v'.mounted = v.mounted ∧ v'.failWrites = v.failWrites ∧ (v'.file? p).isSome := by
  rcases (openStream_cases h).2 with rfl | ⟨rfl, hs⟩
  · obtain ⟨hm, hf, -⟩ := putFile_files v p .empty
    exact ⟨hm, hf, isSome_file?_putFile v p .empty⟩
  · exact ⟨rfl, rfl, hs⟩

end Volume

end PlaybackEngine

namespace PlaybackEngine.Transport

/-- A transport serves `len` bytes at `url`: every answer starts at zero or at the offset asked
for, and its body runs whole to the end of the `len` bytes. -/
def Serves (t : Transport) (url : String) (len : Nat) : Prop :=
  ∀ o resp, (t.request url o).1 = .ok resp →
    (resp.resumedFrom = 0 ∨ resp.resumedFrom = o) ∧ resp.bodyBytes = len - resp.resumedFrom ∧
      resp.ending = .complete

/-- A url routed to a whole body is served, from an offset when ranges are honoured and from
the start otherwise. -/
theorem serves_of_route_body {t : Transport} {url : String} {len : Nat}
    (h : t.route url = .body len) : t.Serves url len := by
  intro o resp hr
  have h' : ({ t with opened := t.opened ++ [(url, o)] } : Transport).route url = .body len := h
  simp only [request, h'] at hr
  cases hr
  unfold ranged
  split
  · exact ⟨Or.inr rfl, rfl, rfl⟩
  · exact ⟨Or.inl rfl, rfl, rfl⟩

end PlaybackEngine.Transport

namespace PlaybackEngine.Downloads

open World

variable (serve : String → List UInt8)

theorem update_volume (track : TrackId) (n : Nat) (f : Download → Download) (w : World) :
    Holds (update track n f) (fun _ w' => w'.volume = w.volume) w := by
  simp only [update, holds_bind, holds_get]
  split <;> rfl

/-- The record of transfer `n` for `track`, active and counting `written` bytes. -/
def Counts (n : Nat) (track : TrackId) (written : Nat) (m : Manager) : Prop :=
  ∃ d, m.records.get? track = some d ∧ d.transfer = n ∧ d.record.state.isActive ∧
    d.record.bytesWritten = written

/-- What reading part of a body did, from `w` to `w'`: it appended to the file the run of `m`
bytes of the served content from `source`, none past the expected length, and a record that
counted the `written` bytes before counts the run too. -/
structure Appended (n : Nat) (req : DownloadRequest) (source written : Nat) (w w' : World)
    (m : Nat) : Prop where
  content : w'.volume.contentAt serve req.destination =
    w.volume.contentAt serve req.destination ++ (Piece.served req.url source m).bytesIn serve
  within : m = 0 ∨ written + m ≤ req.expectedLength
  present : (w.volume.file? req.destination).isSome → (w'.volume.file? req.destination).isSome
  counts : Counts n req.track written w.manager → Counts n req.track (written + m) w'.manager

theorem Appended.none {n : Nat} {req : DownloadRequest} {source written : Nat} {w w' : World}
    (hv : w'.volume = w.volume) (hm : w'.manager = w.manager) :
    Appended serve n req source written w w' 0 where
  content := by simp [hv, Piece.bytesIn]
  within := Or.inl rfl
  present h := hv ▸ h
  counts h := hm ▸ h

theorem Appended.trans {n : Nat} {req : DownloadRequest} {source written k m : Nat}
    {w w₁ w' : World} (h₁ : Appended serve n req source written w w₁ k) (hk : 0 < k)
    (h₂ : Appended serve n req (source + k) (written + k) w₁ w' m) :
    Appended serve n req source written w w' (k + m) where
  content := by rw [h₂.content, h₁.content, List.append_assoc, Piece.bytesIn_served_add]
  within := by
    rcases h₁.within with h | h
    · omega
    · rcases h₂.within with h' | h'
      · omega
      · omega
  present h := h₂.present (h₁.present h)
  counts h := by
    have := h₂.counts (h₁.counts h)
    rwa [Nat.add_assoc] at this

/-- A change that sets the byte count and keeps a record active makes an owned record count
those bytes. -/
theorem update_counts (track : TrackId) (n a b : Nat) (f : Download → Download)
    (hb : ∀ r, (f r).bytesWritten = b) (ha : ∀ r, r.state.isActive → (f r).state.isActive)
    (w : World) :
    Holds (update track n f)
      (fun _ w' => Counts n track a w.manager → Counts n track b w'.manager) w := by
  by_cases hc : Counts n track a w.manager
  · obtain ⟨d, hd, hn, hact, -⟩ := hc
    have hna : d.record.state ≠ .aborted := fun h => by
      rw [h] at hact
      cases hact
    refine (update_owned hd hn hna).mono fun _ w' hw' _ => ?_
    rw [hw'.2]
    exact ⟨_, Table.get?_insert_self _ _ _, hn, ha _ hact, hb _⟩
  · exact holds_of_forall fun _ _ h => absurd h hc

/-- Writing one chunk of `k` bytes appends its run and counts it. -/
theorem chunk_appended {n : Nat} {req : DownloadRequest} {source written k : Nat} {w : World}
    {v : Volume} (hv : w.volume.streamWrite req.destination (.served req.url source k) = .ok v)
    (hk : written + k ≤ req.expectedLength) :
    Holds (update req.track n fun r => { r with bytesWritten := written + k })
      (fun _ w₁ => Appended serve n req source written w w₁ k) { w with volume := v } := by
  have hc := update_counts req.track n written (written + k)
    (fun r => { r with bytesWritten := written + k }) (fun _ => rfl) (fun _ h => h)
    { w with volume := v }
  refine Holds.mono ((update_volume _ _ _ _).and hc)
    fun _ w₁ ⟨hv₁, hc₁⟩ => ⟨?_, Or.inr hk, fun _ => ?_, hc₁⟩
  · rw [hv₁]
    exact Volume.contentAt_of_streamWrite serve hv
  · rw [hv₁]
    exact (Volume.streamWrite_kept hv).2.2

/-- A write fault is never a remote failure. -/
theorem writeFailure_state (m : String) (w : World) :
    Holds (writeFailure m) (fun f w' => w' = w ∧ f.state ≠ .pausedRemoteFailure) w := by
  simp only [writeFailure, holds_bind, holds_get]
  split <;> exact ⟨rfl, fun h => by cases h⟩

/-- Reading a body appends to the file a run of the content its url serves, from the body's
position, none of it past the expected length; a read that stops well, or only on a remote
failure, appends the whole body. -/
theorem copyBody_appends (n : Nat) (req : DownloadRequest) (chunk : Nat) (progress : Bool)
    (ending : BodyEnd) (remaining source written : Nat) (w : World) :
    Holds (copyBody n req chunk progress ending remaining source written).run (fun r w' =>
      ∃ m ≤ remaining, Appended serve n req source written w w' m ∧
        ((∀ f, r = .error f → f.state = .pausedRemoteFailure) → m = remaining)) w := by
  fun_induction copyBody n req chunk progress ending remaining source written generalizing w with
  | case1 => exact ⟨0, Nat.le_refl _, .none serve rfl rfl, fun _ => rfl⟩
  | case2 => exact ⟨0, Nat.le_refl _, .none serve rfl rfl, fun _ => rfl⟩
  | case3 => exact ⟨0, Nat.le_refl _, .none serve rfl rfl, fun _ => rfl⟩
  | case4 => exact ⟨0, Nat.zero_le _, .none serve rfl rfl, fun h => absurd (h _ rfl) fun hs => by cases hs⟩
  | case5 remaining source written k body hsize ih =>
    simp only [body, holds_attempt_bind, holds_attempt_get]
    split
    · -- the chunk was refused: nothing more was written
      simp only [holds_attempt_bind, holds_liftM]
      refine (writeFailure_state _ _).mono ?_
      rintro f w' ⟨hw', hf⟩
      exact ⟨0, Nat.zero_le _, .none serve (congrArg World.volume hw')
        (congrArg World.manager hw'), fun h => absurd (h f rfl) hf⟩
    · rename_i v hv
      have hk : 0 < k := by omega
      simp only [holds_attempt_bind, holds_attempt_set, holds_attempt_discard, holds_liftM,
        Except.map]
      refine Holds.mono (chunk_appended serve hv (by omega)) fun _ w₁ h₁ => ?_
      -- the rest of the body is read from where the chunk ended
      have hrest : ∀ w₂ : World, w₂.volume = w₁.volume → w₂.manager = w₁.manager →
          Holds (copyBody n req chunk progress ending (remaining + 1 - k) (source + k)
            (written + k)).run (fun r w' => ∃ m ≤ remaining + 1, Appended serve n req source
              written w w' m ∧
                ((∀ f, r = .error f → f.state = .pausedRemoteFailure) → m = remaining + 1)) w₂ := by
        intro w₂ hv₂ hm₂
        refine Holds.mono (ih w₂) ?_
        rintro r w' ⟨m, hm, h₂, hall⟩
        have h₁' : Appended serve n req source written w w₂ k :=
          ⟨by rw [hv₂]; exact h₁.content, h₁.within, fun hs => hv₂ ▸ h₁.present hs,
            fun hc => hm₂ ▸ h₁.counts hc⟩
        exact ⟨k + m, by omega, h₁'.trans serve hk h₂, fun h => by have := hall h; omega⟩
      split
      · simp only [holds_attempt_bind, holds_liftM, holds_notify]
        exact hrest _ rfl rfl
      · exact hrest _ rfl rfl

/-- On a mounted volume a refused write fails the transfer for good. -/
theorem writeFailure_of_mounted (m : String) (w : World) (hm : w.volume.mounted = true) :
    Holds (writeFailure m) (fun f w' => w' = w ∧ f.state = .fileError) w := by
  simp [writeFailure, Volume.info, hm, fileFailure]

/-- A body with more bytes than the file lacks ends the read in a failure for good, on a mounted
volume: the chunk that would cross the expected length is refused, if no write failed before. -/
theorem copyBody_overlong (n : Nat) (req : DownloadRequest) (chunk : Nat) (progress : Bool)
    (ending : BodyEnd) (remaining source written : Nat) (w : World)
    (hlong : req.expectedLength - written < remaining) (hm : w.volume.mounted = true) :
    Holds (copyBody n req chunk progress ending remaining source written).run
      (fun r _ => ∃ f, r = .error f ∧ f.state = .fileError) w := by
  fun_induction copyBody n req chunk progress ending remaining source written generalizing w with
  | case1 => exact absurd hlong (Nat.not_lt_zero _)
  | case2 => exact absurd hlong (Nat.not_lt_zero _)
  | case3 => exact absurd hlong (Nat.not_lt_zero _)
  | case4 => exact ⟨_, rfl, rfl⟩
  | case5 remaining source written k body hsize ih =>
    simp only [body, holds_attempt_bind, holds_attempt_get]
    split
    · simp only [holds_attempt_bind, holds_liftM]
      refine (writeFailure_of_mounted _ _ hm).mono ?_
      rintro f _ ⟨-, hf⟩
      exact ⟨f, rfl, hf⟩
    · rename_i v hv
      have hmv : v.mounted = true := (Volume.streamWrite_kept hv).1.trans hm
      simp only [holds_attempt_bind, holds_attempt_set, holds_attempt_discard, holds_liftM,
        Except.map]
      refine Holds.mono (update_volume _ _ _ _) fun _ w₁ hv₁ => ?_
      -- what the file still lacks is less than what the body still holds
      have hlong' : req.expectedLength - (written + k) < remaining + 1 - k := by omega
      have hm₁ : w₁.volume.mounted = true := by rw [hv₁]; exact hmv
      split
      · simp only [holds_attempt_bind, holds_liftM, holds_notify]
        exact ih _ hlong' hm₁
      · exact ih _ hlong' hm₁

/-- How a body read to its end stops: at the end of a whole body, with a remote failure after a
broken one, and waiting on a stalled one. -/
def bodyStop (ending : BodyEnd) (written : Nat) : Except TransferFailure BodyStop :=
  match ending with
  | .complete => .ok (.complete written)
  | .broken => .error (remoteFailure "read failed: connection reset by fake peer")
  | .stalled => .ok (.stalled written)

theorem bodyStop_complete {ending : BodyEnd} {written k : Nat}
    (h : bodyStop ending written = .ok (.complete k)) : ending = .complete ∧ k = written := by
  cases ending <;> simp [bodyStop] at h ⊢
  exact h.symm

theorem bodyStop_stalled {ending : BodyEnd} {written k : Nat}
    (h : bodyStop ending written = .ok (.stalled k)) : ending = .stalled := by
  cases ending <;> simp [bodyStop] at h ⊢

theorem bodyStop_error {ending : BodyEnd} {written : Nat} {f : TransferFailure}
    (h : bodyStop ending written = .error f) : f.state = .pausedRemoteFailure := by
  cases ending <;> simp [bodyStop] at h
  rw [← h]
  rfl

/-- On a volume that takes writes and has room for the body, a body that fits in the expected
length is read to its end. -/
theorem copyBody_reads_all (n : Nat) (req : DownloadRequest) (chunk : Nat) (progress : Bool)
    (ending : BodyEnd) (remaining source written : Nat) (w : World)
    (hfit : written + remaining ≤ req.expectedLength) (hroom : remaining ≤ w.volume.free)
    (hd : w.volume.Distinct) (hm : w.volume.mounted = true) (hf : w.volume.failWrites = false) :
    Holds (copyBody n req chunk progress ending remaining source written).run
      (fun r _ => r = bodyStop ending (written + remaining)) w := by
  fun_induction copyBody n req chunk progress ending remaining source written generalizing w with
  | case1 _ _ hend => subst hend; rfl
  | case2 _ _ hend => subst hend; rfl
  | case3 _ _ hend => subst hend; rfl
  | case4 remaining source written hsize =>
    have : min (max chunk 1) (remaining + 1) ≤ remaining + 1 := Nat.min_le_right _ _
    omega
  | case5 remaining source written k body hsize ih =>
    have hk : k ≤ remaining + 1 := Nat.min_le_right _ _
    have hok := Volume.streamWrite_ok req.destination (.served req.url source k) hm hf
      (by simp only [Piece.length]; omega)
    simp only [body, holds_attempt_bind, holds_attempt_get]
    split
    · rename_i e he
      rw [hok] at he
      cases he
    rename_i v hv
    obtain ⟨hfree, hd'⟩ := Volume.streamWrite_room hd hv
    obtain ⟨hm', hf', -⟩ := Volume.streamWrite_kept hv
    simp only [Piece.length] at hfree
    simp only [holds_attempt_bind, holds_attempt_set, holds_attempt_discard, holds_liftM,
      Except.map]
    refine Holds.mono (update_volume _ _ _ _) fun _ w₁ hv₁ => ?_
    have hv₁' : w₁.volume = v := hv₁
    have hsum : written + k + (remaining + 1 - k) = written + (remaining + 1) := by omega
    -- the rest of the body still fits, in the length and in the room left
    have hrest : ∀ w₂ : World, w₂.volume = w₁.volume →
        Holds (copyBody n req chunk progress ending (remaining + 1 - k) (source + k)
          (written + k)).run (fun r _ => r = bodyStop ending (written + (remaining + 1))) w₂ := by
      intro w₂ hv₂
      rw [hv₁'] at hv₂
      rw [← hsum]
      refine ih w₂ (by omega) (by rw [hv₂]; omega) (hv₂ ▸ hd') ?_ ?_
      · rw [hv₂, hm', hm]
      · rw [hv₂, hf', hf]
    split
    · simp only [holds_attempt_bind, holds_liftM, holds_notify]
      exact hrest _ rfl
    · exact hrest _ rfl

/-! ### The steps before the body -/

/-- The offset a transfer starts from: the requested resume offset when the transport can resume
and the file holds exactly that many bytes, else zero. -/
def startOffset (w : World) (req : DownloadRequest) : Nat :=
  if 0 < req.resumeOffset ∧ w.transport.supportsResume = true ∧
      (w.volume.fileLen req.destination).toOption = some (some req.resumeOffset)
  then req.resumeOffset else 0

/-- Whether the file already holds the whole content at the start offset, so that a transfer
only commits it. -/
def Whole (w : World) (req : DownloadRequest) : Prop :=
  0 < startOffset w req ∧ startOffset w req = req.expectedLength

instance (w : World) (req : DownloadRequest) : Decidable (Whole w req) :=
  inferInstanceAs (Decidable (_ ∧ _))

/-- The answer whose body a transfer from its start reads, if it reads one: the answer from the
start offset when it starts there or at zero, else the answer from zero when that starts at
zero. -/
def bodyAnswer (w : World) (req : DownloadRequest) : Option Response :=
  if Whole w req then none else
  let o := startOffset w req
  let first := w.transport.request req.url o
  match first.1 with
  | .error _ => none
  | .ok resp =>
    if resp.resumedFrom = o ∨ resp.resumedFrom = 0 then some resp
    else match (first.2.request req.url 0).1 with
      | .ok again => if again.resumedFrom = 0 then some again else none
      | .error _ => none

/-- The offset up to which a finished transfer keeps what the file held: the start offset when
the file was already whole, so that no server is asked, or when the server answered from there;
else zero. -/
def keptOffset (w : World) (req : DownloadRequest) : Nat :=
  if Whole w req ∨
      (w.transport.request req.url (startOffset w req)).1.toOption.map (·.resumedFrom) =
        some (startOffset w req)
  then startOffset w req else 0

theorem not_whole_of_bodyAnswer {w : World} {req : DownloadRequest} {resp : Response}
    (h : bodyAnswer w req = some resp) : ¬Whole w req := fun hw => by
  simp [bodyAnswer, hw] at h

/-- The body a transfer reads starts at the start offset or at zero. -/
theorem bodyAnswer_resumedFrom {w : World} {req : DownloadRequest} {resp : Response}
    (h : bodyAnswer w req = some resp) :
    resp.resumedFrom = startOffset w req ∨ resp.resumedFrom = 0 := by
  unfold bodyAnswer at h
  split at h
  · cases h
  dsimp only at h
  split at h
  · cases h
  · split at h
    · rename_i hfrom
      cases h
      exact hfrom
    · split at h
      · split at h
        · rename_i hzero
          cases h
          exact Or.inr hzero
        · cases h
      · cases h

theorem bodyAnswer_eq_first {w : World} {req : DownloadRequest} {resp : Response}
    (hnw : ¬Whole w req) (h : (w.transport.request req.url (startOffset w req)).1 = .ok resp)
    (hfrom : resp.resumedFrom = startOffset w req ∨ resp.resumedFrom = 0) :
    bodyAnswer w req = some resp := by
  unfold bodyAnswer
  rw [if_neg hnw]
  simp only [h, if_pos hfrom]

theorem bodyAnswer_eq_retry {w : World} {req : DownloadRequest} {resp : Response}
    (hnw : ¬Whole w req) (h : (w.transport.request req.url (startOffset w req)).1 = .ok resp)
    (hfrom : ¬(resp.resumedFrom = startOffset w req ∨ resp.resumedFrom = 0)) :
    bodyAnswer w req =
      match ((w.transport.request req.url (startOffset w req)).2.request req.url 0).1 with
      | .ok again => if again.resumedFrom = 0 then some again else none
      | .error _ => none := by
  unfold bodyAnswer
  rw [if_neg hnw]
  simp only [h, if_neg hfrom]

/-- When the transport serves the url, the body a transfer reads is the first answer. -/
theorem bodyAnswer_of_serves {w : World} {req : DownloadRequest} {resp : Response} {len : Nat}
    (hs : w.transport.Serves req.url len) (h : bodyAnswer w req = some resp) :
    (w.transport.request req.url (startOffset w req)).1 = .ok resp := by
  unfold bodyAnswer at h
  split at h
  · cases h
  dsimp only at h
  split at h
  · cases h
  · rename_i first hfirst
    have hfrom := (hs _ first hfirst).1
    rw [if_pos (hfrom.symm.imp id id)] at h
    cases h
    exact hfirst

/-- When the transport serves the url, the offset a finished transfer keeps is where the body
it reads starts. -/
theorem keptOffset_of_serves {w : World} {req : DownloadRequest} {resp : Response} {len : Nat}
    (hs : w.transport.Serves req.url len) (h : bodyAnswer w req = some resp) :
    keptOffset w req = resp.resumedFrom := by
  have hfirst := bodyAnswer_of_serves hs h
  have hwhole := not_whole_of_bodyAnswer h
  unfold keptOffset
  rw [hfirst]
  rcases (hs _ resp hfirst).1 with hz | ho
  · by_cases hzo : startOffset w req = 0
    · rw [hz, hzo]
      split <;> rfl
    · rw [if_neg (by simp [hwhole, Except.toOption, hz, Ne.symm hzo]), hz]
  · rw [ho, if_pos (Or.inr (by simp [Except.toOption, ho]))]

/-- A file resumed from a positive start offset holds exactly that many bytes. -/
theorem length_contentAt_of_startOffset {w : World} {req : DownloadRequest}
    (h : 0 < startOffset w req) :
    (w.volume.contentAt serve req.destination).length = startOffset w req := by
  unfold startOffset at h ⊢
  split at h
  · rename_i hcond
    rw [if_pos hcond]
    obtain ⟨len, hlen⟩ := Volume.fileLen_ok w.volume req.destination
    have hsome : len = some req.resumeOffset := by
      simpa [hlen, Except.toOption] using hcond.2.2
    rw [Volume.length_contentAt_of_fileLen serve hlen, hsome]
    rfl
  · exact absurd h (Nat.lt_irrefl 0)

/-- A body a transfer reads from a positive offset continues a file of exactly that length. -/
theorem length_contentAt_of_bodyAnswer {w : World} {req : DownloadRequest} {resp : Response}
    (hans : bodyAnswer w req = some resp) (ho : 0 < resp.resumedFrom) :
    (w.volume.contentAt serve req.destination).length = resp.resumedFrom := by
  rcases bodyAnswer_resumedFrom hans with hs | hz
  · rw [hs] at ho ⊢
    exact length_contentAt_of_startOffset serve ho
  · omega

theorem keptOffset_le_length (w : World) (req : DownloadRequest) :
    keptOffset w req ≤ (w.volume.contentAt serve req.destination).length := by
  unfold keptOffset
  split
  · by_cases ho : 0 < startOffset w req
    · exact Nat.le_of_eq (length_contentAt_of_startOffset serve ho).symm
    · omega
  · exact Nat.zero_le _

/-- Finding the offset to start from reads the world and never fails. -/
theorem usableOffset_spec (req : DownloadRequest) (w : World) :
    Holds (usableOffset req).run (fun r w' => w' = w ∧ r = .ok (startOffset w req)) w := by
  unfold usableOffset startOffset
  split
  · rename_i h0
    exact ⟨rfl, by simp [h0]; rfl⟩
  · simp only [holds_attempt_bind, holds_attempt_get]
    split
    · rename_i hres
      simp only [Bool.not_eq_true'] at hres
      exact ⟨rfl, by simp [hres]; rfl⟩
    · rename_i h0 hres
      simp only [Bool.not_eq_true', Bool.not_eq_false] at hres
      split
      · rename_i e he
        obtain ⟨len, hlen⟩ := Volume.fileLen_ok w.volume req.destination
        rw [hlen] at he
        cases he
      · rename_i existing he
        refine ⟨rfl, ?_⟩
        by_cases hex : existing = some req.resumeOffset
        · subst hex
          simp [he, hres, Nat.pos_of_ne_zero h0, Except.toOption]
          rfl
        · simp [he, hex, Except.toOption]
          rfl

/-- Asking for the body changes only the transport, and gives the transport's answer: its body,
or a failure when the transport has none. -/
theorem openBody_spec (req : DownloadRequest) (offset : Nat) (w : World) :
    Holds (openBody req offset).run (fun r w' =>
      w' = { w with transport := (w.transport.request req.url offset).2 } ∧
        (∀ resp, r = .ok resp → (w.transport.request req.url offset).1 = .ok resp) ∧
        ∀ f, r = .error f → ∃ e, (w.transport.request req.url offset).1 = .error e) w := by
  simp only [openBody, holds_attempt_bind, holds_attempt_get, holds_attempt_set]
  split
  · rename_i resp hr
    exact ⟨rfl, fun _ h => by cases h; exact hr, fun _ h => by cases h⟩
  · rename_i status m hr
    exact ⟨rfl, fun _ h => (by cases h), fun _ _ => ⟨_, hr⟩⟩
  · rename_i e _ hr
    exact ⟨rfl, fun _ h => (by cases h), fun _ _ => ⟨_, hr⟩⟩

theorem commitStorage_volume (k : CacheKey) (path : String) (expected : Nat) (w : World) :
    Holds (Cache.commitStorage k path expected).run (fun _ w' => w'.volume = w.volume) w := by
  simp only [Cache.commitStorage, attemptInSpan_run, holds_inSpan, holds_attempt_bind,
    holds_fileLen]
  rcases hlen : w.volume.fileLen path with e | len
  · trivial
  · simp only [Except.mapError]
    split <;> simp

theorem commit_volume (req : DownloadRequest) (w : World) :
    Holds (commit req).run (fun _ w' => w'.volume = w.volume) w := by
  simp only [commit, holds_attempt_bind, holds_liftM]
  refine (commitStorage_volume _ _ _ w).mono fun r w' h => ?_
  split <;> exact h

/-- Ending a body changes no file: it only commits one. -/
theorem finishBody_volume (req : DownloadRequest) (written : Nat) (w : World) :
    Holds (finishBody req written).run (fun _ w' => w'.volume = w.volume ∧ w'.manager = w.manager)
      w := by
  refine Holds.and ?_ ((finishBody_keeps req written).holds fun _ _ h => congrArg (·.2.1) h)
  unfold finishBody
  split
  · rfl
  · exact commit_volume req w

/-- Opening the destination leaves the manager alone; it opens the stream its offset asks for, or
fails on a volume that does not take writes and changes nothing. -/
theorem openWriter_spec (req : DownloadRequest) (o : Nat) (w : World) :
    Holds (openWriter req o).run (fun r w' => w'.manager = w.manager ∧
      (∀ u, r = .ok u → (if 0 < o then w.volume.openAppendStream req.destination
        else w.volume.openWriteStream req.destination) = .ok w'.volume) ∧
      (∀ f, r = .error f → w' = w ∧
        (w.volume.mounted = false ∨ w.volume.failWrites = true))) w := by
  simp only [openWriter, holds_attempt_bind, holds_attempt_get]
  split
  · rename_i v hv
    exact ⟨rfl, fun _ _ => hv, fun _ h => by cases h⟩
  · rename_i e he
    simp only [holds_attempt_bind, holds_liftM]
    refine (writeFailure_state _ _).mono ?_
    rintro f w' ⟨hw', _⟩
    rw [hw']
    refine ⟨rfl, fun _ h => (by cases h), fun _ _ => ⟨rfl, ?_⟩⟩
    -- a volume that takes writes opens either stream
    cases hm : w.volume.mounted
    · exact Or.inl rfl
    cases hf : w.volume.failWrites
    · obtain ⟨⟨v₁, h₁⟩, ⟨v₂, h₂⟩⟩ := Volume.openStream_ok req.destination hm hf
      split at he
      · rw [h₂] at he
        cases he
      · rw [h₁] at he
        cases he
    · exact Or.inr rfl

/-- Ending a body that fell short of the expected length is a remote failure. -/
theorem finishBody_short (req : DownloadRequest) (written : Nat) (w : World)
    (h : written < req.expectedLength) :
    Holds (finishBody req written).run
      (fun r _ => ∃ f, r = .error f ∧ f.state = .pausedRemoteFailure) w := by
  unfold finishBody
  rw [if_pos h]
  exact ⟨_, rfl, rfl⟩

theorem Appended.of_eq {n : Nat} {req : DownloadRequest} {source written m : Nat}
    {w₀ w₁ w' : World} (h : Appended serve n req source written w₀ w₁ m)
    (hv : w'.volume = w₁.volume) (hm : w'.manager = w₁.manager) :
    Appended serve n req source written w₀ w' m :=
  ⟨hv ▸ h.content, h.within, fun hs => hv ▸ h.present hs, fun hc => hm ▸ h.counts hc⟩

/-! ### A run from the start, as seen from its file -/

/-- A body that ends before the expected length: a whole body that is short, or one that
breaks, not past the expected length. -/
def EndsShort (resp : Response) (expected : Nat) : Prop :=
  resp.ending = .complete ∧ resp.resumedFrom + resp.bodyBytes < expected ∨
    resp.ending = .broken ∧ resp.resumedFrom + resp.bodyBytes ≤ expected

theorem EndsShort.fits {resp : Response} {expected : Nat} (h : EndsShort resp expected) :
    resp.resumedFrom + resp.bodyBytes ≤ expected := by
  rcases h with h | h
  · exact Nat.le_of_lt h.2
  · exact h.2

/-- What reading the body of `resp` gives, from `w₀` to `w₁`, with the read's own result `rb`:
it appended a run of the served content, the whole body unless the read failed other than
remotely; a body longer than the file lacks failed on a mounted volume; and on a volume that
takes all of a body that fits, the read went to the body's end. -/
structure BodyRead (n : Nat) (req : DownloadRequest) (resp : Response) (w₀ : World)
    (rb : Except TransferFailure BodyStop) (w₁ : World) : Prop where
  appended : ∃ m ≤ resp.bodyBytes,
    Appended serve n req resp.resumedFrom resp.resumedFrom w₀ w₁ m ∧
      ((∀ f, rb = .error f → f.state = .pausedRemoteFailure) → m = resp.bodyBytes)
  overlong : req.expectedLength - resp.resumedFrom < resp.bodyBytes →
    w₀.volume.mounted = true → ∃ f, rb = .error f ∧ f.state = .fileError
  reads_all : resp.resumedFrom + resp.bodyBytes ≤ req.expectedLength →
    resp.bodyBytes ≤ w₀.volume.free → w₀.volume.Distinct → w₀.volume.mounted = true →
    w₀.volume.failWrites = false → rb = bodyStop resp.ending (resp.resumedFrom + resp.bodyBytes)

theorem copyBody_read (n : Nat) (req : DownloadRequest) (chunk : Nat) (progress : Bool)
    (resp : Response) (w₀ : World) :
    Holds (copyBody n req chunk progress resp.ending resp.bodyBytes resp.resumedFrom
      resp.resumedFrom).run (BodyRead serve n req resp w₀) w₀ := by
  refine Holds.mono ((copyBody_appends serve _ _ _ _ _ _ _ _ w₀).and (Holds.and ?_ ?_))
    fun _ _ ⟨h₁, h₂, h₃⟩ => ⟨h₁, h₂, h₃⟩
  · intro hlong hm
    exact copyBody_overlong _ _ _ _ _ _ _ _ w₀ hlong hm
  · intro hfit hroom hd hm hf
    exact copyBody_reads_all _ _ _ _ _ _ _ _ w₀ hfit hroom hd hm hf

/-- What opening the destination at offset `o` did, from `w` to `w₀` where reading the body
starts: the file is there and holds what it held up to `o`; the volume keeps its flags and, when
no two files share a path, its room; and a record the transfer owned counts the `o` bytes. -/
structure Opened (n : Nat) (req : DownloadRequest) (w : World) (o : Nat) (w₀ : World) :
    Prop where
  content : w₀.volume.contentAt serve req.destination =
    (w.volume.contentAt serve req.destination).take o
  present : (w₀.volume.file? req.destination).isSome
  mounted : w₀.volume.mounted = w.volume.mounted
  failWrites : w₀.volume.failWrites = w.volume.failWrites
  room : w.volume.Distinct → w.volume.free ≤ w₀.volume.free ∧ w₀.volume.Distinct
  counts : (∃ a, Counts n req.track a w.manager) → Counts n req.track o w₀.manager

/-- The stream opened at offset `o`: appending keeps a file that holds exactly `o` bytes,
writing from the start empties it. -/
theorem Opened.of_stream {n : Nat} {req : DownloadRequest} {w : World} {o : Nat}
    {w₅ w₆ : World} (hlen : 0 < o → (w.volume.contentAt serve req.destination).length = o)
    (hopen : (if 0 < o then w.volume.openAppendStream req.destination
      else w.volume.openWriteStream req.destination) = .ok w₅.volume)
    (hv : w₆.volume = w₅.volume)
    (hc : ∀ a, Counts n req.track a w.manager → Counts n req.track o w₆.manager) :
    Opened serve n req w o w₆ := by
  have hopen' : w.volume.openWriteStream req.destination = .ok w₅.volume ∨
      w.volume.openAppendStream req.destination = .ok w₅.volume := by
    split at hopen
    · exact Or.inr hopen
    · exact Or.inl hopen
  obtain ⟨hm, hf, hs⟩ := Volume.openStream_kept hopen'
  refine ⟨?_, hv ▸ hs, hv ▸ hm, hv ▸ hf, fun hd => hv ▸ Volume.openStream_room hd hopen',
    fun ⟨a, ha⟩ => hc a ha⟩
  rw [hv]
  split at hopen
  · rename_i ho
    rw [Volume.contentAt_of_openAppendStream serve hopen,
      List.take_of_length_le (Nat.le_of_eq (hlen ho))]
  · rename_i ho
    rw [Volume.contentAt_of_openWriteStream serve hopen, Nat.eq_zero_of_not_pos ho, List.take_zero]

/-- What reading the body of `resp` did, from `w₀` to the end of the run, with result `r`: it
appended a run of the served content, the whole body unless the run failed other than remotely;
a body longer than the file lacks failed the run for good on a mounted volume; and a body that
ends short paused the run on a remote failure, on a volume that took all of it. -/
structure Read (n : Nat) (req : DownloadRequest) (resp : Response) (w₀ : World)
    (r : Except TransferFailure Outcome) (w' : World) : Prop where
  appended : ∃ m ≤ resp.bodyBytes,
    Appended serve n req resp.resumedFrom resp.resumedFrom w₀ w' m ∧
      ((∀ f, r = .error f → f.state = .pausedRemoteFailure) → m = resp.bodyBytes)
  overlong : req.expectedLength - resp.resumedFrom < resp.bodyBytes →
    w₀.volume.mounted = true → ∃ f, r = .error f ∧ f.state = .fileError
  short : EndsShort resp req.expectedLength → resp.bodyBytes ≤ w₀.volume.free →
    w₀.volume.Distinct → w₀.volume.mounted = true → w₀.volume.failWrites = false →
    ∃ f, r = .error f ∧ f.state = .pausedRemoteFailure

namespace Read

variable {serve} {n : Nat} {req : DownloadRequest} {resp : Response} {w₀ : World}

/-- A read that failed ends the run with its failure. -/
theorem of_error {f : TransferFailure} {w₁ : World}
    (h : BodyRead serve n req resp w₀ (.error f) w₁) : Read serve n req resp w₀ (.error f) w₁ where
  appended := by
    obtain ⟨m, hm, happ, hall⟩ := h.appended
    exact ⟨m, hm, happ, fun hr => hall fun f' hf => hr f' (by cases hf; rfl)⟩
  overlong hlong hm := by
    obtain ⟨f', hf, hst⟩ := h.overlong hlong hm
    cases hf
    exact ⟨f, rfl, hst⟩
  short hs hroom hd hm hf :=
    ⟨f, rfl, bodyStop_error (h.reads_all hs.fits hroom hd hm hf).symm⟩

/-- A read that waits on a stalled body ends the run waiting. -/
theorem of_stalled {k : Nat} {w₁ : World}
    (h : BodyRead serve n req resp w₀ (.ok (.stalled k)) w₁) :
    Read serve n req resp w₀ (.ok (.stalled k)) w₁ where
  appended := by
    obtain ⟨m, hm, happ, hall⟩ := h.appended
    exact ⟨m, hm, happ, fun _ => hall fun _ h => by cases h⟩
  overlong hlong hm := by
    obtain ⟨f, hf, -⟩ := h.overlong hlong hm
    cases hf
  short hs hroom hd hm hf := by
    have hstall := bodyStop_stalled (h.reads_all hs.fits hroom hd hm hf).symm
    rcases hs with ⟨he, -⟩ | ⟨he, -⟩ <;> rw [he] at hstall <;> cases hstall

/-- A read that reached the end of a body ends the run as ending the body does. -/
theorem of_complete {k : Nat} {w₁ : World}
    (h : BodyRead serve n req resp w₀ (.ok (.complete k)) w₁) :
    Holds (finishBody req k >>= fun _ => pure (Outcome.ended (.ok ()))).run
      (Read serve n req resp w₀) w₁ := by
  obtain ⟨m, hm, happ, hall⟩ := h.appended
  have hwhole : m = resp.bodyBytes := hall fun _ h => nomatch h
  have hlong : req.expectedLength - resp.resumedFrom < resp.bodyBytes →
      w₀.volume.mounted = true → False := fun hlong hm => by
    obtain ⟨f, hf, -⟩ := h.overlong hlong hm
    cases hf
  -- a short body reads to its end, and ending it there is a remote failure
  have hshort : Holds (finishBody req k).run (fun r _ => EndsShort resp req.expectedLength →
      resp.bodyBytes ≤ w₀.volume.free → w₀.volume.Distinct → w₀.volume.mounted = true →
      w₀.volume.failWrites = false → ∃ f, r = .error f ∧ f.state = .pausedRemoteFailure) w₁ := by
    intro hs hroom hd hmnt hf
    obtain ⟨hend, hk⟩ := bodyStop_complete (h.reads_all hs.fits hroom hd hmnt hf).symm
    have hlt : k < req.expectedLength := by
      rcases hs with ⟨-, hlt⟩ | ⟨hb, -⟩
      · omega
      · rw [hend] at hb
        cases hb
    exact finishBody_short req k w₁ hlt
  refine Holds.attemptBind ((finishBody_volume req k w₁).and hshort)
    (fun _ w' ⟨⟨hv, hmg⟩, hs⟩ => ?_) fun f w' ⟨⟨hv, hmg⟩, hs⟩ => ?_
  · refine ⟨⟨m, hm, happ.of_eq serve hv hmg, fun _ => hwhole⟩, fun hl hmnt => (hlong hl hmnt).elim,
      fun hsh hroom hd hmnt hf => ?_⟩
    obtain ⟨f, hf, -⟩ := hs hsh hroom hd hmnt hf
    cases hf
  · refine ⟨⟨m, hm, happ.of_eq serve hv hmg, fun _ => hwhole⟩, fun hl hmnt => (hlong hl hmnt).elim,
      fun hsh hroom hd hmnt hf => ?_⟩
    obtain ⟨f', hf', hst⟩ := hs hsh hroom hd hmnt hf
    cases hf'
    exact ⟨f, rfl, hst⟩

end Read

/-- How a transfer run from its start ends, as seen from its file. -/
inductive Fetched (n : Nat) (req : DownloadRequest) (w : World) :
    Except TransferFailure Outcome → World → Prop where
  /-- The file already held the whole content, and only a commit was tried. -/
  | whole {r : Except TransferFailure Outcome} {w' : World} :
      Whole w req → w'.volume = w.volume → Fetched n req w r w'
  /-- No body came: the run failed and left the file alone. -/
  | unanswered {f : TransferFailure} {w' : World} :
      ¬Whole w req → bodyAnswer w req = none → w'.volume = w.volume →
        Fetched n req w (.error f) w'
  /-- The volume did not take writes: the run failed and left the file alone. -/
  | unopened {f : TransferFailure} {w' : World} :
      (w.volume.mounted = false ∨ w.volume.failWrites = true) → w'.volume = w.volume →
        Fetched n req w (.error f) w'
  /-- The body of `resp` was read into the file, opened at the body's start. -/
  | read {r : Except TransferFailure Outcome} {w' : World} (resp : Response) (w₀ : World) :
      bodyAnswer w req = some resp → Opened serve n req w resp.resumedFrom w₀ →
        Read serve n req resp w₀ r w' → Fetched n req w r w'

/-- Every run of a transfer from its start, as seen from its file. -/
theorem runFromStart_fetched (n : Nat) (req : DownloadRequest) (w : World) :
    Holds (runFromStart n req).run (Fetched serve n req w) w := by
  unfold runFromStart
  refine Holds.attemptBind (usableOffset_spec req w) ?_ ?_
  rotate_left
  · -- the offset is always found
    rintro _ _ ⟨_, ⟨⟩⟩
  rintro offset w₁ ⟨hw₁, ho⟩
  cases hw₁
  cases ho
  split
  · rename_i hwhole
    have hw : Whole w req := by simpa [Whole] using hwhole
    exact Holds.attemptBind (commit_volume req w) (fun _ _ hv => .whole hw hv)
      fun _ _ hv => .whole hw hv
  rename_i hwhole
  have hnw : ¬Whole w req := fun hw => hwhole (by simpa [Whole] using hw)
  refine Holds.attemptBind (openBody_spec req _ w) ?_ ?_
  rotate_left
  · rintro f w₂ ⟨hw₂, -, herr⟩
    obtain ⟨e, he⟩ := herr f rfl
    exact .unanswered hnw (by simp [bodyAnswer, hnw, he]) (by rw [hw₂])
  rintro resp w₂ ⟨hw₂, hok, -⟩
  have hfirst := hok resp rfl
  -- the rest of the run, once the body and its offset are settled
  extract_lets tail
  have htail : ∀ (ans : Response) (w₃ : World), bodyAnswer w req = some ans →
      w₃.volume = w.volume → w₃.manager = w.manager →
      Holds (tail (ans, ans.resumedFrom)).run (Fetched serve n req w) w₃ := by
    intro ans w₃ hans hv₃ hm₃
    dsimp -zeta only [tail]
    extract_lets body
    -- opening the file at the body's start, counting what it keeps, and reading the body
    have hbody : ∀ u w₄, w₄.volume = w.volume → w₄.manager = w.manager →
        Holds (body u).run (Fetched serve n req w) w₄ := by
      intro _ w₄ hv₄ hm₄
      refine Holds.attemptBind (openWriter_spec req ans.resumedFrom w₄) ?_ ?_
      rotate_left
      · rintro f w₅ ⟨-, -, herr⟩
        obtain ⟨hw₅, hfail⟩ := herr f rfl
        rw [hv₄] at hfail
        exact .unopened hfail (by rw [hw₅, hv₄])
      rintro _ w₅ ⟨hm₅, hok, -⟩
      have hopen := hok () rfl
      rw [hv₄] at hopen
      have hcount : Holds
          (update req.track n fun r => { r with
            state := .downloading, bytesWritten := ans.resumedFrom,
            resumeOffset := ans.resumedFrom })
          (fun _ w' => ∀ a, Counts n req.track a w₅.manager →
            Counts n req.track ans.resumedFrom w'.manager) w₅ :=
        fun a => update_counts req.track n a ans.resumedFrom _ (fun _ => rfl) (fun _ _ => rfl) w₅
      rw [holds_attempt_bind, holds_attempt_discard, holds_liftM]
      refine Holds.mono ((update_volume _ _ _ w₅).and hcount) ?_
      rintro _ w₆ ⟨hv₆, hc₆⟩
      have hopened : Opened serve n req w ans.resumedFrom w₆ :=
        Opened.of_stream serve (length_contentAt_of_bodyAnswer serve hans) hopen hv₆
          fun a ha => hc₆ a (by rw [hm₅, hm₄]; exact ha)
      simp only [Except.map, holds_attempt_bind, holds_attempt_get]
      refine Holds.mono (copyBody_read serve n req _ _ ans w₆) fun rb w₇ hread => ?_
      cases rb with
      | error f => exact .read ans w₆ hans hopened (Read.of_error hread)
      | ok stop =>
        cases stop with
        | complete k => exact (Read.of_complete hread).mono fun _ _ h => .read ans w₆ hans hopened h
        | stalled k => exact .read ans w₆ hans hopened (Read.of_stalled hread)
    clear_value body
    -- a total length that disagrees with the catalog is only logged
    split
    · split
      · rw [holds_attempt_bind, holds_liftM, holds_log]
        exact hbody () _ hv₃ hm₃
      · exact hbody () w₃ hv₃ hm₃
    · exact hbody () w₃ hv₃ hm₃
  clear_value tail
  have hv₂ : w₂.volume = w.volume := by rw [hw₂]
  have hm₂ : w₂.manager = w.manager := by rw [hw₂]
  -- the server answered from the offset asked for, or from zero
  split
  · rename_i hfrom
    have h := htail resp w₂ (bodyAnswer_eq_first hnw hfirst (Or.inl hfrom)) hv₂ hm₂
    rw [hfrom] at h
    rw [holds_attempt_bind]
    exact h
  split
  · rename_i hzero
    have h := htail resp w₂ (bodyAnswer_eq_first hnw hfirst (Or.inr hzero)) hv₂ hm₂
    rw [hzero] at h
    rw [holds_attempt_bind]
    exact h
  rename_i hne hzero
  -- the server answered from elsewhere: the body is asked for again from the start
  have hretry := bodyAnswer_eq_retry hnw hfirst (not_or.mpr ⟨hne, hzero⟩)
  have ht₂ : w₂.transport = (w.transport.request req.url (startOffset w req)).2 := by rw [hw₂]
  refine Holds.attemptBind (openBody_spec req 0 w₂) ?_ ?_
  rotate_left
  · rintro f w₃ ⟨hw₃, -, herr₃⟩
    obtain ⟨e, he⟩ := herr₃ f rfl
    rw [ht₂] at he
    exact .unanswered hnw (by simp only [hretry, he]) (by rw [hw₃, hv₂])
  rintro again w₃ ⟨hw₃, hok₃, -⟩
  have hagain := hok₃ again rfl
  rw [ht₂] at hagain
  have hv₃ : w₃.volume = w.volume := by rw [hw₃, hv₂]
  have hm₃ : w₃.manager = w.manager := by rw [hw₃, hm₂]
  extract_lets retry
  split
  · rename_i hnz
    refine .unanswered hnw ?_ hv₃
    simp only [hretry, hagain, if_neg hnz]
  · rename_i hz
    have hz' : again.resumedFrom = 0 := by simpa using hz
    have h := htail again w₃ (by simp only [hretry, hagain, if_pos hz']) hv₃ hm₃
    rw [hz'] at h
    dsimp only [retry]
    rw [holds_attempt_bind]
    exact h

/-! ### What a transfer leaves in its file -/

/-- A transfer that finishes, from a transport that serves the url's whole content of the
expected length, leaves the file holding what it held up to the kept offset, then the content
from there. -/
theorem finished_transfer_content (n : Nat) (req : DownloadRequest) (w : World)
    (hserve : w.transport.Serves req.url (serve req.url).length)
    (hlen : (serve req.url).length = req.expectedLength) :
    Holds (runFromStart n req).run (fun r w' => r = .ok (.ended (.ok ())) →
      w'.volume.contentAt serve req.destination =
        (w.volume.contentAt serve req.destination).take (keptOffset w req) ++
          (serve req.url).drop (keptOffset w req)) w := by
  refine (runFromStart_fetched serve n req w).mono fun r w' hfe hfin => ?_
  cases hfe with
  | whole hw hv =>
    -- the file already held the whole content, and it was kept as it was
    have hkept : keptOffset w req = req.expectedLength := by
      rw [keptOffset, if_pos (Or.inl hw)]
      exact hw.2
    have hP : (w.volume.contentAt serve req.destination).length = req.expectedLength := by
      rw [length_contentAt_of_startOffset serve hw.1, hw.2]
    rw [hv, hkept, List.take_of_length_le (Nat.le_of_eq hP),
      List.drop_of_length_le (Nat.le_of_eq hlen), List.append_nil]
  | unanswered => cases hfin
  | unopened => cases hfin
  | read resp w₀ hans hopen hread =>
    -- a finished read appended the whole body, which is the rest of the content
    obtain ⟨m, -, happ, hall⟩ := hread.appended
    have hm : m = resp.bodyBytes := hall fun _ h => by rw [hfin] at h; cases h
    obtain ⟨-, hbytes, -⟩ := hserve _ resp (bodyAnswer_of_serves hserve hans)
    rw [happ.content, hopen.content, keptOffset_of_serves hserve hans, hm, hbytes,
      Piece.bytesIn_served_rest]

/-- A finished transfer from a file that holds a prefix of the content leaves the content. -/
theorem finished_transfer_of_prefix (w : World) (req : DownloadRequest) (w' : World)
    (hpre : w.volume.contentAt serve req.destination <+: serve req.url)
    (hfile : w'.volume.contentAt serve req.destination =
      (w.volume.contentAt serve req.destination).take (keptOffset w req) ++
        (serve req.url).drop (keptOffset w req)) :
    w'.volume.contentAt serve req.destination = serve req.url := by
  obtain ⟨rest, hrest⟩ := hpre
  have hle := keptOffset_le_length serve w req
  rw [hfile, ← hrest, List.drop_append_of_le_length hle, ← List.append_assoc,
    List.take_append_drop]

/-- A body longer than what the file lacks fails the transfer for good, on a volume that takes
writes: the file holds what it kept, then a run of the body that stops at the expected
length. -/
theorem overlong_body_fails (n : Nat) (req : DownloadRequest) (w : World) (resp : Response)
    (hans : bodyAnswer w req = some resp)
    (hlong : req.expectedLength - resp.resumedFrom < resp.bodyBytes)
    (hm : w.volume.mounted = true) (hf : w.volume.failWrites = false) :
    Holds (runFromStart n req).run (fun r w' => (∃ f, r = .error f ∧ f.state = .fileError) ∧
      ∃ m, (m = 0 ∨ resp.resumedFrom + m ≤ req.expectedLength) ∧
        w'.volume.contentAt serve req.destination =
          (w.volume.contentAt serve req.destination).take resp.resumedFrom ++
            (Piece.served req.url resp.resumedFrom m).bytesIn serve) w := by
  refine (runFromStart_fetched serve n req w).mono fun r w' hfe => ?_
  cases hfe with
  | whole hw => exact absurd hw (not_whole_of_bodyAnswer hans)
  | unanswered _ hnone =>
    rw [hans] at hnone
    cases hnone
  | unopened hfail =>
    rw [hm, hf] at hfail
    simp at hfail
  | read resp' w₀ hans' hopen hread =>
    rw [hans] at hans'
    cases hans'
    obtain ⟨m, -, happ, -⟩ := hread.appended
    exact ⟨hread.overlong hlong (hopen.mounted.trans hm), m, happ.within,
      by rw [happ.content, hopen.content]⟩

/-- A body that ends short of the expected length, or breaks, pauses the transfer on a remote
failure, on a volume with room for the whole file: the record the transfer owns then counts
exactly the bytes the file holds, the offset a later resume starts from. -/
theorem short_body_pauses (n : Nat) (req : DownloadRequest) (w : World) (resp : Response)
    (hans : bodyAnswer w req = some resp) (hshort : EndsShort resp req.expectedLength)
    (hown : ∃ a, Counts n req.track a w.manager) (hd : w.volume.Distinct)
    (hm : w.volume.mounted = true) (hf : w.volume.failWrites = false)
    (hroom : req.expectedLength ≤ w.volume.free) :
    Holds (runFromStart n req).run (fun r w' =>
      (∃ f, r = .error f ∧ f.state = .pausedRemoteFailure) ∧
        Counts n req.track (resp.resumedFrom + resp.bodyBytes) w'.manager ∧
        w'.volume.fileLen req.destination = .ok (some (resp.resumedFrom + resp.bodyBytes))) w := by
  -- lengths do not depend on what the url serves, so any content will do
  let serve : String → List UInt8 := fun _ => []
  refine (runFromStart_fetched serve n req w).mono fun r w' hfe => ?_
  cases hfe with
  | whole hw => exact absurd hw (not_whole_of_bodyAnswer hans)
  | unanswered _ hnone =>
    rw [hans] at hnone
    cases hnone
  | unopened hfail =>
    rw [hm, hf] at hfail
    simp at hfail
  | read resp' w₀ hans' hopen hread =>
    rw [hans] at hans'
    cases hans'
    obtain ⟨hfree, hd₀⟩ := hopen.room hd
    have hfits := hshort.fits
    have hpaused := hread.short hshort (by omega) hd₀ (hopen.mounted.trans hm)
      (hopen.failWrites.trans hf)
    -- a run that paused remotely appended the whole body
    obtain ⟨m, -, happ, hall⟩ := hread.appended
    have hwhole : m = resp.bodyBytes := hall fun f' hf' => by
      obtain ⟨f, hr, hst⟩ := hpaused
      rw [hr] at hf'
      cases hf'
      exact hst
    subst hwhole
    have hkept : ((w.volume.contentAt serve req.destination).take resp.resumedFrom).length =
        resp.resumedFrom := by
      rw [List.length_take]
      by_cases ho : 0 < resp.resumedFrom
      · rw [length_contentAt_of_bodyAnswer serve hans ho, Nat.min_self]
      · omega
    refine ⟨hpaused, happ.counts (hopen.counts hown), ?_⟩
    rw [Volume.fileLen_eq_length_contentAt serve (happ.present hopen.present), happ.content,
      hopen.content, List.length_append, hkept, Piece.length_bytesIn]
    rfl

/-- What a transfer from its start leaves in its file. Finished, from a transport that serves
the url's content of the expected length, the file holds what it kept, then the rest of the
content: the whole content when the file held a prefix of it. A body longer than the file lacks
fails the transfer for good, with no byte written past the expected length. A body that ends
short pauses it on a remote failure, with the record counting the bytes the file holds. -/
theorem transfer_file_contract (n : Nat) (req : DownloadRequest) (w : World) :
    (w.transport.Serves req.url (serve req.url).length →
      (serve req.url).length = req.expectedLength →
      Holds (runFromStart n req).run (fun r w' => r = .ok (.ended (.ok ())) →
        w'.volume.contentAt serve req.destination =
            (w.volume.contentAt serve req.destination).take (keptOffset w req) ++
              (serve req.url).drop (keptOffset w req) ∧
          (w.volume.contentAt serve req.destination <+: serve req.url →
            w'.volume.contentAt serve req.destination = serve req.url)) w) ∧
    (∀ resp, bodyAnswer w req = some resp →
      req.expectedLength - resp.resumedFrom < resp.bodyBytes →
      w.volume.mounted = true → w.volume.failWrites = false →
      Holds (runFromStart n req).run (fun r w' => (∃ f, r = .error f ∧ f.state = .fileError) ∧
        ∃ m, (m = 0 ∨ resp.resumedFrom + m ≤ req.expectedLength) ∧
          w'.volume.contentAt serve req.destination =
            (w.volume.contentAt serve req.destination).take resp.resumedFrom ++
              (Piece.served req.url resp.resumedFrom m).bytesIn serve) w) ∧
    (∀ resp, bodyAnswer w req = some resp → EndsShort resp req.expectedLength →
      (∃ a, Counts n req.track a w.manager) → w.volume.Distinct →
      w.volume.mounted = true → w.volume.failWrites = false →
      req.expectedLength ≤ w.volume.free →
      Holds (runFromStart n req).run (fun r w' =>
        (∃ f, r = .error f ∧ f.state = .pausedRemoteFailure) ∧
          Counts n req.track (resp.resumedFrom + resp.bodyBytes) w'.manager ∧
          w'.volume.fileLen req.destination =
            .ok (some (resp.resumedFrom + resp.bodyBytes))) w) := by
  refine ⟨fun hserve hlen => ?_, overlong_body_fails serve n req w, short_body_pauses n req w⟩
  refine (finished_transfer_content serve n req w hserve hlen).mono fun r w' h hfin => ?_
  exact ⟨h hfin, fun hpre => finished_transfer_of_prefix serve w req w' hpre (h hfin)⟩

/-- The content every url serves in the runs below: four bytes. -/
def fourBytes : String → List UInt8 := fun _ => [1, 2, 3, 4]

/-- A request for the four bytes of `url`, resuming from byte 2. -/
def resumedRequest (url : String) : DownloadRequest :=
  { track := 1, url, destination := "/cache/1/c1.mp3", expectedLength := 4, resumeOffset := 2,
    key := ⟨1, "c1"⟩ }

/-- The record of a download of four bytes resumed from byte 2, connecting. -/
def connectingRecord : Download :=
  { track := 1, url := "a", destination := "/cache/1/c1.mp3", expectedLength := 4,
    bytesWritten := 0, resumeOffset := 2, state := .connecting, lastError := none }

/-- A volume holding the first two bytes, a transport that serves `a` whole, `b` six bytes long
and `c` broken after one byte, and the record of transfer 1 connecting. -/
def halfFetched : World :=
  { volume := { files := [("/cache/1/c1.mp3", .whole [1, 2])] },
    transport := { routes := [("a", .body 4), ("b", .body 6), ("c", .broken 1 4)] },
    manager :=
      { records := [(1, ⟨1, connectingRecord, resumedRequest "a"⟩)], active := some (1, 1),
        nextTransfer := 2 } }

/-- Resuming from the two bytes held, a finished transfer leaves the four bytes; a six-byte body
fails for good; a body broken after one byte pauses with a one-byte file. -/
theorem resumed_transfer_outcomes :
    Holds (runFromStart 1 (resumedRequest "a")).run (fun r w' => r = .ok (.ended (.ok ())) →
      w'.volume.contentAt fourBytes "/cache/1/c1.mp3" = [1, 2, 3, 4]) halfFetched ∧
    Holds (runFromStart 1 (resumedRequest "b")).run
      (fun r _ => ∃ f, r = .error f ∧ f.state = .fileError) halfFetched ∧
    Holds (runFromStart 1 (resumedRequest "c")).run (fun r w' =>
      (∃ f, r = .error f ∧ f.state = .pausedRemoteFailure) ∧
        w'.volume.fileLen "/cache/1/c1.mp3" = .ok (some 1)) halfFetched := by
  have hown : ∃ a, Counts 1 1 a halfFetched.manager := ⟨0, _, rfl, rfl, rfl, rfl⟩
  have hd : halfFetched.volume.Distinct := List.pairwise_singleton _ _
  refine ⟨?_, ?_, ?_⟩
  · have h := (transfer_file_contract fourBytes 1 (resumedRequest "a") halfFetched).1
      (Transport.serves_of_route_body rfl) rfl
    exact h.mono fun _ _ h hfin => (h hfin).2 ⟨[3, 4], by decide +kernel⟩
  · have h := (transfer_file_contract fourBytes 1 (resumedRequest "b") halfFetched).2.1
      ⟨4, .complete, some 6, 2⟩ (by decide +kernel) (by decide) rfl rfl
    exact h.mono fun _ _ h => h.1
  · have h := (transfer_file_contract fourBytes 1 (resumedRequest "c") halfFetched).2.2
      ⟨1, .broken, some 4, 0⟩ (by decide +kernel) (Or.inr ⟨rfl, by decide⟩) hown hd rfl
      rfl (by decide +kernel)
    exact h.mono fun _ _ h => ⟨h.1, h.2.2⟩

end PlaybackEngine.Downloads
