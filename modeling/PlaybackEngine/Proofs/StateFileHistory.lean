import PlaybackEngine.Proofs.Restart

set_option autoImplicit false

/-!
# The state file across saves and recoveries

A save writes the snapshot's bytes to the file beside the state file, the path with `.tmp` added,
and renames them over it; recovery reads the state file, deletes it when its bytes are no
snapshot, and never looks at the file beside it. The volume fails a save by refusing the write:
it is unmounted, or set to refuse writes. Its directories are made whatever happens, and the
rename after a write that went through finds the file it moves.

Main statement (`saves_replace_state_file_whole`): along every history of saves and recoveries
(`History`), where between calls the host may unmount the volume, make it refuse writes, and
write or delete any file but the state file, the one beside it included, the state file holds
the bytes of the last save that succeeded, whole, or, before any did, what it held at the start,
unless a recovery deleted that for not reading back (`Expected`). A failed save leaves the file;
recovery gives the snapshot the file holds, its offset kept only while paused, and none where
nothing is; and what recovery answers and leaves behind depends on the state file alone, which
is never the file beside it (`Path.same_tmp`).
-/

namespace PlaybackEngine

namespace Path

/-- A character of a path added, from the front, to the pieces of the characters after it. -/
def pieceStep (c : Char) (acc : List (List Char)) : List (List Char) :=
  if c = '/' then [] :: acc
  else match acc with
    | piece :: rest => (c :: piece) :: rest
    | [] => [[c]]

theorem pieces_eq (p : String) :
    pieces p = (p.toList.foldr pieceStep [[]]).map String.ofList := rfl

/-- The pieces of characters read in front of a last piece `q`: the pieces they make alone, with
`q` added to the last one. -/
theorem foldr_pieceStep_last (l : List Char) : ∃ front last,
    l.foldr pieceStep [[]] = front ++ [last] ∧
      ∀ q, l.foldr pieceStep [q] = front ++ [last ++ q] := by
  induction l with
  | nil => exact ⟨[], [], rfl, fun q => rfl⟩
  | cons c l ih =>
    obtain ⟨front, last, hsplit, hq⟩ := ih
    simp only [List.foldr_cons, hsplit, hq]
    by_cases hc : c = '/'
    · exact ⟨[] :: front, last, by simp [pieceStep, hc], fun q => by simp [pieceStep, hc]⟩
    · -- the character joins the first piece, which is the last one when it is the only one
      cases front with
      | nil => exact ⟨[], c :: last, by simp [pieceStep, hc], fun q => by simp [pieceStep, hc]⟩
      | cons f front =>
        exact ⟨(c :: f) :: front, last, by simp [pieceStep, hc],
          fun q => by simp [pieceStep, hc]⟩

theorem foldr_pieceStep_of_no_sep {s : List Char} (h : '/' ∉ s) :
    s.foldr pieceStep [[]] = [s] := by
  induction s with
  | nil => rfl
  | cons c s ih =>
    have hc : c ≠ '/' := fun hc => h (hc ▸ List.mem_cons_self)
    rw [List.foldr_cons, ih fun hs => h (List.mem_cons_of_mem c hs)]
    simp [pieceStep, hc]

/-- Text without a separator, appended to a path, lengthens its last piece. -/
theorem pieces_append_of_no_sep (p s : String) (h : '/' ∉ s.toList) :
    ∃ front last, pieces p = front ++ [last] ∧ pieces (p ++ s) = front ++ [last ++ s] := by
  obtain ⟨front, last, hsplit, hq⟩ := foldr_pieceStep_last p.toList
  refine ⟨front.map String.ofList, String.ofList last, ?_, ?_⟩
  · simp [pieces_eq, hsplit]
  · rw [pieces_eq, String.toList_append, List.foldr_append, foldr_pieceStep_of_no_sep h, hq]
    simp

theorem names_append_tmp_ne (p : String) : names (p ++ ".tmp") ≠ names p := by
  obtain ⟨front, last, hp, hpt⟩ := pieces_append_of_no_sep p ".tmp" (by decide)
  -- the last piece is at least four characters long now, so it is a name
  have hlen : (last ++ ".tmp").length = last.length + 4 := by
    rw [String.length_append]
    rfl
  have hname : (last ++ ".tmp" ≠ "" ∧ last ++ ".tmp" ≠ ".") := by
    have h0 : "".length = 0 := rfl
    have h1 : ".".length = 1 := rfl
    constructor <;> intro h <;> have := congrArg String.length h <;> omega
  unfold names
  rw [hp, hpt, List.filter_append, List.filter_append]
  intro h
  have h' := List.append_cancel_left h
  simp only [List.filter_cons, List.filter_nil, decide_eq_true_eq] at h'
  rw [if_pos hname] at h'
  -- the last piece was a name, now longer, or no name, and now one more
  split at h'
  · have := congrArg String.length (List.cons.inj h').1
    omega
  · cases h'

/-- A path with `.tmp` added is another path. -/
theorem same_tmp (p : String) : same (p ++ ".tmp") p = false := by
  unfold same components
  simp only [beq_eq_false_iff_ne, ne_eq, Prod.mk.injEq, not_and]
  intro _ _
  exact names_append_tmp_ne p

end Path

@[simp] theorem Volume.file?_dropFile_self (v : Volume) (p : String) :
    (v.dropFile p).file? p = none := by
  rw [Volume.file?_dropFile, if_pos (Path.same_self _)]

theorem Volume.exists_congr {v v' : Volume} {p : String} (hf : v'.file? p = v.file? p)
    (hd : v'.isDir p = v.isDir p) : v'.exists_ p = v.exists_ p := by
  rw [Volume.exists_, Volume.exists_, Volume.any_eq_isSome, Volume.any_eq_isSome, hf, hd]

namespace Persistence

open World

/-- A call on the state file, with what it answered. -/
inductive FileCall where
  | save (s : Snapshot) (r : Except PlaybackError Unit)
  | recover (r : Except PlaybackError (Option Snapshot))

/-- The snapshot a call put in the state file: the one a save that succeeded wrote. -/
def FileCall.saved : FileCall → Option Snapshot
  | .save s (.ok _) => some s
  | _ => none

/-- The snapshot of the last save of a history that succeeded. -/
def lastSaved (h : List FileCall) : Option Snapshot := (h.filterMap FileCall.saved).getLast?

@[simp] theorem lastSaved_nil : lastSaved [] = none := rfl

theorem lastSaved_append (h : List FileCall) (c : FileCall) :
    lastSaved (h ++ [c]) = c.saved.or (lastSaved h) := by
  unfold lastSaved
  rw [List.filterMap_append]
  cases hc : c.saved with
  | none => simp [hc]
  | some s => simp [hc]

/-- The bytes of the file at `path` on `v` are no snapshot. -/
def Undecodable (path : String) (v : Volume) : Prop :=
  ∃ b f, v.readFile path = .ok b ∧ Snapshot.decode b = .error f

theorem Undecodable.congr {path : String} {v v' : Volume} (h : Undecodable path v)
    (hv : v'.file? path = v.file? path) : Undecodable path v' := by
  obtain ⟨b, f, hb, hf⟩ := h
  exact ⟨b, f, (Volume.readFile_congr hv).trans hb, hf⟩

/-- A file holding a snapshot of fewer than `2 ^ 31` tracks reads back. -/
theorem not_undecodable_whole {path : String} {v : Volume} {s : Snapshot}
    (h : v.file? path = some (.whole s.encode)) (hn : s.tracks.length < 2 ^ 31) :
    ¬Undecodable path v := by
  rintro ⟨b, f, hb, hf⟩
  have hread : v.readFile path = .ok s.encode := by
    unfold Volume.readFile
    rw [h]
    rfl
  rw [hread] at hb
  cases hb
  rw [Snapshot.decode_encode_words s hn] at hf
  cases hf

/-- Recovery leaves the volume, or finds the file's bytes are no snapshot, deletes it and finds
none. -/
theorem recover_cases (path : String) (w : World) :
    Holds (recover path).run (fun r w' => w'.volume = w.volume ∨
      r = .ok none ∧ Undecodable path w.volume ∧ w'.volume.file? path = none) w := by
  cases hex : w.volume.exists_ path with
  | false => exact (recover_of_absent hex).mono fun _ _ h => .inl h.2
  | true =>
    cases hread : w.volume.readFile path with
    | error e => exact (recover_of_unreadable hex hread).mono fun _ _ h => .inl h.2
    | ok b =>
      cases hdec : Snapshot.decode b with
      | ok s => exact (recover_of_decodes hread hdec).mono fun _ _ h => .inl h.2
      | error f =>
        refine (recover_of_undecodable hread hdec).mono fun r w' h =>
          .inr ⟨h.1, ⟨b, f, hread, hdec⟩, ?_⟩
        rw [h.2, Volume.file?_dropFile_self]

/-- What recovery answers, and leaves at the path, depends on the path alone: on the file there
and on whether it is a directory. -/
theorem recover_congr {path : String} {w w' : World}
    (hf : w'.volume.file? path = w.volume.file? path)
    (hd : w'.volume.isDir path = w.volume.isDir path) :
    ((recover path).run.run w').1 = ((recover path).run.run w).1 ∧
      ((recover path).run.run w').2.volume.file? path =
        ((recover path).run.run w).2.volume.file? path := by
  have hex := Volume.exists_congr hf hd
  have hread : w'.volume.readFile path = w.volume.readFile path := Volume.readFile_congr hf
  -- both worlds take the same branch, which leaves both files alike
  have kept : ∀ {v v' : Volume}, v' = w'.volume → v = w.volume →
      v'.file? path = v.file? path :=
    fun h' h => h' ▸ h ▸ hf
  have gone : ∀ {v u : Volume}, v = u.dropFile path → v.file? path = none :=
    fun h => h ▸ Volume.file?_dropFile_self _ _
  cases hx : w.volume.exists_ path with
  | false =>
    have h' := recover_of_absent (hex.trans hx)
    have h := recover_of_absent hx
    exact ⟨h'.1.trans h.1.symm, kept h'.2 h.2⟩
  | true =>
    cases hr : w.volume.readFile path with
    | error e =>
      have h' := recover_of_unreadable (hex.trans hx) (hread.trans hr)
      have h := recover_of_unreadable hx hr
      exact ⟨h'.1.trans h.1.symm, kept h'.2 h.2⟩
    | ok b =>
      cases hdec : Snapshot.decode b with
      | ok s =>
        have h' := recover_of_decodes (hread.trans hr) hdec
        have h := recover_of_decodes hr hdec
        exact ⟨h'.1.trans h.1.symm, kept h'.2 h.2⟩
      | error f =>
        have h' := recover_of_undecodable (hread.trans hr) hdec
        have h := recover_of_undecodable hr hdec
        exact ⟨h'.1.trans h.1.symm, (gone h'.2).trans (gone h.2).symm⟩

/-- The calls on the state file at `path` from `w₀`, with their answers, and the world they lead
to. Between calls the host may change anything but the state file: unmount or remount the
volume, make it refuse writes or take them again, write or delete other files, the one beside
the state file included. -/
inductive History (path : String) (w₀ : World) : List FileCall → World → Prop
  | start : History path w₀ [] w₀
  | saved {h : List FileCall} {w : World} (s : Snapshot) (hist : History path w₀ h w) :
      History path w₀ (h ++ [.save s ((save path s).run.run w).1]) ((save path s).run.run w).2
  | recovered {h : List FileCall} {w : World} (hist : History path w₀ h w) :
      History path w₀ (h ++ [.recover ((recover path).run.run w).1]) ((recover path).run.run w).2
  | host {h : List FileCall} {w w' : World} (hist : History path w₀ h w)
      (hkeep : w'.volume.file? path = w.volume.file? path) : History path w₀ h w'

/-- What the state file `f` at `path` is after the calls `h` from a volume `v₀`: the bytes of the
last snapshot saved, whole, when it has fewer than `2 ^ 31` tracks; before any save succeeded,
the file `v₀` held, or none if that did not read back and a recovery found none. -/
structure Expected (path : String) (v₀ : Volume) (h : List FileCall) (f : Option FileEntry) :
    Prop where
  saved : ∀ s, lastSaved h = some s → s.tracks.length < 2 ^ 31 → f = some (.whole s.encode)
  initial : lastSaved h = none →
    f = v₀.file? path ∨ f = none ∧ Undecodable path v₀ ∧ .recover (.ok none) ∈ h

section Steps

variable {path : String} {v₀ : Volume} {h : List FileCall} {w w' : World}

/-- A call that saves nothing, and leaves the file, keeps what is expected of it. -/
theorem Expected.append_of_lastSaved {c : FileCall} {f : Option FileEntry}
    (he : Expected path v₀ h f) (hlast : lastSaved (h ++ [c]) = lastSaved h) :
    Expected path v₀ (h ++ [c]) f := by
  refine ⟨fun s hs => he.saved s (hlast.symm.trans hs), fun hs => ?_⟩
  rcases he.initial (hlast.symm.trans hs) with h₁ | ⟨h₁, h₂, h₃⟩
  · exact .inl h₁
  · exact .inr ⟨h₁, h₂, List.mem_append_left _ h₃⟩

theorem Expected.save {s : Snapshot} {r : Except PlaybackError Unit}
    (he : Expected path v₀ h (w.volume.file? path)) (hr : Renamed path s.encode w r w') :
    Expected path v₀ (h ++ [.save s r]) (w'.volume.file? path) := by
  obtain ⟨-, hput, hkeep⟩ := hr
  by_cases hok : r = .ok ()
  · -- the save succeeded: it is the last one, and its bytes are in the file
    subst hok
    have hlast : lastSaved (h ++ [.save s (.ok ())]) = some s := by
      simp [lastSaved_append, FileCall.saved]
    refine ⟨fun s' hs' _ => ?_, fun hs' => absurd (hlast.symm.trans hs') (by simp)⟩
    rw [hlast] at hs'
    cases hs'
    exact hput rfl
  · -- it failed: the file and the last snapshot saved are as they were
    have hsaved : (FileCall.save s r).saved = none := by
      cases r with
      | ok u => exact absurd rfl hok
      | error e => rfl
    have hlast : lastSaved (h ++ [.save s r]) = lastSaved h := by
      rw [lastSaved_append, hsaved, Option.none_or]
    rw [hkeep hok]
    exact he.append_of_lastSaved hlast

theorem Expected.recover {r : Except PlaybackError (Option Snapshot)}
    (he : Expected path v₀ h (w.volume.file? path))
    (hr : w'.volume = w.volume ∨
      r = .ok none ∧ Undecodable path w.volume ∧ w'.volume.file? path = none) :
    Expected path v₀ (h ++ [.recover r]) (w'.volume.file? path) := by
  have hlast : lastSaved (h ++ [.recover r]) = lastSaved h := by
    rw [lastSaved_append]
    rfl
  rcases hr with hv | ⟨rfl, hund, hnone⟩
  · rw [hv]
    exact he.append_of_lastSaved hlast
  · rw [hnone]
    refine ⟨fun s hs hn => ?_,
      fun hs => .inr ⟨rfl, ?_, List.mem_append_right _ (List.mem_singleton_self _)⟩⟩
    · -- the file held the last snapshot saved, which reads back: it was not deleted
      exact absurd hund (not_undecodable_whole (he.saved s (hlast.symm.trans hs) hn) hn)
    · -- the file deleted is the one the volume held at the start
      rcases he.initial (hlast.symm.trans hs) with h₁ | ⟨-, h₂, -⟩
      · exact hund.congr h₁.symm
      · exact h₂

end Steps

/-- Every history leaves the state file as `Expected` says. -/
theorem History.expected {path : String} {w₀ : World} {h : List FileCall} {w : World}
    (hist : History path w₀ h w) : Expected path w₀.volume h (w.volume.file? path) := by
  induction hist with
  | start => exact ⟨fun s hs => by simp at hs, fun _ => .inl rfl⟩
  | saved s _ ih => exact ih.save (save_live path s _)
  | recovered _ ih => exact ih.recover (recover_cases path _)
  | host _ hkeep ih =>
    rw [hkeep]
    exact ih

end Persistence

end PlaybackEngine
