/-!
# The play queue

A play queue is an ordered list of track ids, duplicates allowed, with a selected position:
`-1` when nothing is selected, otherwise an index into the list. The queue knows nothing of
playback. Arguments out of range are refused (`none`), so that callers can treat them as
no-ops.

Edits keep the selection where it belongs: inserting at or before the selected position moves
the selection one place on, so it stays on the same song; moving a song carries the selection
with it, or shifts it by one when the song passes over it. Removing a song leaves the selected
index where it is (so it falls to the next song) unless it now lies past the end.
-/

set_option autoImplicit false

namespace PlaybackEngine

/-- A track's id in the host's catalog. -/
abbrev TrackId := Int

/-- Ordered track ids and the selected position (`-1` for none). -/
structure PlayQueue where
  tracks : List TrackId
  position : Int
  deriving DecidableEq, Repr, Inhabited

namespace PlayQueue

/-- The empty queue, nothing selected. -/
def empty : PlayQueue := ⟨[], -1⟩

/-- The number of songs. -/
def length (q : PlayQueue) : Nat := q.tracks.length

/-- Whether `p` indexes a song of the queue. -/
def inBounds (q : PlayQueue) (p : Int) : Bool := 0 ≤ p && p < q.length

/-- A queue from its songs and a position; a position that indexes no song selects
nothing. -/
def ofParts (tracks : List TrackId) (p : Int) : PlayQueue :=
  ⟨tracks, if 0 ≤ p && p < tracks.length then p else -1⟩

/-- The song at a position. -/
def songAt (q : PlayQueue) (p : Int) : Option TrackId :=
  if q.inBounds p then q.tracks[p.toNat]? else none

/-- The selected song. -/
def current (q : PlayQueue) : Option TrackId := q.songAt q.position

/-- The last position of a song, or `-1`. -/
def positionOf (q : PlayQueue) (t : TrackId) : Int :=
  (q.tracks.zipIdx.foldl (fun acc (x, i) => if x == t then (i : Int) else acc) (-1))

/-- The position after the selected one, or `-1` past the end; with nothing selected, the
first song is next. -/
def peekNext (q : PlayQueue) : Int :=
  if q.inBounds (q.position + 1) then q.position + 1 else -1

/-- Selects a position, or selects nothing with `-1`. -/
def setPosition (q : PlayQueue) (p : Int) : Option PlayQueue :=
  if p = -1 || q.inBounds p then some { q with position := p } else none

/-- Inserts a song before position `p` (`p` may be the length, to append). -/
def insert (q : PlayQueue) (t : TrackId) (p : Int) : Option PlayQueue :=
  if p < 0 || q.length < p then none
  else
    some ⟨q.tracks.insertIdx p.toNat t,
      if 0 ≤ q.position && p ≤ q.position then q.position + 1 else q.position⟩

/-- Removes the song at `p`, giving it and the queue left. -/
def remove (q : PlayQueue) (p : Int) : Option (TrackId × PlayQueue) :=
  match q.songAt p with
  | none => none
  | some t =>
    let rest := q.tracks.eraseIdx p.toNat
    let last : Int := (rest.length : Int) - 1
    some (t, ⟨rest, if q.position > last then last else q.position⟩)

/-- Where the selection goes when the song at `src` moves to `dst`. -/
def movedPosition (pos src dst : Int) : Int :=
  if pos = src then dst
  else if src < pos && pos ≤ dst then pos - 1
  else if pos < src && dst ≤ pos then pos + 1
  else pos

/-- Moves the song at `src` so that it stands at `dst`. -/
def move (q : PlayQueue) (src dst : Int) : Option PlayQueue :=
  if !(q.inBounds src && q.inBounds dst) then none
  else if src = dst then some q
  else
    match q.tracks[src.toNat]? with
    | none => none
    | some t =>
      some ⟨(q.tracks.eraseIdx src.toNat).insertIdx dst.toNat t,
        movedPosition q.position src dst⟩

/-- The queue emptied, nothing selected. -/
def clear (_ : PlayQueue) : PlayQueue := empty

@[simp] theorem ofParts_tracks (tracks : List TrackId) (p : Int) :
    (ofParts tracks p).tracks = tracks := rfl

@[simp] theorem clear_tracks (q : PlayQueue) : q.clear.tracks = [] := rfl

@[simp] theorem clear_position (q : PlayQueue) : q.clear.position = -1 := rfl

end PlayQueue

end PlaybackEngine
