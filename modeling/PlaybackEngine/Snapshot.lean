import PlaybackEngine.Queue

/-!
# Saved playback state

A snapshot is what the player writes to its state file: the queue, the selected position,
whether output was on and whether it was paused, and where a paused song stood. Its bytes are
big-endian words: a format version (`1`), the position, one byte each for playing and paused,
the paused offset in milliseconds (written as `0` unless paused), the number of tracks, and
then each track id as eight bytes. The header is 18 bytes long.

Reading checks, in this order, that the version is there, that it is `1`, that the rest of the
header is there, and that exactly the announced number of track ids follows; the first check
that fails names the fault.
-/

set_option autoImplicit false

namespace PlaybackEngine

-- Powers by core's `Nat.pow` and `Int.pow`, also where an algebra library is loaded, so that
-- each definition means the same wherever it is built.
attribute [local instance (high)] instPowNat

/-- The two's-complement value of the low `bits` bits of `n`. -/
def signedOfBits (bits : Nat) (n : Nat) : Int :=
  let m := n % 2 ^ bits
  if m < 2 ^ (bits - 1) then m else (m : Int) - 2 ^ bits

/-- The `width` bytes of an integer's two's-complement form, most significant first. -/
def bigEndian (width : Nat) (v : Int) : List UInt8 :=
  let n := (v % (2 ^ (8 * width) : Int)).toNat
  (List.range width).reverse.map fun k => ((n / 2 ^ (8 * k)) % 256).toUInt8

/-- The unsigned value of bytes, most significant first. -/
def bigEndianValue (bytes : List UInt8) : Nat :=
  bytes.foldl (fun acc b => acc * 256 + b.toNat) 0

/-- A signed word read from bytes, most significant first. -/
def readSigned (bytes : List UInt8) : Int :=
  signedOfBits (8 * bytes.length) (bigEndianValue bytes)

/-- What the player saves between runs. -/
structure Snapshot where
  tracks : List TrackId
  position : Int
  playing : Bool
  paused : Bool
  pausedOffsetMs : Int
  deriving DecidableEq, Repr, Inhabited

/-- Why bytes are not a saved state. -/
inductive SnapshotFault where
  | missingHeader
  | unsupportedVersion (version : Int)
  | truncatedHeader
  | trackCountMismatch (count : Int) (bytes : Nat)
  deriving DecidableEq, Repr

/-- The wording of each fault. -/
def SnapshotFault.message : SnapshotFault → String
  | .missingHeader => "missing header"
  | .unsupportedVersion v => s!"unsupported format version {v}"
  | .truncatedHeader => "truncated header"
  | .trackCountMismatch c b => s!"expected {c} track ids, found {b} bytes"

namespace Snapshot

/-- The only format version written and read. -/
def formatVersion : Int := 1

/-- Bytes before the first track id. -/
def headerLength : Nat := 18

/-- The byte of a flag. -/
def flagByte (b : Bool) : UInt8 := if b then 1 else 0

/-- The bytes of a snapshot. -/
def encode (s : Snapshot) : List UInt8 :=
  bigEndian 4 formatVersion ++ bigEndian 4 s.position ++ [flagByte s.playing, flagByte s.paused]
    ++ bigEndian 4 (if s.paused then s.pausedOffsetMs else 0)
    ++ bigEndian 4 s.tracks.length ++ (s.tracks.map (bigEndian 8)).flatten

/-- Track ids from bytes, eight at a time. -/
def readTracks : List UInt8 → List TrackId
  | a :: b :: c :: d :: e :: f :: g :: h :: rest => readSigned [a, b, c, d, e, f, g, h] :: readTracks rest
  | _ => []

/-- A snapshot from its bytes, or the first fault found. -/
def decode (bytes : List UInt8) : Except SnapshotFault Snapshot :=
  if bytes.length < 4 then .error .missingHeader
  else
    let version := readSigned (bytes.take 4)
    if version ≠ formatVersion then .error (.unsupportedVersion version)
    else
      let rest := bytes.drop 4
      if rest.length < 14 then .error .truncatedHeader
      else
        let position := readSigned (rest.take 4)
        let playing := rest[4]? != some 0
        let paused := rest[5]? != some 0
        let offset := readSigned ((rest.drop 6).take 4)
        let count := readSigned ((rest.drop 10).take 4)
        let body := rest.drop 14
        if count < 0 || (body.length : Int) ≠ count * 8 then
          .error (.trackCountMismatch count body.length)
        else .ok { tracks := readTracks body, position, playing, paused, pausedOffsetMs := offset }

end Snapshot

end PlaybackEngine
