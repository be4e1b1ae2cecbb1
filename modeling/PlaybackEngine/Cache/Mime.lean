import PlaybackEngine.Text.Blank

/-!
# File extensions of audio media types

The cache names a song's file by its media type. Only the type's essence counts: the text
before the first `;`, without surrounding blanks and with ASCII letters in lower case. A type
outside the table has no extension, and a song of that type cannot be cached.
-/

set_option autoImplicit false

namespace PlaybackEngine.Cache

/-- The essence of a media type: before the first `;`, trimmed, in ASCII lower case. -/
def mimeEssence (mime : String) : String :=
  Text.lowerAscii (Text.trimBlank (String.ofList (mime.toList.takeWhile (· ≠ ';'))))

/-- The extension of each known essence. -/
def extensionTable : List (String × String) :=
  [("audio/mpeg", ".mp3"), ("audio/mp3", ".mp3"), ("audio/mp4", ".m4a"), ("audio/x-m4a", ".m4a"),
   ("audio/aac", ".aac"), ("audio/ogg", ".ogg"), ("application/ogg", ".ogg"),
   ("audio/flac", ".flac"), ("audio/x-flac", ".flac"), ("audio/wav", ".wav"),
   ("audio/x-wav", ".wav"), ("audio/x-ms-wma", ".wma"), ("audio/opus", ".opus")]

/-- The file extension of a media type, with its dot. -/
def extensionFor (mime : String) : Option String :=
  (extensionTable.find? (·.1 == mimeEssence mime)).map (·.2)

end PlaybackEngine.Cache
