import PlaybackEngine.Json.Parse

/-!
# UUID text

A UUID is 128 bits, written as 32 hexadecimal digits of either case: plain, hyphenated in
groups of 8-4-4-4-12, hyphenated inside braces, or hyphenated after `urn:uuid:` (in either
case). The shape is told by the length alone, and any other length is refused. The canonical
form is hyphenated and lower case.
-/

set_option autoImplicit false

namespace PlaybackEngine.Text

/-- The digits of a hyphenated UUID, if the hyphens stand where they must and everything else
is a hexadecimal digit. -/
def hyphenatedDigits (cs : List Char) : Option (List Nat) :=
  let indexed := cs.zipIdx
  if cs.length ≠ 36 then none
  else
    indexed.foldr (fun (c, i) acc => do
      let rest ← acc
      if i = 8 ∨ i = 13 ∨ i = 18 ∨ i = 23 then
        if c = '-' then pure rest else none
      else
        let d ← Json.hexDigit? c
        pure (d :: rest)) (some [])

/-- The 32 digits of a UUID in any accepted form. -/
def uuidDigits (s : String) : Option (List Nat) :=
  let cs := s.toList
  match cs.length with
  | 32 => cs.mapM Json.hexDigit?
  | 36 => hyphenatedDigits cs
  | 38 =>
    if cs.head? = some '{' ∧ cs.getLast? = some '}' then hyphenatedDigits ((cs.drop 1).dropLast)
    else none
  | 45 =>
    if (cs.take 9).map Char.toLower = "urn:uuid:".toList then hyphenatedDigits (cs.drop 9) else none
  | _ => none

/-- The canonical form of 32 digits: lower case, hyphenated 8-4-4-4-12. -/
def uuidText (digits : List Nat) : String :=
  let hex := fun (ds : List Nat) => String.ofList (ds.map fun d => Nat.digitChar d)
  hex (digits.take 8) ++ "-" ++ hex ((digits.drop 8).take 4) ++ "-" ++
    hex ((digits.drop 12).take 4) ++ "-" ++ hex ((digits.drop 16).take 4) ++ "-" ++ hex (digits.drop 20)

end PlaybackEngine.Text
