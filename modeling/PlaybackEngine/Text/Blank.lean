/-!
# Blank characters

The characters with the Unicode property White_Space: the ASCII controls tab to carriage
return, space, next line, no-break space, Ogham space mark, the spaces en quad to hair space,
the line and paragraph separators, narrow no-break space, medium mathematical space and
ideographic space. Trimming text removes these from both ends.
-/

set_option autoImplicit false

namespace PlaybackEngine.Text

/-- Whether a character has the Unicode property White_Space. -/
def isBlank (c : Char) : Bool :=
  let n := c.toNat
  (0x09 ≤ n && n ≤ 0x0D) || n == 0x20 || n == 0x85 || n == 0xA0 || n == 0x1680
    || (0x2000 ≤ n && n ≤ 0x200A) || n == 0x2028 || n == 0x2029 || n == 0x202F
    || n == 0x205F || n == 0x3000

/-- Text without blanks at either end. -/
def trimBlank (s : String) : String :=
  String.ofList ((s.toList.dropWhile isBlank).reverse.dropWhile isBlank).reverse

/-- Text without blanks at its start. -/
def trimBlankStart (s : String) : String :=
  String.ofList (s.toList.dropWhile isBlank)

/-- Text without blanks at its end. -/
def trimBlankEnd (s : String) : String :=
  String.ofList (s.toList.reverse.dropWhile isBlank).reverse

/-- Every character that core counts as white space is blank. -/
theorem isBlank_of_isWhitespace (c : Char) (h : c.isWhitespace = true) : isBlank c = true := by
  simp only [Char.isWhitespace, Bool.or_eq_true, decide_eq_true_eq] at h
  rcases h with ((h | h) | h) | h <;> subst h <;> decide

/-- Letters A to Z as a to z; every other character as itself. -/
def lowerAscii (s : String) : String :=
  String.ofList (s.toList.map fun c => if 'A' ≤ c ∧ c ≤ 'Z' then Char.ofNat (c.toNat + 32) else c)

end PlaybackEngine.Text
