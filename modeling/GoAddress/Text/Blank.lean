import GoAddress.Text.Ranges

/-!
# White space and control characters

`isBlank` is the Unicode property `White_Space`; `isControl` is the general category Cc.
-/

namespace GoAddress.Text

/-- The ranges of white space. -/
def blankRanges : List CodeRange := [
  (0x9, 0xD), (0x20, 0x20),
  (0x85, 0x85), (0xA0, 0xA0), (0x1680, 0x1680), (0x2000, 0x200A), (0x2028, 0x2029),
  (0x202F, 0x202F), (0x205F, 0x205F), (0x3000, 0x3000)]

/-- White space: tabs, line and page breaks, and the blanks of every script. -/
def isBlank (c : Char) : Bool :=
  inRanges blankRanges c

/-- The characters of core's white space class are blank. -/
theorem isBlank_of_isWhitespace {c : Char} (h : c.isWhitespace = true) : isBlank c = true := by
  simp only [Char.isWhitespace, Bool.or_eq_true, decide_eq_true_eq] at h
  rcases h with ((rfl | rfl) | rfl) | rfl <;> decide

/-- Control characters: C0, delete and C1. -/
def isControl (c : Char) : Bool :=
  c.toNat < 0x20 || (0x7F ≤ c.toNat && c.toNat < 0xA0)

end GoAddress.Text
