/-!
# White space

A name made of white space alone is no name: every check of this library that
asks whether a text is blank, and every reader that strips a text, means the
Unicode property `White_Space`. It is larger than the four characters core
recognises (`Text.isBlankChar_of_isWhitespace`).
-/

namespace PipelineCanvas.Text

/-- The characters with the Unicode property `White_Space`. -/
def isBlankChar (c : Char) : Bool :=
  let n := c.toNat
  (9 ≤ n && n ≤ 13) || n == 0x20 || n == 0x85 || n == 0xA0 || n == 0x1680
    || (0x2000 ≤ n && n ≤ 0x200A) || n == 0x2028 || n == 0x2029 || n == 0x202F
    || n == 0x205F || n == 0x3000

theorem isBlankChar_of_isWhitespace {c : Char} (h : c.isWhitespace = true) :
    isBlankChar c = true := by
  simp only [Char.isWhitespace, Bool.or_eq_true, decide_eq_true_eq] at h
  rcases h with ((rfl | rfl) | rfl) | rfl <;> decide

example : isBlankChar '\u3000' = true ∧ isBlankChar '\u200b' = false := by decide

/-- A text is blank when white space is all it holds, or it is empty. -/
def isBlank (s : String) : Bool := s.toList.all isBlankChar

/-- A list of characters without the white space at its front. -/
def dropBlank (cs : List Char) : List Char := cs.dropWhile isBlankChar

/-- A list of characters without the white space around it. -/
def trimChars (cs : List Char) : List Char := (dropBlank (dropBlank cs).reverse).reverse

/-- The text before a given ending, if the text ends so. -/
def dropEnding? (ending cs : List Char) : Option (List Char) :=
  if ending.isSuffixOf cs then some (cs.take (cs.length - ending.length)) else none

end PipelineCanvas.Text
