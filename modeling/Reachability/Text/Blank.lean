/-!
# Blank characters

The characters with the Unicode property White_Space. Trimming a text removes them from
both ends. Core's `Char.isWhitespace` knows only six of them, so texts that may carry
non-ASCII blanks are trimmed with `isBlank`.
-/

namespace Reachability.Text

/-- The 25 characters with the Unicode property White_Space. -/
def isBlank (c : Char) : Bool :=
  let n := c.toNat
  (0x09 ≤ n && n ≤ 0x0D) || n == 0x20 || n == 0x85 || n == 0xA0 || n == 0x1680 ||
    (0x2000 ≤ n && n ≤ 0x200A) || n == 0x2028 || n == 0x2029 || n == 0x202F ||
    n == 0x205F || n == 0x3000

/-- Every blank of core's class is a blank here. -/
theorem isBlank_of_isWhitespace (c : Char) (h : c.isWhitespace = true) : isBlank c = true := by
  simp only [Char.isWhitespace, Bool.or_eq_true, decide_eq_true_eq] at h
  simp only [isBlank, Bool.or_eq_true, Bool.and_eq_true, decide_eq_true_eq, beq_iff_eq]
  rcases h with ((h | h) | h) | h <;> simp [h]

/-- The text without blanks at its start. -/
def dropBlanks (cs : List Char) : List Char := cs.dropWhile isBlank

/-- The text without blanks at either end. -/
def trimBlanks (s : String) : String :=
  String.ofList (dropBlanks (dropBlanks s.toList).reverse).reverse

example : trimBlanks " 　a b\t" = "a b" := by decide

/-- The text without blanks at its end. -/
def trimEndBlanks (s : String) : String :=
  String.ofList (dropBlanks s.toList.reverse).reverse

end Reachability.Text
