/-!
# Blank characters

The characters with the White_Space property, and the trimming of a text at
both ends.  Identifiers, address literals and protocol names are trimmed before
they are read, so the exact set decides which texts are accepted.
-/

namespace LogicalNet
namespace Text

/-- The White_Space property. -/
def isBlank (c : Char) : Bool :=
  let n := c.toNat
  (9 ≤ n && n ≤ 13) || n == 0x20 || n == 0x85 || n == 0xA0 || n == 0x1680 ||
    (0x2000 ≤ n && n ≤ 0x200A) || n == 0x2028 || n == 0x2029 || n == 0x202F ||
    n == 0x205F || n == 0x3000

def trimLeft (s : List Char) : List Char :=
  s.dropWhile isBlank

def trimRight (s : List Char) : List Char :=
  (s.reverse.dropWhile isBlank).reverse

def trimChars (s : List Char) : List Char :=
  trimRight (trimLeft s)

/-- The text without the blanks at its two ends. -/
def trim (s : String) : String :=
  String.ofList (trimChars s.toList)

/-- Nothing but blanks. -/
def isBlankText (s : String) : Bool :=
  s.toList.all isBlank

theorem isBlank_of_isWhitespace (c : Char) (h : c.isWhitespace = true) :
    isBlank c = true := by
  simp only [Char.isWhitespace, Bool.or_eq_true, decide_eq_true_eq] at h
  rcases h with ((h | h) | h) | h <;> subst h <;> decide

theorem dropWhile_eq_nil_iff_all (p : Char → Bool) (s : List Char) :
    s.dropWhile p = [] ↔ s.all p = true := by
  induction s with
  | nil =>
      simp
  | cons c rest ih =>
      by_cases h : p c = true
      · simp [h, ih]
      · simp [h]

/-- A text trims to nothing exactly when it is blank throughout. -/
theorem trimChars_eq_nil_iff (s : List Char) :
    trimChars s = [] ↔ s.all isBlank = true := by
  constructor
  · intro h
    have h' : ((trimLeft s).reverse.dropWhile isBlank) = [] := by
      simpa [trimChars, trimRight] using h
    rw [dropWhile_eq_nil_iff_all, List.all_reverse] at h'
    cases hs : trimLeft s with
    | nil =>
        exact (dropWhile_eq_nil_iff_all isBlank s).mp hs
    | cons c rest =>
        have hhead : isBlank c = false := by
          have := List.head?_dropWhile_not isBlank s
          unfold trimLeft at hs
          rw [hs] at this
          simpa using this
        rw [hs] at h'
        simp [hhead] at h'
  · intro h
    have : trimLeft s = [] := (dropWhile_eq_nil_iff_all isBlank s).mpr h
    simp [trimChars, this, trimRight]

end Text
end LogicalNet
