import LogicalNet.Text.CaseRanges

/-!
# Lower case

Lower casing of a text over all of Unicode.  One letter becomes two characters
(the capital I with a dot), and a capital sigma becomes the final form when it
ends a word.  ASCII texts take the short road: only the letters A to Z change.
-/

namespace LogicalNet
namespace Text

def CaseRun.covers (r : CaseRun) (n : Nat) : Bool :=
  r.first ≤ n && n ≤ r.last && (n - r.first) % r.step == 0

def inRanges (ranges : List (Nat × Nat)) (c : Char) : Bool :=
  ranges.any fun r => r.1 ≤ c.toNat && c.toNat ≤ r.2

/-- The lower case form of one letter, apart from its place in a word. -/
def lowerChar (c : Char) : List Char :=
  if c.toNat < 0x80 then
    [c.toLower]
  else if c.toNat == 0x130 then
    ['i', Char.ofNat 0x307]
  else
    match lowerRuns.find? (·.covers c.toNat) with
    | some r => [Char.ofNat (Int.toNat (c.toNat + r.shift))]
    | none => [c]

def capitalSigma : Char := 'Σ'

def finalSigma : Char := 'ς'

/-- The nearest character that is not passed over is a letter with case. -/
def meetsLetter (s : List Char) : Bool :=
  match s.dropWhile (inRanges caseIgnorable) with
  | c :: _ => inRanges casedLetters c
  | [] => false

/-- Lower casing behind a part of the text that has been passed, nearest character first. -/
def lowerFrom (passed : List Char) : List Char → List Char
  | [] => []
  | c :: rest =>
      let lowered :=
        if c == capitalSigma && meetsLetter passed && !meetsLetter rest then
          [finalSigma]
        else
          lowerChar c
      lowered ++ lowerFrom (c :: passed) rest

def lowerChars (s : List Char) : List Char :=
  lowerFrom [] s

/-- The text in lower case. -/
def lower (s : String) : String :=
  String.ofList (lowerChars s.toList)

theorem lowerFrom_of_ascii (passed s : List Char) (h : ∀ c ∈ s, c.toNat < 0x80) :
    lowerFrom passed s = s.map Char.toLower := by
  induction s generalizing passed with
  | nil =>
      rfl
  | cons c rest ih =>
      have hc : c.toNat < 0x80 := h c (by simp)
      have hne : (c == capitalSigma) = false := by
        refine beq_eq_false_iff_ne.mpr fun he => ?_
        subst he
        exact absurd hc (by decide)
      have hrest := ih (c :: passed) fun d hd => h d (by simp [hd])
      simp [lowerFrom, lowerChar, hc, hne, hrest]

/-- Without a character outside ASCII the letters A to Z are lowered and nothing else changes. -/
theorem lowerChars_of_ascii (s : List Char) (h : ∀ c ∈ s, c.toNat < 0x80) :
    lowerChars s = s.map Char.toLower :=
  lowerFrom_of_ascii [] s h

end Text
end LogicalNet
