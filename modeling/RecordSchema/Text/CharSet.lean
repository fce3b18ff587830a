/-!
# Sets of characters

A large set of characters is given by the ascending list of the code points at which membership
changes: the first starts a run of members, the second ends it, and so on. A character is a member
when an odd number of these turns lie at or before it.
-/

namespace RecordSchema.Text

/-- A set of characters, as the ascending code points where membership changes. -/
structure CharSet where
  turns : List Nat

namespace CharSet

/-- Whether a code point lies in the set. -/
def holds (s : CharSet) (n : Nat) : Bool := s.turns.countP (· ≤ n) % 2 == 1

/-- Whether a character lies in the set. -/
def contains (s : CharSet) (c : Char) : Bool := s.holds c.toNat

@[simp] theorem contains_empty (c : Char) : (CharSet.mk []).contains c = false := rfl

/-- One run of members: those from its first turn up to, and not with, its second. -/
theorem holds_run {lo hi n : Nat} (h : lo ≤ hi) :
    (CharSet.mk [lo, hi]).holds n = (decide (lo ≤ n) && decide (n < hi)) := by
  by_cases h1 : lo ≤ n <;> by_cases h2 : hi ≤ n <;>
    simp [holds, h1, h2, Nat.not_lt_of_le, Nat.lt_of_not_le]
  omega

end CharSet

/-- Blank characters: the Unicode property `White_Space`. -/
def blanks : CharSet where
  turns := [0x9, 0xe, 0x20, 0x21, 0x85, 0x86, 0xa0, 0xa1, 0x1680, 0x1681, 0x2000, 0x200b, 0x2028,
    0x202a, 0x202f, 0x2030, 0x205f, 0x2060, 0x3000, 0x3001]

/-- Whether a character is blank. -/
def isBlank (c : Char) : Bool := blanks.contains c

example : isBlank ' ' ∧ isBlank '\n' ∧ isBlank '\u3000' ∧ ¬ isBlank 'a' ∧ ¬ isBlank '\u200b' := by
  decide

end RecordSchema.Text
