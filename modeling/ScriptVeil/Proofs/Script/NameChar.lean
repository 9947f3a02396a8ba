import ScriptVeil.Proofs.Text.CharClass
import ScriptVeil.Script.NameChar

namespace ScriptVeil.Script

/-- The characters of names that are no word characters: those that the table of names has
beyond letters, marks and digits, like the middle dot, and those that only it knows. -/
def wordBreaks : CharSet :=
  [(0xB7, 0xB7), (0x387, 0x387), (0x558, 0x558), (0x5C8, 0x5C8), (0x88F, 0x88F), (0xC5C, 0xC5C),
   (0xCDC, 0xCDC), (0x1369, 0x1371), (0x19DA, 0x19DA), (0x1ACF, 0x1ADD), (0x1AE0, 0x1AEB),
   (0x208F, 0x208F), (0x2118, 0x2118), (0x212E, 0x212E), (0x309B, 0x309C), (0x30FB, 0x30FB),
   (0xA7CE, 0xA7CF), (0xA7D2, 0xA7D2), (0xA7D4, 0xA7D4), (0xA7F1, 0xA7F1), (0xFF65, 0xFF65),
   (0x10940, 0x10959), (0x10EC5, 0x10EC7), (0x10EFA, 0x10EFB), (0x11B60, 0x11B67),
   (0x11DB0, 0x11DDB), (0x11DE0, 0x11DE9), (0x16EA0, 0x16EB8), (0x16EBB, 0x16ED3),
   (0x16FF2, 0x16FF6), (0x187F8, 0x187FF), (0x18D09, 0x18D1E), (0x18D80, 0x18DF2),
   (0x1B123, 0x1B123), (0x1E6C0, 0x1E6DE), (0x1E6E0, 0x1E6F5), (0x1E6FE, 0x1E6FF),
   (0x2B73A, 0x2B73F), (0x2CEA2, 0x2CEAD), (0x323B0, 0x33479)]

theorem nameParts_without_wordChars :
    namePartsBeyondAscii.without wordCharsBeyondAscii = wordBreaks := by
  decide +kernel

theorem wordBreaks_apart_wordChars : CharSet.Apart wordBreaks wordChars :=
  .of_all (by decide +kernel)

variable {c : Char}

theorem isWordChar_eq_false_of_wordBreak (h : wordBreaks.has c = true) : isWordChar c = false := by
  rw [← Bool.not_eq_true]
  intro hw
  have hapart := wordBreaks_apart_wordChars.not_has h
  rw [wordChars_has hw] at hapart
  contradiction

theorem isWordChar_eq_not_wordBreaks (h : isNamePart c = true) :
    isWordChar c = !wordBreaks.has c := by
  cases hb : wordBreaks.has c with
  | true => exact isWordChar_eq_false_of_wordBreak hb
  | false =>
    rw [isNamePart] at h
    rw [isWordChar]
    split at h
    · next hascii =>
      rw [if_pos hascii]
      exact h
    · next hascii =>
      rw [if_neg hascii]
      simp only [Bool.or_eq_true, decide_eq_true_eq] at h
      rcases h with (h | h) | h
      · rw [CharSet.has, h]
        decide +kernel
      · rw [CharSet.has, h]
        decide +kernel
      · cases hw : wordCharsBeyondAscii.has c with
        | true => rfl
        | false =>
          have hleft := CharSet.has_without h hw
          rw [nameParts_without_wordChars, hb] at hleft
          contradiction

end ScriptVeil.Script
