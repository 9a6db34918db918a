import MessageConstraints.Unicode.Classes

/-!
# Characters of names and of visible text

The classes that decide which characters the names of groups may have and which ones are escaped
in error texts.  They follow version 17 of the Unicode character database, one version ahead of the
classes that patterns name; so they are those classes with what the new version adds.
-/

namespace MessageConstraints

namespace Unicode

/-- The letters that version 17 adds. -/
def newLetters : CharSet := ⟨[
  (0x88F, 0x88F), (0xC5C, 0xC5C), (0xCDC, 0xCDC), (0xA7CE, 0xA7CF), (0xA7D2, 0xA7D2),
  (0xA7D4, 0xA7D4), (0xA7F1, 0xA7F1), (0x10940, 0x10959), (0x10EC5, 0x10EC7), (0x10EFA, 0x10EFB),
  (0x11B60, 0x11B67), (0x11DB0, 0x11DDB), (0x16EA0, 0x16EB8), (0x16EBB, 0x16ED3),
  (0x16FF2, 0x16FF6), (0x187F8, 0x187FF), (0x18D09, 0x18D1E), (0x18D80, 0x18DF2),
  (0x1E6C0, 0x1E6DE), (0x1E6E0, 0x1E6F5), (0x1E6FE, 0x1E6FF), (0x2B73A, 0x2B73F),
  (0x2CEA2, 0x2CEAD), (0x323B0, 0x33479)]⟩

/-- The numerals that version 17 adds, but for those that are letters as well. -/
def newNumerals : CharSet := ⟨[(0x11DE0, 0x11DE9)]⟩

/-- The marks that version 17 adds and that extend the character before them. -/
def newExtenders : CharSet := ⟨[
  (0x1ACF, 0x1ADD), (0x1AE0, 0x1AEB), (0x10EFA, 0x10EFB), (0x11B60, 0x11B60), (0x11B62, 0x11B64),
  (0x11B66, 0x11B66), (0x1E6E3, 0x1E6E3), (0x1E6E6, 0x1E6E6), (0x1E6EE, 0x1E6EF),
  (0x1E6F5, 0x1E6F5)]⟩

/-- The symbols that version 17 adds. -/
def newSymbols : CharSet := ⟨[
  (0x20C1, 0x20C1), (0x2B96, 0x2B96), (0xFBC3, 0xFBD2), (0xFD90, 0xFD91), (0xFDC8, 0xFDCE),
  (0x10ED0, 0x10ED8), (0x1CCFA, 0x1CCFC), (0x1CEBA, 0x1CED0), (0x1CEE0, 0x1CEF0),
  (0x1F6D8, 0x1F6D8), (0x1F777, 0x1F77A), (0x1F8D0, 0x1F8D8), (0x1FA54, 0x1FA57),
  (0x1FA8A, 0x1FA8A), (0x1FA8E, 0x1FA8E), (0x1FAC8, 0x1FAC8), (0x1FACD, 0x1FACD),
  (0x1FAEA, 0x1FAEA), (0x1FAEF, 0x1FAEF), (0x1FBFA, 0x1FBFA)]⟩

/-- The letters of all scripts. -/
def alphabetic : CharSet :=
  ((findClass? properties "alphabetic").getD .empty).union newLetters

/-- The letters and numerals of all scripts. -/
def alphanumeric : CharSet :=
  alphabetic.union ((categoryUnion ["nd", "nl", "no"]).union newNumerals)

/-- The marks that extend the character before them. -/
def graphemeExtenders : CharSet :=
  ((findClass? properties "graphemeextend").getD .empty).union newExtenders

/-- The letters that leave nothing to be seen: fillers in Hangul syllables. -/
def fillers : CharSet :=
  .ofRanges [(0x115F, 0x1160), (0x3164, 0x3164), (0xFFA0, 0xFFA0)]

/-- The code points without a visible form of their own, the space apart. -/
def unprintable : CharSet :=
  let added := newLetters.union (newNumerals.union (newExtenders.union newSymbols))
  let hidden := (categoryUnion ["cc", "cf", "co", "cn", "zs", "zl", "zp"]).difference (.single ' ')
  (hidden.difference added).union (surrogates.union fillers)

end Unicode

end MessageConstraints
