import KeyValue.Text.CodeRange

/-!
This module contains the property Default_Ignorable_Code_Point of Unicode 17.0: the code points of
which nothing is drawn, such as joiners, variation selectors and the fillers of Hangul syllables.
-/

namespace KeyValue.Text

def defaultIgnorableRanges : List CodeRange :=
  [ (0xad, 0xad), (0x34f, 0x34f), (0x61c, 0x61c), (0x115f, 0x1160), (0x17b4, 0x17b5),
    (0x180b, 0x180f), (0x200b, 0x200f), (0x202a, 0x202e), (0x2060, 0x206f), (0x3164, 0x3164),
    (0xfe00, 0xfe0f), (0xfeff, 0xfeff), (0xffa0, 0xffa0), (0xfff0, 0xfff8), (0x1bca0, 0x1bca3),
    (0x1d173, 0x1d17a), (0xe0000, 0xe0fff) ]

def isDefaultIgnorable (c : Char) : Bool :=
  inRanges defaultIgnorableRanges c

theorem isDefaultIgnorable_of_ascii {c : Char} (h : c.toNat < 128) :
    isDefaultIgnorable c = false :=
  inRanges_eq_false h (by decide)

end KeyValue.Text
