import PalletTypes.Text

/-!
# Blank texts

The characters that separate words: the space characters of Unicode, the line
and paragraph separators and the control characters that move the cursor or
separate information.  The zero-width characters are not among them.
-/

namespace PalletTypes.Text

/-- The numbers of the blank characters. -/
def blankPoints : List Nat :=
  [0x09, 0x0A, 0x0B, 0x0C, 0x0D, 0x1C, 0x1D, 0x1E, 0x1F, 0x20, 0x85, 0xA0,
    0x1680, 0x2000, 0x2001, 0x2002, 0x2003, 0x2004, 0x2005, 0x2006, 0x2007,
    0x2008, 0x2009, 0x200A, 0x2028, 0x2029, 0x202F, 0x205F, 0x3000]

def isBlankPoint (point : CodePoint) : Bool :=
  blankPoints.contains point.number

/-- Whether a text holds blank characters only. -/
def isBlank (text : Text) : Bool := text.all isBlankPoint

end PalletTypes.Text
