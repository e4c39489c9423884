/-
# Characters of XML

Which characters may stand in a document, which of them are white space between
the parts of a tag, and which may begin and continue a name.
-/

import SecurityTokens.Text.CharacterRange

namespace SecurityTokens
namespace Xml

/-- Characters that may stand in a document: no controls but tab, line feed and
carriage return, and neither of the two last code points of the first plane. -/
def isAllowed (c : Char) : Bool :=
  if c.toNat < 0x20 then c == '\t' || c == '\n' || c == '\r'
  else c.toNat != 0xFFFE && c.toNat != 0xFFFF

/-- White space between the parts of a tag. -/
def isSpace (c : Char) : Bool := c == ' ' || c == '\t' || c == '\n' || c == '\r'

/-- Characters outside ASCII that may begin a name. -/
def nameStartRanges : Text.CharacterRanges :=
  [(0xC0, 0xD6), (0xD8, 0xF6), (0xF8, 0x2FF), (0x370, 0x37D), (0x37F, 0x1FFF), (0x200C, 0x200D),
   (0x2070, 0x218F), (0x2C00, 0x2FEF), (0x3001, 0xD7FF), (0xF900, 0xFDCF), (0xFDF0, 0xFFFD),
   (0x10000, 0xEFFFF)]

/-- Characters outside ASCII that may continue a name but not begin one. -/
def nameFollowRanges : Text.CharacterRanges :=
  [(0xB7, 0xB7), (0x300, 0x36F), (0x203F, 0x2040)]

/-- Characters that may begin a name, a colon included. -/
def isNameStart (c : Char) : Bool :=
  c.isAlpha || c == ':' || c == '_' || nameStartRanges.contains c

/-- Characters that may continue a name, a colon included. -/
def isNameFollow (c : Char) : Bool :=
  isNameStart c || c.isDigit || c == '-' || c == '.' || nameFollowRanges.contains c

end Xml
end SecurityTokens
