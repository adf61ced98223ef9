import UriRouting.Unicode.Script

/-!
# UriRouting.Unicode.ScriptExtensions

Some characters are used with several scripts. `ScriptExtensions.added` lists,
per script, the characters used with it beyond those of the script itself;
`ScriptExtensions.removed` lists the characters that are common or inherited by
script, but are in use with particular scripts only (Unicode 16).
-/

namespace UriRouting.Unicode.ScriptExtensions

def adlam : Table :=
  [⟨0x61F, 0x61F, 1⟩, ⟨0x640, 0x640, 1⟩, ⟨0x204F, 0x204F, 1⟩, ⟨0x2E41, 0x2E41, 1⟩]

def arabic : Table :=
  [⟨0x60C, 0x60C, 1⟩, ⟨0x61B, 0x61B, 1⟩, ⟨0x61F, 0x61F, 1⟩, ⟨0x640, 0x640, 1⟩, ⟨0x64B, 0x655, 1⟩,
   ⟨0x670, 0x670, 1⟩, ⟨0x204F, 0x204F, 1⟩, ⟨0x2E41, 0x2E41, 1⟩, ⟨0xFD3E, 0xFD3F, 1⟩,
   ⟨0x102E0, 0x102FB, 1⟩]

def armenian : Table :=
  [⟨0x308, 0x308, 1⟩]

def avestan : Table :=
  [⟨0xB7, 0xB7, 1⟩, ⟨0x2E30, 0x2E31, 1⟩]

def bengali : Table :=
  [⟨0x2BC, 0x2BC, 1⟩, ⟨0x951, 0x952, 1⟩, ⟨0x964, 0x965, 1⟩, ⟨0x1CD0, 0x1CD0, 1⟩,
   ⟨0x1CD2, 0x1CD2, 1⟩, ⟨0x1CD5, 0x1CD6, 1⟩, ⟨0x1CD8, 0x1CD8, 1⟩, ⟨0x1CE1, 0x1CE1, 1⟩,
   ⟨0x1CEA, 0x1CEA, 1⟩, ⟨0x1CED, 0x1CED, 1⟩, ⟨0x1CF2, 0x1CF2, 1⟩, ⟨0x1CF5, 0x1CF7, 1⟩,
   ⟨0xA8F1, 0xA8F1, 1⟩]

def bopomofo : Table :=
  [⟨0x2C7, 0x2C7, 1⟩, ⟨0x2C9, 0x2CB, 1⟩, ⟨0x2D9, 0x2D9, 1⟩, ⟨0x3001, 0x3003, 1⟩,
   ⟨0x3008, 0x3011, 1⟩, ⟨0x3013, 0x301F, 1⟩, ⟨0x302A, 0x302D, 1⟩, ⟨0x3030, 0x3030, 1⟩,
   ⟨0x3037, 0x3037, 1⟩, ⟨0x30FB, 0x30FB, 1⟩, ⟨0xFE45, 0xFE46, 1⟩, ⟨0xFF61, 0xFF65, 1⟩]

def buginese : Table :=
  [⟨0xA9CF, 0xA9CF, 1⟩]

def buhid : Table :=
  [⟨0x1735, 0x1736, 1⟩]

def carian : Table :=
  [⟨0xB7, 0xB7, 1⟩, ⟨0x205A, 0x205A, 1⟩, ⟨0x205D, 0x205D, 1⟩, ⟨0x2E31, 0x2E31, 1⟩]

def caucasianAlbanian : Table :=
  [⟨0x304, 0x304, 1⟩, ⟨0x331, 0x331, 1⟩, ⟨0x35E, 0x35E, 1⟩]

def chakma : Table :=
  [⟨0x9E6, 0x9EF, 1⟩, ⟨0x1040, 0x1049, 1⟩]

def cherokee : Table :=
  [⟨0x300, 0x302, 1⟩, ⟨0x304, 0x304, 1⟩, ⟨0x30B, 0x30C, 1⟩, ⟨0x323, 0x324, 1⟩, ⟨0x330, 0x331, 1⟩]

def coptic : Table :=
  [⟨0xB7, 0xB7, 1⟩, ⟨0x300, 0x300, 1⟩, ⟨0x304, 0x305, 1⟩, ⟨0x307, 0x307, 1⟩, ⟨0x374, 0x375, 1⟩,
   ⟨0x2E17, 0x2E17, 1⟩, ⟨0x102E0, 0x102FB, 1⟩]

def cypriot : Table :=
  [⟨0x10100, 0x10102, 1⟩, ⟨0x10107, 0x10133, 1⟩, ⟨0x10137, 0x1013F, 1⟩]

def cyproMinoan : Table :=
  [⟨0x10100, 0x10101, 1⟩]

def cyrillic : Table :=
  [⟨0x2BC, 0x2BC, 1⟩, ⟨0x300, 0x302, 1⟩, ⟨0x304, 0x308, 2⟩, ⟨0x30B, 0x30B, 1⟩, ⟨0x311, 0x311, 1⟩,
   ⟨0x485, 0x486, 1⟩, ⟨0x1DF8, 0x1DF8, 1⟩, ⟨0x2E43, 0x2E43, 1⟩]

def devanagari : Table :=
  [⟨0x2BC, 0x2BC, 1⟩, ⟨0x951, 0x952, 1⟩, ⟨0x964, 0x965, 1⟩, ⟨0x1CD0, 0x1CF6, 1⟩,
   ⟨0x1CF8, 0x1CF9, 1⟩, ⟨0x20F0, 0x20F0, 1⟩, ⟨0xA830, 0xA839, 1⟩]

def dogra : Table :=
  [⟨0x964, 0x96F, 1⟩, ⟨0xA830, 0xA839, 1⟩]

def duployan : Table :=
  [⟨0xB7, 0xB7, 1⟩, ⟨0x307, 0x308, 1⟩, ⟨0x30A, 0x30A, 1⟩, ⟨0x323, 0x324, 1⟩, ⟨0x2E3C, 0x2E3C, 1⟩,
   ⟨0x1BCA0, 0x1BCA3, 1⟩]

def elbasan : Table :=
  [⟨0xB7, 0xB7, 1⟩, ⟨0x305, 0x305, 1⟩]

def ethiopic : Table :=
  [⟨0x30E, 0x30E, 1⟩]

def garay : Table :=
  [⟨0x60C, 0x60C, 1⟩, ⟨0x61B, 0x61B, 1⟩, ⟨0x61F, 0x61F, 1⟩]

def georgian : Table :=
  [⟨0xB7, 0xB7, 1⟩, ⟨0x589, 0x589, 1⟩, ⟨0x10FB, 0x10FB, 1⟩, ⟨0x205A, 0x205A, 1⟩,
   ⟨0x2E31, 0x2E31, 1⟩]

def glagolitic : Table :=
  [⟨0xB7, 0xB7, 1⟩, ⟨0x303, 0x303, 1⟩, ⟨0x305, 0x305, 1⟩, ⟨0x484, 0x484, 1⟩, ⟨0x487, 0x487, 1⟩,
   ⟨0x589, 0x589, 1⟩, ⟨0x10FB, 0x10FB, 1⟩, ⟨0x205A, 0x205A, 1⟩, ⟨0x2E43, 0x2E43, 1⟩,
   ⟨0xA66F, 0xA66F, 1⟩]

def gothic : Table :=
  [⟨0xB7, 0xB7, 1⟩, ⟨0x304, 0x305, 1⟩, ⟨0x308, 0x308, 1⟩, ⟨0x331, 0x331, 1⟩]

def grantha : Table :=
  [⟨0x951, 0x952, 1⟩, ⟨0x964, 0x965, 1⟩, ⟨0xBE6, 0xBF3, 1⟩, ⟨0x1CD0, 0x1CD0, 1⟩,
   ⟨0x1CD2, 0x1CD3, 1⟩, ⟨0x1CF2, 0x1CF4, 1⟩, ⟨0x1CF8, 0x1CF9, 1⟩, ⟨0x20F0, 0x20F0, 1⟩,
   ⟨0x1133B, 0x1133B, 1⟩, ⟨0x11FD0, 0x11FD1, 1⟩, ⟨0x11FD3, 0x11FD3, 1⟩]

def greek : Table :=
  [⟨0xB7, 0xB7, 1⟩, ⟨0x300, 0x301, 1⟩, ⟨0x304, 0x308, 2⟩, ⟨0x313, 0x313, 1⟩, ⟨0x342, 0x342, 1⟩,
   ⟨0x345, 0x345, 1⟩, ⟨0x374, 0x374, 1⟩, ⟨0x1DC0, 0x1DC1, 1⟩, ⟨0x205D, 0x205D, 1⟩]

def gujarati : Table :=
  [⟨0x951, 0x952, 1⟩, ⟨0x964, 0x965, 1⟩, ⟨0xA830, 0xA839, 1⟩]

def gunjalaGondi : Table :=
  [⟨0xB7, 0xB7, 1⟩, ⟨0x964, 0x965, 1⟩]

def gurmukhi : Table :=
  [⟨0x951, 0x952, 1⟩, ⟨0x964, 0x965, 1⟩, ⟨0xA830, 0xA839, 1⟩]

def gurungKhema : Table :=
  [⟨0x965, 0x965, 1⟩]

def han : Table :=
  [⟨0xB7, 0xB7, 1⟩, ⟨0x2FF0, 0x2FFF, 1⟩, ⟨0x3001, 0x3003, 1⟩, ⟨0x3006, 0x3006, 1⟩,
   ⟨0x3008, 0x3011, 1⟩, ⟨0x3013, 0x301F, 1⟩, ⟨0x302A, 0x302D, 1⟩, ⟨0x3030, 0x3030, 1⟩,
   ⟨0x3037, 0x3037, 1⟩, ⟨0x303C, 0x303F, 1⟩, ⟨0x30FB, 0x30FB, 1⟩, ⟨0x3190, 0x319F, 1⟩,
   ⟨0x31C0, 0x31E5, 1⟩, ⟨0x31EF, 0x31EF, 1⟩, ⟨0x3220, 0x3247, 1⟩, ⟨0x3280, 0x32B0, 1⟩,
   ⟨0x32C0, 0x32CB, 1⟩, ⟨0x32FF, 0x32FF, 1⟩, ⟨0x3358, 0x3370, 1⟩, ⟨0x337B, 0x337F, 1⟩,
   ⟨0x33E0, 0x33FE, 1⟩, ⟨0xA700, 0xA707, 1⟩, ⟨0xFE45, 0xFE46, 1⟩, ⟨0xFF61, 0xFF65, 1⟩,
   ⟨0x1D360, 0x1D371, 1⟩, ⟨0x1F250, 0x1F251, 1⟩]

def hangul : Table :=
  [⟨0x3001, 0x3003, 1⟩, ⟨0x3008, 0x3011, 1⟩, ⟨0x3013, 0x301F, 1⟩, ⟨0x3030, 0x3030, 1⟩,
   ⟨0x3037, 0x3037, 1⟩, ⟨0x30FB, 0x30FB, 1⟩, ⟨0xFE45, 0xFE46, 1⟩, ⟨0xFF61, 0xFF65, 1⟩]

def hanifiRohingya : Table :=
  [⟨0x60C, 0x60C, 1⟩, ⟨0x61B, 0x61B, 1⟩, ⟨0x61F, 0x61F, 1⟩, ⟨0x640, 0x640, 1⟩, ⟨0x6D4, 0x6D4, 1⟩]

def hanunoo : Table :=
  [⟨0x1735, 0x1736, 1⟩]

def hebrew : Table :=
  [⟨0x307, 0x308, 1⟩]

def hiragana : Table :=
  [⟨0x3001, 0x3003, 1⟩, ⟨0x3008, 0x3011, 1⟩, ⟨0x3013, 0x301F, 1⟩, ⟨0x3030, 0x3035, 1⟩,
   ⟨0x3037, 0x3037, 1⟩, ⟨0x303C, 0x303D, 1⟩, ⟨0x3099, 0x309C, 1⟩, ⟨0x30A0, 0x30A0, 1⟩,
   ⟨0x30FB, 0x30FC, 1⟩, ⟨0xFE45, 0xFE46, 1⟩, ⟨0xFF61, 0xFF65, 1⟩, ⟨0xFF70, 0xFF70, 1⟩,
   ⟨0xFF9E, 0xFF9F, 1⟩]

def javanese : Table :=
  [⟨0xA9CF, 0xA9CF, 1⟩]

def kaithi : Table :=
  [⟨0x966, 0x96F, 1⟩, ⟨0x2E31, 0x2E31, 1⟩, ⟨0xA830, 0xA839, 1⟩]

def kannada : Table :=
  [⟨0x951, 0x952, 1⟩, ⟨0x964, 0x965, 1⟩, ⟨0x1CD0, 0x1CD0, 1⟩, ⟨0x1CD2, 0x1CD3, 1⟩,
   ⟨0x1CDA, 0x1CDA, 1⟩, ⟨0x1CF2, 0x1CF2, 1⟩, ⟨0x1CF4, 0x1CF4, 1⟩, ⟨0xA830, 0xA835, 1⟩]

def katakana : Table :=
  [⟨0x305, 0x305, 1⟩, ⟨0x323, 0x323, 1⟩, ⟨0x3001, 0x3003, 1⟩, ⟨0x3008, 0x3011, 1⟩,
   ⟨0x3013, 0x301F, 1⟩, ⟨0x3030, 0x3035, 1⟩, ⟨0x3037, 0x3037, 1⟩, ⟨0x303C, 0x303D, 1⟩,
   ⟨0x3099, 0x309C, 1⟩, ⟨0x30A0, 0x30A0, 1⟩, ⟨0x30FB, 0x30FC, 1⟩, ⟨0xFE45, 0xFE46, 1⟩,
   ⟨0xFF61, 0xFF65, 1⟩, ⟨0xFF70, 0xFF70, 1⟩, ⟨0xFF9E, 0xFF9F, 1⟩]

def kayahLi : Table :=
  [⟨0xA92E, 0xA92E, 1⟩]

def khojki : Table :=
  [⟨0xAE6, 0xAEF, 1⟩, ⟨0xA830, 0xA839, 1⟩]

def khudawadi : Table :=
  [⟨0x964, 0x965, 1⟩, ⟨0xA830, 0xA839, 1⟩]

def latin : Table :=
  [⟨0xB7, 0xB7, 1⟩, ⟨0x2BC, 0x2BC, 1⟩, ⟨0x2C7, 0x2C7, 1⟩, ⟨0x2C9, 0x2CB, 1⟩, ⟨0x2CD, 0x2CD, 1⟩,
   ⟨0x2D7, 0x2D7, 1⟩, ⟨0x2D9, 0x2D9, 1⟩, ⟨0x300, 0x30E, 1⟩, ⟨0x310, 0x311, 1⟩, ⟨0x313, 0x313, 1⟩,
   ⟨0x323, 0x325, 1⟩, ⟨0x32D, 0x32E, 1⟩, ⟨0x330, 0x331, 1⟩, ⟨0x358, 0x358, 1⟩, ⟨0x35E, 0x35E, 1⟩,
   ⟨0x363, 0x36F, 1⟩, ⟨0x485, 0x486, 1⟩, ⟨0x951, 0x952, 1⟩, ⟨0x10FB, 0x10FB, 1⟩,
   ⟨0x1DF8, 0x1DF8, 1⟩, ⟨0x202F, 0x202F, 1⟩, ⟨0x20F0, 0x20F0, 1⟩, ⟨0x2E17, 0x2E17, 1⟩,
   ⟨0xA700, 0xA707, 1⟩, ⟨0xA92E, 0xA92E, 1⟩]

def limbu : Table :=
  [⟨0x965, 0x965, 1⟩]

def linearA : Table :=
  [⟨0x10107, 0x10133, 1⟩]

def linearB : Table :=
  [⟨0x10100, 0x10102, 1⟩, ⟨0x10107, 0x10133, 1⟩, ⟨0x10137, 0x1013F, 1⟩]

def lisu : Table :=
  [⟨0x2BC, 0x2BC, 1⟩, ⟨0x2CD, 0x2CD, 1⟩, ⟨0x300A, 0x300B, 1⟩]

def lycian : Table :=
  [⟨0x205A, 0x205A, 1⟩]

def lydian : Table :=
  [⟨0xB7, 0xB7, 1⟩, ⟨0x2E31, 0x2E31, 1⟩]

def mahajani : Table :=
  [⟨0xB7, 0xB7, 1⟩, ⟨0x964, 0x96F, 1⟩, ⟨0xA830, 0xA839, 1⟩]

def malayalam : Table :=
  [⟨0x951, 0x952, 1⟩, ⟨0x964, 0x965, 1⟩, ⟨0x1CDA, 0x1CDA, 1⟩, ⟨0x1CF2, 0x1CF2, 1⟩,
   ⟨0xA830, 0xA832, 1⟩]

def mandaic : Table :=
  [⟨0x640, 0x640, 1⟩]

def manichaean : Table :=
  [⟨0x640, 0x640, 1⟩]

def masaramGondi : Table :=
  [⟨0x964, 0x965, 1⟩]

def meroiticHieroglyphs : Table :=
  [⟨0x205D, 0x205D, 1⟩]

def modi : Table :=
  [⟨0xA830, 0xA839, 1⟩]

def mongolian : Table :=
  [⟨0x1802, 0x1803, 1⟩, ⟨0x1805, 0x1805, 1⟩, ⟨0x202F, 0x202F, 1⟩, ⟨0x3001, 0x3002, 1⟩,
   ⟨0x3008, 0x300B, 1⟩]

def multani : Table :=
  [⟨0xA66, 0xA6F, 1⟩]

def myanmar : Table :=
  [⟨0xA92E, 0xA92E, 1⟩]

def nandinagari : Table :=
  [⟨0x951, 0x951, 1⟩, ⟨0x964, 0x965, 1⟩, ⟨0xCE6, 0xCEF, 1⟩, ⟨0x1CE9, 0x1CE9, 1⟩,
   ⟨0x1CF2, 0x1CF2, 1⟩, ⟨0x1CFA, 0x1CFA, 1⟩, ⟨0xA830, 0xA835, 1⟩]

def newa : Table :=
  [⟨0x951, 0x952, 1⟩, ⟨0x1CD5, 0x1CD5, 1⟩, ⟨0x1CD7, 0x1CD8, 1⟩, ⟨0x1CE2, 0x1CE2, 1⟩,
   ⟨0x1CE9, 0x1CED, 2⟩]

def nko : Table :=
  [⟨0x60C, 0x60C, 1⟩, ⟨0x61B, 0x61B, 1⟩, ⟨0x61F, 0x61F, 1⟩, ⟨0xFD3E, 0xFD3F, 1⟩]

def olOnal : Table :=
  [⟨0x964, 0x965, 1⟩]

def oldHungarian : Table :=
  [⟨0x205A, 0x205A, 1⟩, ⟨0x205D, 0x205D, 1⟩, ⟨0x2E31, 0x2E31, 1⟩, ⟨0x2E41, 0x2E41, 1⟩]

def oldPermic : Table :=
  [⟨0xB7, 0xB7, 1⟩, ⟨0x300, 0x300, 1⟩, ⟨0x306, 0x308, 1⟩, ⟨0x313, 0x313, 1⟩, ⟨0x483, 0x483, 1⟩]

def oldTurkic : Table :=
  [⟨0x205A, 0x205A, 1⟩, ⟨0x2E30, 0x2E30, 1⟩]

def oldUyghur : Table :=
  [⟨0x640, 0x640, 1⟩, ⟨0x10AF2, 0x10AF2, 1⟩]

def oriya : Table :=
  [⟨0x951, 0x952, 1⟩, ⟨0x964, 0x965, 1⟩, ⟨0x1CDA, 0x1CDA, 1⟩, ⟨0x1CF2, 0x1CF2, 1⟩]

def osage : Table :=
  [⟨0x301, 0x301, 1⟩, ⟨0x304, 0x304, 1⟩, ⟨0x30B, 0x30B, 1⟩, ⟨0x358, 0x358, 1⟩]

def phagsPa : Table :=
  [⟨0x1802, 0x1803, 1⟩, ⟨0x1805, 0x1805, 1⟩, ⟨0x202F, 0x202F, 1⟩, ⟨0x3002, 0x3002, 1⟩]

def psalterPahlavi : Table :=
  [⟨0x640, 0x640, 1⟩]

def runic : Table :=
  [⟨0x16EB, 0x16ED, 1⟩]

def samaritan : Table :=
  [⟨0x2E31, 0x2E31, 1⟩]

def sharada : Table :=
  [⟨0x951, 0x951, 1⟩, ⟨0x1CD7, 0x1CD7, 1⟩, ⟨0x1CD9, 0x1CD9, 1⟩, ⟨0x1CDC, 0x1CDD, 1⟩,
   ⟨0x1CE0, 0x1CE0, 1⟩, ⟨0x1CEA, 0x1CEA, 1⟩, ⟨0x1CED, 0x1CED, 1⟩, ⟨0xA830, 0xA835, 1⟩,
   ⟨0xA838, 0xA838, 1⟩]

def shavian : Table :=
  [⟨0xB7, 0xB7, 1⟩]

def sinhala : Table :=
  [⟨0x964, 0x965, 1⟩, ⟨0x1CF2, 0x1CF2, 1⟩]

def sogdian : Table :=
  [⟨0x640, 0x640, 1⟩]

def sunuwar : Table :=
  [⟨0x300, 0x301, 1⟩, ⟨0x303, 0x303, 1⟩, ⟨0x30D, 0x30D, 1⟩, ⟨0x310, 0x310, 1⟩, ⟨0x32D, 0x32D, 1⟩,
   ⟨0x331, 0x331, 1⟩]

def sylotiNagri : Table :=
  [⟨0x964, 0x965, 1⟩, ⟨0x9E6, 0x9EF, 1⟩]

def syriac : Table :=
  [⟨0x303, 0x304, 1⟩, ⟨0x307, 0x308, 1⟩, ⟨0x30A, 0x30A, 1⟩, ⟨0x323, 0x325, 1⟩, ⟨0x32D, 0x32E, 1⟩,
   ⟨0x330, 0x331, 1⟩, ⟨0x60C, 0x60C, 1⟩, ⟨0x61B, 0x61C, 1⟩, ⟨0x61F, 0x61F, 1⟩, ⟨0x640, 0x640, 1⟩,
   ⟨0x64B, 0x655, 1⟩, ⟨0x670, 0x670, 1⟩, ⟨0x1DF8, 0x1DF8, 1⟩, ⟨0x1DFA, 0x1DFA, 1⟩]

def tagalog : Table :=
  [⟨0x1735, 0x1736, 1⟩]

def tagbanwa : Table :=
  [⟨0x1735, 0x1736, 1⟩]

def taiLe : Table :=
  [⟨0x300, 0x301, 1⟩, ⟨0x307, 0x308, 1⟩, ⟨0x30C, 0x30C, 1⟩, ⟨0x1040, 0x1049, 1⟩]

def takri : Table :=
  [⟨0x964, 0x965, 1⟩, ⟨0xA830, 0xA839, 1⟩]

def tamil : Table :=
  [⟨0x951, 0x952, 1⟩, ⟨0x964, 0x965, 1⟩, ⟨0x1CDA, 0x1CDA, 1⟩, ⟨0xA8F3, 0xA8F3, 1⟩,
   ⟨0x11301, 0x11301, 1⟩, ⟨0x11303, 0x11303, 1⟩, ⟨0x1133B, 0x1133C, 1⟩]

def tangut : Table :=
  [⟨0x2FF0, 0x2FFF, 1⟩, ⟨0x31EF, 0x31EF, 1⟩]

def telugu : Table :=
  [⟨0x951, 0x952, 1⟩, ⟨0x964, 0x965, 1⟩, ⟨0x1CD5, 0x1CD6, 1⟩, ⟨0x1CD8, 0x1CD8, 1⟩,
   ⟨0x1CDA, 0x1CDA, 1⟩, ⟨0x1CF2, 0x1CF2, 1⟩]

def thaana : Table :=
  [⟨0x60C, 0x60C, 1⟩, ⟨0x61B, 0x61C, 1⟩, ⟨0x61F, 0x61F, 1⟩, ⟨0x660, 0x669, 1⟩,
   ⟨0xFDF2, 0xFDF2, 1⟩, ⟨0xFDFD, 0xFDFD, 1⟩]

def thai : Table :=
  [⟨0x2BC, 0x2BC, 1⟩, ⟨0x2D7, 0x2D7, 1⟩, ⟨0x303, 0x303, 1⟩, ⟨0x331, 0x331, 1⟩]

def tibetan : Table :=
  [⟨0x3008, 0x300B, 1⟩]

def tifinagh : Table :=
  [⟨0x302, 0x302, 1⟩, ⟨0x304, 0x304, 1⟩, ⟨0x306, 0x309, 1⟩, ⟨0x323, 0x323, 1⟩]

def tirhuta : Table :=
  [⟨0x951, 0x952, 1⟩, ⟨0x964, 0x965, 1⟩, ⟨0x1CD5, 0x1CD5, 1⟩, ⟨0x1CE2, 0x1CE2, 1⟩,
   ⟨0x1CF2, 0x1CF2, 1⟩, ⟨0xA830, 0xA839, 1⟩]

def todhri : Table :=
  [⟨0x301, 0x301, 1⟩, ⟨0x304, 0x304, 1⟩, ⟨0x307, 0x307, 1⟩, ⟨0x311, 0x311, 1⟩, ⟨0x313, 0x313, 1⟩,
   ⟨0x35E, 0x35E, 1⟩]

def toto : Table :=
  [⟨0x2BC, 0x2BC, 1⟩]

def tuluTigalari : Table :=
  [⟨0xCE6, 0xCEF, 1⟩, ⟨0x1CF2, 0x1CF2, 1⟩, ⟨0x1CF4, 0x1CF4, 1⟩, ⟨0xA830, 0xA835, 1⟩,
   ⟨0xA8F1, 0xA8F1, 1⟩]

def yezidi : Table :=
  [⟨0x60C, 0x60C, 1⟩, ⟨0x61B, 0x61B, 1⟩, ⟨0x61F, 0x61F, 1⟩, ⟨0x660, 0x669, 1⟩]

def yi : Table :=
  [⟨0x3001, 0x3002, 1⟩, ⟨0x3008, 0x3011, 1⟩, ⟨0x3014, 0x301B, 1⟩, ⟨0x30FB, 0x30FB, 1⟩,
   ⟨0xFF61, 0xFF65, 1⟩]

/-- Common and inherited characters in use with particular scripts only. -/
def removed : Table :=
  [⟨0xB7, 0xB7, 1⟩, ⟨0x2BC, 0x2BC, 1⟩, ⟨0x2C7, 0x2C7, 1⟩, ⟨0x2C9, 0x2CB, 1⟩, ⟨0x2CD, 0x2CD, 1⟩,
   ⟨0x2D7, 0x2D7, 1⟩, ⟨0x2D9, 0x2D9, 1⟩, ⟨0x300, 0x30E, 1⟩, ⟨0x310, 0x311, 1⟩, ⟨0x313, 0x313, 1⟩,
   ⟨0x323, 0x325, 1⟩, ⟨0x32D, 0x32E, 1⟩, ⟨0x330, 0x331, 1⟩, ⟨0x342, 0x342, 1⟩, ⟨0x345, 0x345, 1⟩,
   ⟨0x358, 0x358, 1⟩, ⟨0x35E, 0x35E, 1⟩, ⟨0x363, 0x36F, 1⟩, ⟨0x374, 0x374, 1⟩, ⟨0x485, 0x486, 1⟩,
   ⟨0x60C, 0x60C, 1⟩, ⟨0x61B, 0x61B, 1⟩, ⟨0x61F, 0x61F, 1⟩, ⟨0x640, 0x640, 1⟩, ⟨0x64B, 0x655, 1⟩,
   ⟨0x670, 0x670, 1⟩, ⟨0x951, 0x952, 1⟩, ⟨0x964, 0x965, 1⟩, ⟨0x10FB, 0x10FB, 1⟩,
   ⟨0x16EB, 0x16ED, 1⟩, ⟨0x1735, 0x1736, 1⟩, ⟨0x1802, 0x1803, 1⟩, ⟨0x1805, 0x1805, 1⟩,
   ⟨0x1CD0, 0x1CFA, 1⟩, ⟨0x1DC0, 0x1DC1, 1⟩, ⟨0x1DF8, 0x1DF8, 1⟩, ⟨0x1DFA, 0x1DFA, 1⟩,
   ⟨0x202F, 0x202F, 1⟩, ⟨0x204F, 0x204F, 1⟩, ⟨0x205A, 0x205A, 1⟩, ⟨0x205D, 0x205D, 1⟩,
   ⟨0x20F0, 0x20F0, 1⟩, ⟨0x2E17, 0x2E17, 1⟩, ⟨0x2E30, 0x2E31, 1⟩, ⟨0x2E3C, 0x2E3C, 1⟩,
   ⟨0x2E41, 0x2E41, 1⟩, ⟨0x2E43, 0x2E43, 1⟩, ⟨0x2FF0, 0x2FFF, 1⟩, ⟨0x3001, 0x3003, 1⟩,
   ⟨0x3006, 0x3006, 1⟩, ⟨0x3008, 0x3011, 1⟩, ⟨0x3013, 0x301F, 1⟩, ⟨0x302A, 0x302D, 1⟩,
   ⟨0x3030, 0x3035, 1⟩, ⟨0x3037, 0x3037, 1⟩, ⟨0x303C, 0x303F, 1⟩, ⟨0x3099, 0x309C, 1⟩,
   ⟨0x30A0, 0x30A0, 1⟩, ⟨0x30FB, 0x30FC, 1⟩, ⟨0x3190, 0x319F, 1⟩, ⟨0x31C0, 0x31E5, 1⟩,
   ⟨0x31EF, 0x31EF, 1⟩, ⟨0x3220, 0x3247, 1⟩, ⟨0x3280, 0x32B0, 1⟩, ⟨0x32C0, 0x32CB, 1⟩,
   ⟨0x32FF, 0x32FF, 1⟩, ⟨0x3358, 0x3370, 1⟩, ⟨0x337B, 0x337F, 1⟩, ⟨0x33E0, 0x33FE, 1⟩,
   ⟨0xA700, 0xA707, 1⟩, ⟨0xA830, 0xA839, 1⟩, ⟨0xA92E, 0xA92E, 1⟩, ⟨0xA9CF, 0xA9CF, 1⟩,
   ⟨0xFD3E, 0xFD3F, 1⟩, ⟨0xFE45, 0xFE46, 1⟩, ⟨0xFF61, 0xFF65, 1⟩, ⟨0xFF70, 0xFF70, 1⟩,
   ⟨0xFF9E, 0xFF9F, 1⟩, ⟨0x10100, 0x10102, 1⟩, ⟨0x10107, 0x10133, 1⟩, ⟨0x10137, 0x1013F, 1⟩,
   ⟨0x102E0, 0x102FB, 1⟩, ⟨0x1133B, 0x1133B, 1⟩, ⟨0x1BCA0, 0x1BCA3, 1⟩, ⟨0x1D360, 0x1D371, 1⟩,
   ⟨0x1F250, 0x1F251, 1⟩]

/-- What the use with several scripts adds to a script, under the script's names. -/
def added : List (String × Table) :=
  [("adlm", adlam), ("adlam", adlam), ("arab", arabic), ("arabic", arabic), ("armn", armenian),
   ("armenian", armenian), ("avst", avestan), ("avestan", avestan), ("beng", bengali),
   ("bengali", bengali), ("bopo", bopomofo), ("bopomofo", bopomofo), ("bugi", buginese),
   ("buginese", buginese), ("buhd", buhid), ("buhid", buhid), ("cari", carian),
   ("carian", carian), ("aghb", caucasianAlbanian), ("caucasianalbanian", caucasianAlbanian),
   ("cakm", chakma), ("chakma", chakma), ("cher", cherokee), ("cherokee", cherokee),
   ("copt", coptic), ("coptic", coptic), ("qaac", coptic), ("cprt", cypriot),
   ("cypriot", cypriot), ("cpmn", cyproMinoan), ("cyprominoan", cyproMinoan), ("cyrl", cyrillic),
   ("cyrillic", cyrillic), ("deva", devanagari), ("devanagari", devanagari), ("dogr", dogra),
   ("dogra", dogra), ("dupl", duployan), ("duployan", duployan), ("elba", elbasan),
   ("elbasan", elbasan), ("ethi", ethiopic), ("ethiopic", ethiopic), ("gara", garay),
   ("garay", garay), ("geor", georgian), ("georgian", georgian), ("glag", glagolitic),
   ("glagolitic", glagolitic), ("goth", gothic), ("gothic", gothic), ("gran", grantha),
   ("grantha", grantha), ("grek", greek), ("greek", greek), ("gujr", gujarati),
   ("gujarati", gujarati), ("gong", gunjalaGondi), ("gunjalagondi", gunjalaGondi),
   ("guru", gurmukhi), ("gurmukhi", gurmukhi), ("gukh", gurungKhema),
   ("gurungkhema", gurungKhema), ("hani", han), ("han", han), ("hang", hangul),
   ("hangul", hangul), ("rohg", hanifiRohingya), ("hanifirohingya", hanifiRohingya),
   ("hano", hanunoo), ("hanunoo", hanunoo), ("hebr", hebrew), ("hebrew", hebrew),
   ("hira", hiragana), ("hiragana", hiragana), ("java", javanese), ("javanese", javanese),
   ("kthi", kaithi), ("kaithi", kaithi), ("knda", kannada), ("kannada", kannada),
   ("kana", katakana), ("katakana", katakana), ("kali", kayahLi), ("kayahli", kayahLi),
   ("khoj", khojki), ("khojki", khojki), ("sind", khudawadi), ("khudawadi", khudawadi),
   ("latn", latin), ("latin", latin), ("limb", limbu), ("limbu", limbu), ("lina", linearA),
   ("lineara", linearA), ("linb", linearB), ("linearb", linearB), ("lisu", lisu),
   ("lyci", lycian), ("lycian", lycian), ("lydi", lydian), ("lydian", lydian), ("mahj", mahajani),
   ("mahajani", mahajani), ("mlym", malayalam), ("malayalam", malayalam), ("mand", mandaic),
   ("mandaic", mandaic), ("mani", manichaean), ("manichaean", manichaean), ("gonm", masaramGondi),
   ("masaramgondi", masaramGondi), ("mero", meroiticHieroglyphs),
   ("meroitichieroglyphs", meroiticHieroglyphs), ("modi", modi), ("mong", mongolian),
   ("mongolian", mongolian), ("mult", multani), ("multani", multani), ("mymr", myanmar),
   ("myanmar", myanmar), ("nand", nandinagari), ("nandinagari", nandinagari), ("newa", newa),
   ("nkoo", nko), ("nko", nko), ("onao", olOnal), ("olonal", olOnal), ("hung", oldHungarian),
   ("oldhungarian", oldHungarian), ("perm", oldPermic), ("oldpermic", oldPermic),
   ("orkh", oldTurkic), ("oldturkic", oldTurkic), ("ougr", oldUyghur), ("olduyghur", oldUyghur),
   ("orya", oriya), ("oriya", oriya), ("osge", osage), ("osage", osage), ("phag", phagsPa),
   ("phagspa", phagsPa), ("phlp", psalterPahlavi), ("psalterpahlavi", psalterPahlavi),
   ("runr", runic), ("runic", runic), ("samr", samaritan), ("samaritan", samaritan),
   ("shrd", sharada), ("sharada", sharada), ("shaw", shavian), ("shavian", shavian),
   ("sinh", sinhala), ("sinhala", sinhala), ("sogd", sogdian), ("sogdian", sogdian),
   ("sunu", sunuwar), ("sunuwar", sunuwar), ("sylo", sylotiNagri), ("sylotinagri", sylotiNagri),
   ("syrc", syriac), ("syriac", syriac), ("tglg", tagalog), ("tagalog", tagalog),
   ("tagb", tagbanwa), ("tagbanwa", tagbanwa), ("tale", taiLe), ("taile", taiLe), ("takr", takri),
   ("takri", takri), ("taml", tamil), ("tamil", tamil), ("tang", tangut), ("tangut", tangut),
   ("telu", telugu), ("telugu", telugu), ("thaa", thaana), ("thaana", thaana), ("thai", thai),
   ("tibt", tibetan), ("tibetan", tibetan), ("tfng", tifinagh), ("tifinagh", tifinagh),
   ("tirh", tirhuta), ("tirhuta", tirhuta), ("todr", todhri), ("todhri", todhri), ("toto", toto),
   ("tutg", tuluTigalari), ("tulutigalari", tuluTigalari), ("yezi", yezidi), ("yezidi", yezidi),
   ("yiii", yi), ("yi", yi)]

end UriRouting.Unicode.ScriptExtensions
