import ScriptVeil.Text.Basic

namespace ScriptVeil

abbrev Units := List UInt16

/-- The units of a code point: one up to U+FFFF, a surrogate pair beyond. -/
def unitsOfCode (code : Nat) : Units :=
  if code < 0x10000 then [code.toUInt16]
  else
    let excess := code - 0x10000
    [(0xD800 + excess / 0x400).toUInt16, (0xDC00 + excess % 0x400).toUInt16]

def Text.units (t : Text) : Units :=
  t.flatMap fun c => unitsOfCode c.toNat

end ScriptVeil
