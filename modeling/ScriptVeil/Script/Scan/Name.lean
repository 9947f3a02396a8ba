import ScriptVeil.Script.NameChar
import ScriptVeil.Script.Scan.Escape

namespace ScriptVeil.Script

structure NameReading where
  name : Text
  escaped : Bool
deriving DecidableEq, Repr

/-- The mistake of an escape at `offset` whose character does not fit into a name there. -/
def nameEscapeNotes (offset : Nat) (isFirst : Bool) (chars : Text) : List Diagnostic :=
  let fits := match chars with
    | [ch] => if isFirst then isNameStart ch else isNamePart ch
    | _ => false
  if fits then [] else [⟨.badNameCharacter, offset⟩]

/-- Reads name characters and escapes behind `seen`, for at most `steps` escapes. -/
def nameFrom : Nat → NameReading → Cursor → Reading NameReading
  | 0, seen, c => .done seen c []
  | steps + 1, seen, c =>
    let plain := c.skipWhile isNamePart
    let seen := { seen with name := seen.name ++ c.textTo plain }
    match plain.rest with
    | '\\' :: 'u' :: _ =>
      (unicodeEscapeAt (plain.advance 2)).andThen fun chars after =>
        (nameFrom steps ⟨seen.name ++ chars, true⟩ after).behind
          (nameEscapeNotes plain.offset (seen.name = []) chars)
    | '\\' :: _ =>
      .failed ⟨.unicodeEscapeExpected, ⟨plain.offset, plain.offset⟩⟩ (plain.advance 1) []
    | _ => .done seen plain []

def nameAt (c : Cursor) : Reading NameReading :=
  nameFrom (c.rest.length + 1) ⟨[], false⟩ c

end ScriptVeil.Script
