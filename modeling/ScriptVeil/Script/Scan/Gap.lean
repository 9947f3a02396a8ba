import ScriptVeil.Script.Cursor
import ScriptVeil.Text.CharSet

namespace ScriptVeil.Script

def isLineEnd (c : Char) : Bool :=
  c = '\n' || c = '\r' || c = '\u2028' || c = '\u2029'

/-- Blank characters inside a line: the null character, tabs, the next-line control, the byte order
mark and the Unicode class Zs. -/
def lineBlanks : CharSet :=
  [(0x0, 0x0), (0x9, 0x9), (0xB, 0xC), (0x20, 0x20), (0x85, 0x85), (0xA0, 0xA0), (0x1680, 0x1680),
   (0x2000, 0x200A), (0x202F, 0x202F), (0x205F, 0x205F), (0x3000, 0x3000), (0xFEFF, 0xFEFF)]

def conflictMarkers : List Text :=
  ["<<<<<<< ", "=======", ">>>>>>> "].map String.toList

def startsConflict (t : Text) : Bool :=
  conflictMarkers.any (·.isPrefixOf t)

inductive GapMode where
  | blank
  | lineComment
  | blockComment
deriving DecidableEq, Repr

/-- What has been seen of a gap: whether a line ends in it, where its first HTML-like comment or
conflict marker starts, and its mistakes. -/
structure GapSeen where
  newline : Bool
  markupStart : Option Nat
  notes : List Diagnostic
deriving DecidableEq, Repr

structure Gap extends GapSeen where
  after : Cursor
deriving DecidableEq, Repr

namespace GapSeen

def lineEnd (g : GapSeen) : GapSeen :=
  { g with newline := true }

def markup (g : GapSeen) (offset : Nat) : GapSeen :=
  { g with markupStart := some (g.markupStart.getD offset) }

def mistake (g : GapSeen) (cause : Cause) (offset : Nat) : GapSeen :=
  { g with notes := g.notes ++ [⟨cause, offset⟩] }

end GapSeen

/-- Reads a gap from the middle of it. Besides line and block comments, `<!--` opens a comment to
the end of the line, and so does `-->` at the start of a line. A line that starts with a conflict
marker is skipped as well, as a mistake. -/
def gapFrom : GapMode → GapSeen → Nat → Text → Gap
  | .blockComment, seen, offset, [] => ⟨seen.mistake .unterminatedComment offset, ⟨[], offset⟩⟩
  | _, seen, offset, [] => ⟨seen, ⟨[], offset⟩⟩
  | .blank, seen, offset, '/' :: '/' :: t => gapFrom .lineComment seen (offset + 2) t
  | .blank, seen, offset, '/' :: '*' :: t => gapFrom .blockComment seen (offset + 2) t
  | .blank, seen, offset, '<' :: '!' :: '-' :: '-' :: t =>
    gapFrom .lineComment (seen.markup offset) (offset + 4) t
  | .blank, seen, offset, c :: t =>
    if isLineEnd c then gapFrom .blank seen.lineEnd (offset + c.utf8Size) t
    else if lineBlanks.has c then gapFrom .blank seen (offset + c.utf8Size) t
    else if seen.newline && "-->".toList.isPrefixOf (c :: t) then
      gapFrom .lineComment (seen.markup offset) (offset + c.utf8Size) t
    else if seen.newline && startsConflict (c :: t) then
      gapFrom .lineComment ((seen.markup offset).mistake .conflictMarker offset)
        (offset + c.utf8Size) t
    else ⟨seen, ⟨c :: t, offset⟩⟩
  | .lineComment, seen, offset, c :: t =>
    if isLineEnd c then gapFrom .blank seen.lineEnd (offset + c.utf8Size) t
    else gapFrom .lineComment seen (offset + c.utf8Size) t
  | .blockComment, seen, offset, '*' :: '/' :: t => gapFrom .blank seen (offset + 2) t
  | .blockComment, seen, offset, c :: t =>
    gapFrom .blockComment (if isLineEnd c then seen.lineEnd else seen) (offset + c.utf8Size) t

/-- The gap at a cursor. The start of the script counts as the start of a line. -/
def gapAt (atStart : Bool) (c : Cursor) : Gap :=
  gapFrom .blank ⟨atStart, none, []⟩ c.offset c.rest

end ScriptVeil.Script
