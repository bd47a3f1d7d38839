import LineShell.Bytes
import LineShell.Pieces

/-!
# Fields

A word that has been expanded is a list of stretches. `Stretch.fields` splits it into fields, at
separators inside of stretches that may be split; every white separator there may be repeated, and
stands for one separator together with another that is not white.
-/

namespace LineShell.Script

/-- A byte of an expanded word, or a place where there was a quotation mark. -/
inductive Glyph where
  | byte (b : UInt8) (quoted : Bool)
  | mark
  deriving DecidableEq, Repr

/-- How a stretch is split. -/
inductive Splitting where
  | whole
  | atSeparators
  /-- Only at NULs, every one of which is a separator. -/
  | atNuls
  deriving DecidableEq, Repr

structure Stretch where
  glyphs : List Glyph
  splitting : Splitting := .whole
  deriving DecidableEq, Repr

namespace Glyph

def byte? : Glyph → Option UInt8
  | byte b _ => some b
  | mark => none

/-- The bytes of a text. -/
def ofText (text : Bytes) (quoted : Bool) : List Glyph := text.map (byte · quoted)

def text (glyphs : List Glyph) : Bytes := glyphs.filterMap byte?

/-- The pattern that an expanded word is: what is quoted stands for itself. -/
def pattern (glyphs : List Glyph) : Bytes :=
  glyphs.flatMap fun glyph =>
    match glyph with
    | byte b true => [0x5c, b]
    | byte b false => [b]
    | mark => []

end Glyph

/-- White separators, of which the NUL is one. -/
def isWhite (b : UInt8) : Bool :=
  b = Bytes.space || b = 0x09 || b = Bytes.newline || b = Bytes.nul

/-- What has been split so far. -/
structure Splitter where
  /-- The fields that have ended, the last one first. -/
  ended : List (List Glyph) := []
  /-- The field that has not, in reverse. -/
  current : List Glyph := []
  /-- Whether a white separator has just ended a field. -/
  afterWhite : Bool := false
  /-- How many more fields there can be, if there is a limit; zero means the current one is the
  last. -/
  left : Option Nat := none
  /-- The current field without the separators at its end. -/
  trimmed : Option (List Glyph) := none

namespace Splitter

def keep (splitter : Splitter) (glyph : Glyph) : Splitter :=
  { splitter with current := glyph :: splitter.current }

/-- Ends the current field. -/
def finish (splitter : Splitter) : Splitter :=
  { splitter with ended := splitter.current :: splitter.ended, current := [] }

/-- Takes a byte of the last field. -/
def stepLast (splitter : Splitter) (glyph : Glyph) (separates white : Bool) : Splitter :=
  if white then
    { splitter with trimmed := splitter.trimmed <|> some splitter.current }.keep glyph
  else
    { splitter with
      trimmed := if separates && splitter.afterWhite then splitter.trimmed else none
      afterWhite := false }.keep glyph

/-- Takes a separator; `counts` says whether white ones are different from others. -/
def stepSeparator (splitter : Splitter) (glyph : Glyph) (white counts : Bool) : Splitter :=
  let splitter := if counts then { splitter with afterWhite := white } else splitter
  if splitter.current.isEmpty && splitter.afterWhite then { splitter with afterWhite := false }
  else
    match splitter.left with
    | some 1 =>
      { splitter with left := some 0, trimmed := some splitter.current }.keep glyph
    | left => { splitter with left := left.map (· - 1) }.finish

/-- Takes a byte of a stretch that is split at some separators. -/
def step (separators : Bytes) (counts : Bool) (splitter : Splitter) (glyph : Glyph) :
    Splitter :=
  match glyph with
  | .mark => splitter.keep .mark
  | .byte b _ =>
    let separates : Bool := separators.contains b || b = Bytes.nul
    let white := separates && isWhite b
    if splitter.left = some 0 then splitter.stepLast glyph separates white
    else if splitter.afterWhite && separates then { splitter with afterWhite := white }
    else if separates then splitter.stepSeparator glyph white counts
    else { splitter with afterWhite := false }.keep glyph

/-- Takes a stretch; the flag says whether the one before was split at NULs. -/
def take (separators : Bytes) : Splitter × Bool → Stretch → Splitter × Bool
  | (splitter, afterNuls), stretch =>
    match stretch.splitting with
    | .whole => (stretch.glyphs.foldl keep splitter, afterNuls)
    | .atSeparators =>
      (stretch.glyphs.foldl (step separators (!afterNuls))
        { splitter with afterWhite := false }, false)
    | .atNuls =>
      (stretch.glyphs.foldl (step [] false) { splitter with afterWhite := false }, true)

end Splitter

/-- The fields of an expanded word, no more of them than the limit. -/
def Stretch.fields (separators : Bytes) (limit : Option Nat) (stretches : List Stretch) :
    List (List Glyph) :=
  let (splitter, endsAtNuls) :=
    stretches.foldl (Splitter.take separators) ({ left := limit }, false)
  let last := (if endsAtNuls then none else splitter.trimmed).getD splitter.current
  let ended := if last.isEmpty && !endsAtNuls then splitter.ended else last :: splitter.ended
  ended.reverse.map List.reverse

/-- All the bytes of an expanded word. -/
def Stretch.text (stretches : List Stretch) : Bytes :=
  stretches.flatMap fun stretch => Glyph.text stretch.glyphs

/-- The pattern that an expanded word is. -/
def Stretch.pattern (stretches : List Stretch) : Bytes :=
  stretches.flatMap fun stretch => Glyph.pattern stretch.glyphs

end LineShell.Script
