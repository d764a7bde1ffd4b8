import Typeflow.Text.Attachment
import Typeflow.Text.Glyph

/-!
The composed normal form of a text. Characters are decomposed, runs of marks are sorted by class,
and pairs are composed again. Bytes that are no character stay where they are and combine with
nothing. A run in which more than thirty attaching characters would follow each other is broken by
a joiner, which nothing reorders or composes across.
-/

namespace Typeflow

namespace Normal

open Glyph

def joiner : Nat := 0x34f

def longestRun : Nat := 30

/-- The bytes that a character beginning with `lead` has, going by `lead` alone. -/
def promisedWidth (lead : UInt8) : Nat :=
  if lead < 0xc2 then 1
  else if lead < 0xe0 then 2
  else if lead < 0xf0 then 3
  else if lead < 0xf8 then 4
  else 1

/-- The glyphs of a text up to a character that the end of the text cuts off; from there on every
byte stands for itself. -/
def wholeGlyphsFrom : Nat → Text → List Glyph
  | _, [] => []
  | skipped + 1, _ :: rest => wholeGlyphsFrom skipped rest
  | 0, lead :: rest =>
    if (lead :: rest).drop (promisedWidth lead - 1) = [] then (lead :: rest).map stray
    else
      match character? lead rest with
      | some (code, taken) => scalar code :: wholeGlyphsFrom taken rest
      | none => stray lead :: wholeGlyphsFrom 0 rest

def wholeGlyphs (text : Text) : List Glyph := wholeGlyphsFrom 0 text

/-- Puts a joiner before a character that would make the run of attaching characters too long.
`run` counts those before the text. -/
def breakRuns (run : Nat) : List Glyph → List Glyph
  | [] => []
  | stray byte :: rest => stray byte :: breakRuns 0 rest
  | scalar code :: rest =>
    let (leading, trailing) := attachments code
    if longestRun < run + leading then
      scalar joiner :: scalar code :: breakRuns leading rest
    else
      scalar code :: breakRuns (if leading == 0 then trailing else run + leading) rest

def decomposeGlyph : Glyph → List Glyph
  | stray byte => [stray byte]
  | scalar code => (decompose code).map scalar

def glyphClass : Glyph → Nat
  | stray _ => 0
  | scalar code => combiningClass code

def insertMark (mark : Glyph) (marks : List Glyph) : List Glyph :=
  marks.takeWhile (glyphClass · ≤ glyphClass mark) ++
    mark :: marks.dropWhile (glyphClass · ≤ glyphClass mark)

/-- Sorts each run of marks by class; `marks` is the sorted run read so far. -/
def sortMarks (marks : List Glyph) : List Glyph → List Glyph
  | [] => marks
  | glyph :: rest =>
    if glyphClass glyph == 0 then marks ++ glyph :: sortMarks [] rest
    else sortMarks (insertMark glyph marks) rest

/-- A starter and the marks after it that have not composed, latest first. -/
structure Open where
  starter : Option Nat
  kept : List Glyph

def Open.glyphs (pending : Open) : List Glyph :=
  (pending.starter.map scalar).toList ++ pending.kept.reverse

/-- A character reaches the starter if nothing stands between, or only marks of lower class. -/
def Open.reaches (pending : Open) (level : Nat) : Bool :=
  match pending.kept with
  | [] => true
  | last :: _ => glyphClass last != 0 && glyphClass last < level

def Open.compose? (pending : Open) (code : Nat) : Option Nat :=
  match pending.starter with
  | some starter =>
    if pending.reaches (combiningClass code) && composesBackward code then
      composePair? starter code
    else none
  | none => none

/-- Composes what follows the open starter. -/
def composeFrom (pending : Open) : List Glyph → List Glyph
  | [] => pending.glyphs
  | stray byte :: rest => pending.glyphs ++ stray byte :: composeFrom ⟨none, []⟩ rest
  | scalar code :: rest =>
    match pending.compose? code with
    | some whole => composeFrom { pending with starter := some whole } rest
    | none =>
      if combiningClass code == 0 then pending.glyphs ++ composeFrom ⟨some code, []⟩ rest
      else composeFrom { pending with kept := scalar code :: pending.kept } rest

def normalizeGlyphs (glyphs : List Glyph) : List Glyph :=
  composeFrom ⟨none, []⟩ (sortMarks [] ((breakRuns 0 glyphs).flatMap decomposeGlyph))

end Normal

def Text.normalize (text : Text) : Text :=
  Text.ofGlyphs (Normal.normalizeGlyphs (Normal.wholeGlyphs text))

end Typeflow
