import MutationTesting.Shell.Pattern
import MutationTesting.Disk.Basic

/-! From an expanded word to the arguments of a command. -/
namespace MutationTesting.Shell

inductive Piece where
  /-- A character; one that `splits` comes from an expansion outside quotes. -/
  | letter (glyph : Glyph) (splits : Bool)
  /-- Quotes stood here, so there is an argument even if it is empty. -/
  | mark
  /-- One argument ends here and another begins. -/
  | boundary

namespace Piece

def ofText (isQuoted splits : Bool) (text : String) : List Piece :=
  text.toList.map fun c => letter ⟨c, isQuoted⟩ splits

def glyph? : Piece → Option Glyph
  | letter g _ => some g
  | _ => none

end Piece

def pieceText (ps : List Piece) : String :=
  String.ofList ((ps.filterMap Piece.glyph?).map Glyph.char)

/-- The arguments of an expanded word. Characters of `separators` that split end one; blanks beside
them belong to the separation, and other separators may have nothing between them. -/
def fieldsFrom (separators : List Char) (current : Option (List Glyph)) :
    List Piece → List (List Glyph)
  | [] => current.toList.map List.reverse
  | .mark :: ps => fieldsFrom separators (some (current.getD [])) ps
  | .boundary :: ps => current.toList.map List.reverse ++ fieldsFrom separators none ps
  | .letter g splits :: ps =>
    if splits && separators.contains g.char then
      let closed := if g.char.isWhitespace then current.toList else [current.getD []]
      closed.map List.reverse ++ fieldsFrom separators none ps
    else fieldsFrom separators (some (g :: current.getD [])) ps

def isPattern (gs : List Glyph) : Bool :=
  gs.any fun g => !g.isQuoted && (g.char == '*' || g.char == '?' || g.char == '[')

def patternParts (seen : List Glyph) : List Glyph → List (List Glyph)
  | [] => [seen.reverse]
  | g :: gs => if g.char = '/' then seen.reverse :: patternParts [] gs else patternParts (g :: seen) gs

def matchingNames (d : Disk) (p : Place) (part : List Glyph) : List String :=
  let pattern := Pattern.ofGlyphs part.length part
  let showsHidden := (part.head?.map Glyph.char) == some '.'
  ((d.below p).filterMap fun e => if e.1.length = 1 then e.1.head? else none).filter fun n =>
    (showsHidden || !n.startsWith ".") && pattern.isMatch n.toList

/-- The paths below a place that match the parts of a pattern; `text` leads to the place. -/
def matchingPaths (d : Disk) (p : Place) (text : String) : List (List Glyph) → List String
  | [] => [text]
  | part :: rest =>
    let name := String.ofList (part.map Glyph.char)
    let ending := if rest.isEmpty then "" else "/"
    if name.isEmpty || name = "." then matchingPaths d p (text ++ name ++ ending) rest
    else
      let names := if isPattern part then matchingNames d p part else [name]
      (names.filter fun n => (d.entry? (p ++ [n])).isSome).flatMap fun n =>
        matchingPaths d (p ++ [n]) (text ++ n ++ ending) rest

/-- The arguments that a field stands for: the paths it matches, in order, or else itself. -/
def arguments (d : Disk) (gs : List Glyph) : List String :=
  let text := String.ofList (gs.map Glyph.char)
  if isPattern gs then
    let start := if (gs.head?.map Glyph.char) == some '/' then [] else d.current
    match matchingPaths d start "" (patternParts [] gs) with
    | [] => [text]
    | paths => paths.mergeSort fun a b => !decide (b < a)
  else [text]

end MutationTesting.Shell
