/-! Names of files and directories, as texts with slashes.

A location is compared and taken apart by its parts; repeated slashes, a slash at the end and a dot
between others are no parts. The text itself is kept as it was written. -/
namespace MutationTesting

abbrev Location := String

namespace Location

inductive Part where
  | root
  | here
  | up
  | name (text : String)
deriving DecidableEq

/-- The pieces between slashes, at least one. -/
def pieces (l : Location) : List String :=
  (go [] l.toList).map fun cs => String.ofList cs
where
  go : List Char → List Char → List (List Char)
    | seen, [] => [seen.reverse]
    | seen, c :: cs => if c = '/' then seen.reverse :: go [] cs else go (c :: seen) cs

def isAbsolute (l : Location) : Bool := l.toList.head? == some '/'

/-- A piece that counts; a dot counts only in front. -/
def partOf? (piece : String) : Option Part :=
  if piece = "" ∨ piece = "." then none
  else if piece = ".." then some .up
  else some (.name piece)

/-- The parts: the root if the text starts with a slash, or a leading dot, then what counts. -/
def parts (l : Location) : List Part :=
  let ps := l.pieces
  let lead := if l.isAbsolute then [.root] else if ps.head? = some "." then [.here] else []
  lead ++ ps.filterMap partOf?

def Part.rank : Part → Nat
  | root => 0
  | here => 1
  | up => 2
  | name _ => 3

def Part.text : Part → String
  | root => "/"
  | here => "."
  | up => ".."
  | name t => t

def Part.less (a b : Part) : Bool :=
  a.rank < b.rank || (a.rank == b.rank && decide (a.text < b.text))

/-- Lexicographic order by parts. -/
def lessParts : List Part → List Part → Bool
  | [], [] => false
  | [], _ :: _ => true
  | _ :: _, [] => false
  | a :: as, b :: bs => a.less b || (!b.less a && lessParts as bs)

def before (a b : Location) : Bool := lessParts a.parts b.parts

def sameAs (a b : Location) : Bool := decide (a.parts = b.parts)

def fileName? (l : Location) : Option String :=
  match l.parts.getLast? with
  | some (.name t) => some t
  | _ => none

/-- A location below a directory; an absolute one stands by itself. -/
def join (directory l : Location) : Location :=
  if l.isAbsolute then l
  else if directory.isEmpty then l
  else if directory.toList.getLast? == some '/' then directory ++ l
  else directory ++ "/" ++ l

/-- Drops slashes and lone dots from the end, last character first. -/
def trimBack : List Char → List Char
  | '/' :: cs => if cs.isEmpty then ['/'] else trimBack cs
  | ['.', '/'] => ['/']
  | '.' :: '/' :: cs => trimBack ('/' :: cs)
  | cs => cs
termination_by cs => cs.length

/-- The location without its last part; the root and the empty text have no parent. -/
def parent? (l : Location) : Option Location :=
  match l.parts.getLast? with
  | none | some .root => none
  | some _ =>
    let back := trimBack l.toList.reverse
    some (String.ofList (trimBack (back.dropWhile (· ≠ '/'))).reverse)

end Location
end MutationTesting
