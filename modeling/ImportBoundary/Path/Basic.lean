import ImportBoundary.Text.Lines

/-!
# Paths as text

Paths are compared as text, so every path that is compared is first brought to one spelling:
forward slashes, none repeated, no `.` and no `..`. A path is absolute when it starts at the root
or at a drive (one ASCII letter, a colon, a slash). Nothing here looks at a file system.

The functions on `List Char` do the work; those on `String` are the same ones on texts. Simplifying
a path cuts it at the first U+0000 (`untilNul`), which no usable path holds.
-/

namespace ImportBoundary

namespace PathChars

open Text

/-- A backslash counts as a separator. -/
def unifySeparator (c : Char) : Char :=
  if c = '\\' then '/' else c

/-- One separator in the place of each run of them. -/
def collapse : List Char → List Char
  | '/' :: '/' :: cs => collapse ('/' :: cs)
  | c :: cs => c :: collapse cs
  | [] => []

/-- Forward slashes only, none repeated. -/
def unifySlashes (p : List Char) : List Char :=
  collapse (p.map unifySeparator)

/-- The path starts at a drive: a letter, a colon and a slash. -/
def hasDrive : List Char → Bool
  | letter :: ':' :: '/' :: _ => letter.isAlpha
  | _ => false

/-- The path starts with a slash. -/
def isRooted : List Char → Bool
  | '/' :: _ => true
  | _ => false

/-- The path starts at the root or at a drive, whichever slashes it is written with. -/
def isAbsolute (p : List Char) : Bool :=
  isRooted (unifySlashes p) || hasDrive (unifySlashes p)

/-- `p` taken from the directory `base`; a rooted `p` stands for itself. -/
def join (base p : List Char) : List Char :=
  if isRooted p then p
  else if base.isEmpty || base.getLast? == some '/' then base ++ p
  else base ++ '/' :: p

/-- One more piece of a path, onto the segments before it, the last of them first. `..` takes back
a segment; where there is none it is dropped at the root and kept in a relative path. -/
def pushPiece (rooted : Bool) (segments : List (List Char)) (piece : List Char) :
    List (List Char) :=
  if piece = [] ∨ piece = ['.'] then segments
  else if piece = ['.', '.'] then
    match segments with
    | [] => if rooted then [] else [piece]
    | last :: before => if last = ['.', '.'] then piece :: segments else before
  else piece :: segments

/-- The segments that the pieces of a path come to. -/
def foldPieces (rooted : Bool) (pieces : List (List Char)) : List (List Char) :=
  (pieces.foldl (pushPiece rooted) []).reverse

/-- The text up to the first U+0000. -/
def untilNul (p : List Char) : List Char :=
  p.takeWhile (· ≠ '\x00')

/-- How many slashes a simplified path starts with: two slashes stay, more become one. -/
def leadingSlashes : List Char → Nat
  | '/' :: '/' :: '/' :: _ => 1
  | '/' :: '/' :: _ => 2
  | '/' :: _ => 1
  | _ => 0

/-- The path without `.`, `..` and repeated slashes; `.` when nothing is left of it. -/
def simplify (p : List Char) : List Char :=
  let lead := leadingSlashes p
  let segments := foldPieces (0 < lead) (splitAtChar '/' p)
  let text := List.replicate lead '/' ++ joinWith ['/'] segments
  let cut := if p.head? = some '\x00' then [] else untilNul text
  if cut.isEmpty then ['.'] else cut

/-- The one spelling of `p`, taken from the directory `base` when it is relative. On a drive, `..`
stops at the drive as it stops at the root elsewhere. -/
def normalize (base p : List Char) : List Char :=
  let target := unifySlashes p
  let target := if isAbsolute target then target else join (unifySlashes base) target
  if hasDrive target then target.take 2 ++ simplify (target.drop 2) else simplify target

/-- The path without slashes at its end. -/
def dropTrailingSlashes (p : List Char) : List Char :=
  (p.reverse.dropWhile (· = '/')).reverse

/-- `target` is `root` or lies below it. Separators count: `/src/com` is not above `/src/common`. -/
def covers (root target : List Char) : Bool :=
  target == root || (dropTrailingSlashes root ++ ['/']).isPrefixOf target

/-- What follows the last slash. -/
def afterLastSlash (p : List Char) : List Char :=
  (p.reverse.takeWhile (· ≠ '/')).reverse

/-- What goes up to the last slash, that slash included. -/
def throughLastSlash (p : List Char) : List Char :=
  (p.reverse.dropWhile (· ≠ '/')).reverse

/-- The last segment; empty for a path that ends in a slash. -/
def lastSegment (p : List Char) : List Char :=
  afterLastSlash (unifySlashes p)

/-- What holds the last segment, without the slash between them unless it is the root's. -/
def parent (p : List Char) : List Char :=
  let head := throughLastSlash (unifySlashes p)
  if head.all (· = '/') then head else dropTrailingSlashes head

/-- How `path` is shown to someone at `base`: unchanged outside it, `.` for `base` itself. -/
def shownFrom (base path : List Char) : List Char :=
  if !covers base path then path
  else if path = base then ['.']
  else path.drop ((dropTrailingSlashes base).length + 1)

end PathChars

namespace Path

/-- Forward slashes only, none repeated. -/
def unifySlashes (p : String) : String :=
  String.ofList (PathChars.unifySlashes p.toList)

/-- The path starts at the root or at a drive. -/
def isAbsolute (p : String) : Bool :=
  PathChars.isAbsolute p.toList

/-- The one spelling of `p`, taken from the directory `base` when it is relative. -/
def normalize (base p : String) : String :=
  String.ofList (PathChars.normalize base.toList p.toList)

/-- `target` is `root` or lies below it. -/
def covers (root target : String) : Bool :=
  PathChars.covers root.toList target.toList

/-- The last segment. -/
def lastSegment (p : String) : String :=
  String.ofList (PathChars.lastSegment p.toList)

/-- The directory that holds the last segment. -/
def parent (p : String) : String :=
  String.ofList (PathChars.parent p.toList)

/-- How `path` is shown to someone at `base`. -/
def shownFrom (base path : String) : String :=
  String.ofList (PathChars.shownFrom base.toList path.toList)

/-- The path without slashes at its end. -/
def dropTrailingSlashes (p : String) : String :=
  String.ofList (PathChars.dropTrailingSlashes p.toList)

/-- `target` is or lies below one of the roots. -/
def anyCovers (roots : List String) (target : String) : Bool :=
  roots.any (covers · target)

end Path

end ImportBoundary
