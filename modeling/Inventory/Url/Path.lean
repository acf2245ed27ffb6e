-- Paths of URLs. A path is gone through segment by segment: one dot stays where
-- it is, two dots go up again. A segment that looks like the letter of a drive
-- is never gone up from.
import Inventory.Url.Percent

namespace Inventory.Url

/-! ## Dots -/

/-- The segment with a dot in place of every `%2e`. -/
def withDots : List Char → List Char
  | '%' :: '2' :: e :: rest =>
    if e.toLower = 'e' then '.' :: withDots rest else '%' :: withDots ('2' :: e :: rest)
  | c :: rest => c :: withDots rest
  | [] => []

/-! ## Drives -/

/-- A letter and a colon or a bar. -/
def isDrive (segment : List Char) : Bool :=
  match segment with
  | [letter, mark] => letter.isAlpha && (mark = ':' || mark = '|')
  | _ => false

/-- A drive, or one with a backslash after it. -/
def startsWithDrive (segment : List Char) : Bool :=
  isDrive (segment.take 2) && (segment.drop 2).head?.all (· = '\\')

/-- The first segment of a file's path; the mark of a drive is a colon. -/
def fileRoot (segment : List Char) : List Char :=
  if isDrive segment then segment.take 1 ++ [':'] else segment

/-! ## Segments -/

/-- Goes up from a path whose segments are in reverse. -/
def goUp : List (List Char) → List (List Char)
  | [] => []
  | segment :: above => if startsWithDrive segment then segment :: above else above

/-- Goes down a path; the segments so far are in reverse. A path that ends in dots ends in a
slash. -/
def walk (file : Bool) (above : List (List Char)) : List (List Char) → List (List Char)
  | [] => above.reverse
  | segment :: rest =>
    let close (above : List (List Char)) : List (List Char) :=
      if rest.isEmpty then [] :: above else above
    if withDots segment = ['.'] then walk file (close above) rest
    else if withDots segment = ['.', '.'] then walk file (close (goUp above)) rest
    else
      let written := percentEncode keepInPath segment
      walk file ((if file && above.isEmpty then fileRoot written else written) :: above) rest

/-- The path of a file does not start with empty segments. -/
def fileSegments (segments : List (List Char)) : List (List Char) :=
  let rest := segments.dropWhile List.isEmpty
  if rest.isEmpty then [[]] else rest

/-- The segments of a path as it is written; the slash that it starts with may be left out. -/
def segments (cs : List Char) : List (List Char) :=
  (if cs.head? = some '/' then cs.tail else cs).splitOn '/'

/-- Segments, each with a slash in front. -/
def slashed (segments : List (List Char)) : List Char := segments.flatMap ('/' :: ·)

end Inventory.Url
