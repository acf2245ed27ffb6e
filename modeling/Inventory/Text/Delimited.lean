-- Texts cut at a mark: once at the first of some character, or into all
-- fields around a delimiter, which may be any text.

namespace Inventory.Text

/-- What stands before and after the first `mark`. -/
def cutFirst? (mark : Char) : List Char → Option (List Char × List Char)
  | [] => none
  | c :: cs => if c = mark then some ([], cs) else (cutFirst? mark cs).map fun p => (c :: p.1, p.2)

theorem cutFirst?_eq_none_iff {mark : Char} {cs : List Char} :
    cutFirst? mark cs = none ↔ mark ∉ cs := by
  induction cs with
  | nil => simp [cutFirst?]
  | cons c cs ih =>
    by_cases h : c = mark
    · simp [cutFirst?, h]
    · simp [cutFirst?, h, ih, Ne.symm h]

/-! ## Fields around a delimiter -/

/-- The fields of a text around a delimiter that is not empty. Occurrences are taken from left to
right and do not overlap; `skip` counts the characters of the one just found. -/
def cutAt (delim : List Char) : Nat → List Char → List (List Char)
  | _, [] => [[]]
  | skip + 1, _ :: cs => cutAt delim skip cs
  | 0, c :: cs =>
    if delim.isPrefixOf (c :: cs) then [] :: cutAt delim (delim.length - 1) cs
    else (cutAt delim 0 cs).modifyHead (c :: ·)

/-- The fields of a text. An empty delimiter stands before and after every character. -/
def fields (delim cs : List Char) : List (List Char) :=
  if delim = [] then [] :: cs.map (fun c => [c]) ++ [[]] else cutAt delim 0 cs

/-- Fields with the delimiter between them. -/
def joinFields (delim : List Char) (parts : List (List Char)) : List Char :=
  delim.intercalate parts

end Inventory.Text
