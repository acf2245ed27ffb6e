-- Blank characters and trimming. A blank is a character with the Unicode
-- property White_Space, so U+00A0 and U+3000 are blanks and U+200B is not.

namespace Inventory.Text

/-- The code points with the property White_Space, as closed ranges. -/
def blankRanges : List (Nat × Nat) :=
  [(0x09, 0x0D), (0x20, 0x20), (0x85, 0x85), (0xA0, 0xA0), (0x1680, 0x1680), (0x2000, 0x200A),
    (0x2028, 0x2029), (0x202F, 0x202F), (0x205F, 0x205F), (0x3000, 0x3000)]

/-- A range table holds a character when one of its ranges does. -/
def inRanges (table : List (Nat × Nat)) (c : Char) : Bool :=
  table.any fun range => range.1 ≤ c.toNat && c.toNat ≤ range.2

def isBlank (c : Char) : Bool := inRanges blankRanges c

/-! ## Trimming -/

/-- Leaves out the longest tail whose characters all satisfy `p`. -/
def dropEndWhile (p : Char → Bool) (cs : List Char) : List Char :=
  (cs.reverse.dropWhile p).reverse

/-- The characters between the first and the last that is not blank. -/
def trimChars (cs : List Char) : List Char := dropEndWhile isBlank (cs.dropWhile isBlank)

def trim (s : String) : String := String.ofList (trimChars s.toList)

theorem trim_toList (s : String) : (trim s).toList = trimChars s.toList := by simp [trim]

theorem dropEndWhile_append_of_pos {p : Char → Bool} {c : Char} (h : p c = true)
    (cs : List Char) : dropEndWhile p (cs ++ [c]) = dropEndWhile p cs := by
  simp [dropEndWhile, h]

/-! ## Optional fields -/

/-- A field of blanks only counts as absent; any other field is trimmed. -/
def nonBlank (field : Option String) : Option String :=
  (field.map trim).filter (· ≠ "")

end Inventory.Text
