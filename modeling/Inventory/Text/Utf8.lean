-- Sizes of texts. Every length limit of the inventory counts bytes of UTF-8.

namespace Inventory.Text

/-- How many bytes of UTF-8 the characters take. -/
def utf8Size : List Char → Nat
  | [] => 0
  | c :: cs => c.utf8Size + utf8Size cs

theorem utf8Size_append (a b : List Char) : utf8Size (a ++ b) = utf8Size a + utf8Size b := by
  induction a with
  | nil => simp [utf8Size]
  | cons c a ih => simp [utf8Size, ih, Nat.add_assoc]

end Inventory.Text
