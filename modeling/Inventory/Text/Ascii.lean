-- Letters and digits of ASCII. Every case rule of the inventory folds ASCII
-- letters only and leaves all other characters as they are.

namespace Inventory.Text

def lower (s : String) : String := String.ofList (s.toList.map Char.toLower)

def upper (s : String) : String := String.ofList (s.toList.map Char.toUpper)

theorem lower_toList (s : String) : (lower s).toList = s.toList.map Char.toLower := by
  simp [lower]

theorem upper_toList (s : String) : (upper s).toList = s.toList.map Char.toUpper := by
  simp [upper]

theorem toLower_toLower (c : Char) : c.toLower.toLower = c.toLower := by
  unfold Char.toLower
  split
  · rename_i h
    have h1 := h.1
    have h2 := h.2
    rw [dif_neg]
    rintro ⟨_, hz⟩
    simp only [ge_iff_le, UInt32.le_iff_toNat_le, UInt32.toNat_add] at h1 h2 hz
    have e1 : 'A'.val.toNat = 65 := rfl
    have e2 : 'Z'.val.toNat = 90 := rfl
    have e3 : ('a'.val - 'A'.val).toNat = 32 := rfl
    omega
  · rfl

/-- Some ASCII letter is a capital and none is small. -/
def isUpperCased (s : String) : Bool :=
  s.toList.any Char.isUpper && !s.toList.any Char.isLower

/-- The ASCII letters and digits of a field, in order; nothing if there are none. -/
def alphanumeric (field : String) : Option String :=
  (some (String.ofList (field.toList.filter Char.isAlphanum))).filter (· ≠ "")

end Inventory.Text
