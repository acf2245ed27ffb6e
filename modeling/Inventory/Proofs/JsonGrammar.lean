-- JSON texts as the grammar has them. A text is a row of tokens with any blanks between
-- them, any character of a string may be escaped, and a number may have a fraction and
-- an exponent. A value has one row of tokens, and so it has the texts of that row.
import Inventory.Json
import Inventory.Json.Token

namespace Inventory.Json

open Text

/-! ## Values -/

/-- A value of any document. A number is kept as it is written. -/
inductive Value
  | null
  | bool (b : Bool)
  | number (n : Numeral)
  | text (s : String)
  | list (items : List Value)
  | object (members : List (String × Value))

/-- A natural in decimal. -/
def Value.natural (n : Nat) : Value := .number ⟨false, decimal n, none, none⟩

/-- Induction on a value and on the values in it. -/
@[elab_as_elim]
theorem Value.induction {P : Value → Prop} (null : P null) (bool : ∀ b, P (bool b))
    (number : ∀ n, P (number n)) (text : ∀ s, P (text s))
    (list : ∀ items, (∀ item ∈ items, P item) → P (list items))
    (object : ∀ members, (∀ m ∈ members, P m.2) → P (object members)) (v : Value) : P v := by
  refine @Value.rec P (fun items => ∀ item ∈ items, P item) (fun ms => ∀ m ∈ ms, P m.2)
    (fun m => P m.2) null bool number text list object ?_ ?_ ?_ ?_ (fun _ _ h => h) v
  · exact fun _ h => absurd h List.not_mem_nil
  · exact fun _ _ hitem hrest => List.forall_mem_cons.2 ⟨hitem, hrest⟩
  · exact fun _ h => absurd h List.not_mem_nil
  · exact fun _ _ hm hrest => List.forall_mem_cons.2 ⟨hm, hrest⟩

mutual

/-- The tokens of a value. -/
def Value.tokens : Value → List Token
  | .null => [.null]
  | .bool b => [.bool b]
  | .number n => [.number n]
  | .text s => [.text (.ok s)]
  | .list [] => [.openList, .closeList]
  | .list (item :: rest) => .openList :: item.tokens ++ itemTokens rest ++ [.closeList]
  | .object [] => [.openObject, .closeObject]
  | .object ((name, value) :: rest) =>
    .openObject :: .text (.ok name) :: .colon :: value.tokens ++ memberTokens rest
      ++ [.closeObject]

/-- The tokens of the items after the first. -/
def itemTokens : List Value → List Token
  | [] => []
  | item :: rest => .comma :: item.tokens ++ itemTokens rest

/-- The tokens of the members after the first. -/
def memberTokens : List (String × Value) → List Token
  | [] => []
  | (name, value) :: rest =>
    .comma :: .text (.ok name) :: .colon :: value.tokens ++ memberTokens rest

end

/-! ## Numbers -/

/-- One digit or more. -/
structure IsDigits (digits : List Char) : Prop where
  nonempty : digits ≠ []
  isDigit : ∀ c ∈ digits, c.isDigit = true

inductive FractionText : List Char → Option (List Char) → Prop
  | absent : FractionText [] none
  | given {digits : List Char} (h : IsDigits digits) : FractionText ('.' :: digits) (some digits)

/-- The sign of an exponent. -/
inductive SignText : List Char → Bool → Prop
  | absent : SignText [] false
  | plus : SignText ['+'] false
  | minus : SignText ['-'] true

inductive ExponentText : List Char → Option (Bool × List Char) → Prop
  | absent : ExponentText [] none
  | given {mark : Char} {sign digits : List Char} {negative : Bool}
      (hmark : mark = 'e' ∨ mark = 'E') (hsign : SignText sign negative) (h : IsDigits digits) :
      ExponentText (mark :: (sign ++ digits)) (some (negative, digits))

/-- The parts of a number in a row. Only zero itself starts with a zero. -/
structure NumeralText (cs : List Char) (n : Numeral) : Prop where
  digits : IsDigits n.whole
  zero : n.whole.head? = some '0' → n.whole = ['0']
  parts : ∃ fraction exponent, FractionText fraction n.fraction ∧
    ExponentText exponent n.exponent ∧
    cs = (if n.negative then ['-'] else []) ++ (n.whole ++ (fraction ++ exponent))

/-- No number goes on here. -/
def EndsNumber (rest : List Char) : Prop :=
  ∀ c, rest.head? = some c → c.isDigit = false ∧ c ≠ '.' ∧ c ≠ 'e' ∧ c ≠ 'E'

/-! ## Texts between quotes -/

/-- Four hex digits that stand for a unit of UTF-16. -/
structure IsUnit (digits : List Char) (n : Nat) : Prop where
  length : digits.length = 4
  isHex : ∀ d ∈ digits, isHex d = true
  value : hexValue digits = n

/-- What may be written for the characters of a text: a character as it is, its letter after a
backslash, its unit, or the two units of its surrogate pair. -/
inductive Escaping : List Char → List Char → Prop
  | nil : Escaping [] []
  | plain {c : Char} {cs s : List Char} (hquote : c ≠ '"') (hbackslash : c ≠ '\\')
      (hcontrol : 32 ≤ c.toNat) (h : Escaping cs s) : Escaping (c :: cs) (c :: s)
  | short {d c : Char} {cs s : List Char} (hd : unescaped? d = some c) (h : Escaping cs s) :
      Escaping ('\\' :: d :: cs) (c :: s)
  | unit {digits : List Char} {c : Char} {cs s : List Char} (hunit : IsUnit digits c.toNat)
      (h : Escaping cs s) : Escaping (['\\', 'u'] ++ digits ++ cs) (c :: s)
  | pair {high low : Nat} {digits digits' : List Char} {c : Char} {cs s : List Char}
      (hhigh : IsUnit digits high) (hhigh' : 0xD800 ≤ high ∧ high ≤ 0xDBFF)
      (hlow : IsUnit digits' low) (hlow' : 0xDC00 ≤ low ∧ low ≤ 0xDFFF)
      (hc : c.toNat = 0x10000 + (high - 0xD800) * 0x400 + (low - 0xDC00)) (h : Escaping cs s) :
      Escaping (['\\', 'u'] ++ digits ++ (['\\', 'u'] ++ digits' ++ cs)) (c :: s)

/-! ## Rows of tokens -/

/-- The texts of the tokens that are no numbers. -/
inductive TokenText : List Char → Token → Prop
  | openList : TokenText ['['] .openList
  | closeList : TokenText [']'] .closeList
  | openObject : TokenText ['\x7b'] .openObject
  | closeObject : TokenText ['\x7d'] .closeObject
  | comma : TokenText [','] .comma
  | colon : TokenText [':'] .colon
  | null : TokenText "null".toList .null
  | bool (b : Bool) : TokenText (boolChars b) (.bool b)
  | text {cs : List Char} {s : String} (h : Escaping cs s.toList) :
      TokenText ('"' :: cs ++ ['"']) (.text (.ok s))

/-- The characters are the texts of the tokens, in their order, and blanks. -/
inductive Lexes : List Char → List Token → Prop
  | nil : Lexes [] []
  | blank {c : Char} {cs : List Char} {ts : List Token}
      (hc : c = ' ' ∨ c = '\n' ∨ c = '\t' ∨ c = '\r') (h : Lexes cs ts) : Lexes (c :: cs) ts
  | token {cs rest : List Char} {t : Token} {ts : List Token} (ht : TokenText cs t)
      (h : Lexes rest ts) : Lexes (cs ++ rest) (t :: ts)
  | number {cs rest : List Char} {n : Numeral} {ts : List Token} (hn : NumeralText cs n)
      (hends : EndsNumber rest) (h : Lexes rest ts) : Lexes (cs ++ rest) (.number n :: ts)

/-- The text is one of the value. -/
def Writes (text : String) (v : Value) : Prop := Lexes text.toList v.tokens

end Inventory.Json
