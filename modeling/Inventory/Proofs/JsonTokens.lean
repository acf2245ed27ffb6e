-- The tokens of a text. What the grammar makes of a row of tokens is scanned as this
-- row: the scanner takes each token as far as it goes, and passes over blanks.
import Inventory.Proofs.JsonGrammar
import Inventory.Proofs.Numerals

namespace Inventory.Json

open Text

variable {c : Char} {cs rest next : List Char} {t : Token} {ts : List Token}

/-! ## Scanning -/

/-- With fuel enough for the characters they are read as the tokens. What follows a token is read
with the fuel that the token left over, so any such amount has to do. -/
def Scans (cs : List Char) (ts : List Token) : Prop :=
  ∀ fuel, cs.length ≤ fuel → tokensFrom fuel cs = ts

theorem scans_nil : Scans [] [] := by
  intro fuel _
  cases fuel <;> rfl

theorem Scans.tokens {s : String} (h : Scans s.toList ts) : tokens s = ts :=
  h _ (Nat.le_refl _)

theorem tokensFrom_succ (fuel : Nat) (c : Char) (rest : List Char) :
    tokensFrom (fuel + 1) (c :: rest) =
      match scan (c :: rest) with
      | (some t, next) => t :: tokensFrom fuel next
      | (none, next) => tokensFrom fuel next := rfl

theorem Scans.step (hscan : scan (c :: rest) = (some t, next)) (hle : next.length ≤ rest.length)
    (h : Scans next ts) : Scans (c :: rest) (t :: ts) := by
  intro fuel hfuel
  rw [List.length_cons] at hfuel
  match fuel, hfuel with
  | fuel + 1, hfuel =>
    rw [tokensFrom_succ, hscan]
    exact congrArg (t :: ·) (h fuel (by omega))

theorem Scans.blank (hblank : c = ' ' ∨ c = '\n' ∨ c = '\t' ∨ c = '\r') (h : Scans rest ts) :
    Scans (c :: rest) ts := by
  have hscan : scan (c :: rest) = (none, rest) := by
    rcases hblank with rfl | rfl | rfl | rfl <;> rfl
  intro fuel hfuel
  rw [List.length_cons] at hfuel
  match fuel, hfuel with
  | fuel + 1, hfuel =>
    rw [tokensFrom_succ, hscan]
    exact h fuel (by omega)

/-- A word that is read as a token whatever follows it. -/
theorem Scans.word (word : List Char)
    (hword : ∀ after, scan (c :: (word ++ after)) = (some t, after)) (h : Scans rest ts) :
    Scans (c :: word ++ rest) (t :: ts) := by
  have hle : rest.length ≤ (word ++ rest).length := by
    rw [List.length_append]
    exact Nat.le_add_left ..
  exact .step (hword rest) hle h

/-! ## Texts between quotes -/

section Texts

variable {s : Sofar}

theorem Sofar.push_of_half (hs : s.half = none) (c : Char) :
    s.push c = { s with chars := c :: s.chars } := by
  simp [Sofar.push, Sofar.settle, hs]

/-- No half of a surrogate pair waits after a character. -/
theorem Sofar.half_push (s : Sofar) (c : Char) : (s.push c).half = none := by
  cases hs : s.half <;> simp [Sofar.push, Sofar.settle, hs]

/-- A character is no half of a surrogate pair. -/
theorem Sofar.pushUnit_char (hs : s.half = none) (c : Char) : s.pushUnit c.toNat = s.push c := by
  have hvalid : c.toNat < 0xD800 ∨ 0xDFFF < c.toNat ∧ c.toNat < 0x110000 := c.valid
  have hhigh : ¬ (0xD800 ≤ c.toNat ∧ c.toNat ≤ 0xDBFF) := by omega
  have hlow : ¬ (0xDC00 ≤ c.toNat ∧ c.toNat ≤ 0xDFFF) := by omega
  simp only [Sofar.pushUnit, hs]
  rw [if_neg hhigh, if_neg hlow, Char.ofNat_toNat, Sofar.push_of_half hs, hs]

theorem Sofar.pushUnit_pair {high low : Nat} (hs : s.half = none)
    (hhigh : 0xD800 ≤ high ∧ high ≤ 0xDBFF) (hlow : 0xDC00 ≤ low ∧ low ≤ 0xDFFF)
    (hc : c.toNat = 0x10000 + (high - 0xD800) * 0x400 + (low - 0xDC00)) :
    (s.pushUnit high).pushUnit low = s.push c := by
  have hwaits : s.pushUnit high = { s with half := some high } := by
    simp only [Sofar.pushUnit, hs]
    rw [if_pos hhigh]
  rw [hwaits]
  simp only [Sofar.pushUnit]
  rw [if_pos hlow, ← hc, Char.ofNat_toNat, Sofar.push_of_half hs, hs]

theorem Sofar.foldl_push (hs : s.half = none) (text : List Char) :
    text.foldl Sofar.push s = { s with chars := text.reverse ++ s.chars } := by
  induction text generalizing s with
  | nil => rfl
  | cons c text ih =>
    rw [List.foldl_cons, ih (s.half_push c), Sofar.push_of_half hs, List.reverse_cons,
      List.append_assoc, List.singleton_append]

theorem scanText_unit {digits : List Char} {n : Nat} (h : IsUnit digits n) (s : Sofar)
    (rest : List Char) :
    scanText s (['\\', 'u'] ++ digits ++ rest) = scanText (s.pushUnit n) rest := by
  obtain ⟨hlength, hhex, rfl⟩ := h
  match digits, hlength with
  | [a, b, c, d], _ =>
    have hall : [a, b, c, d].all isHex = true := List.all_eq_true.2 hhex
    simp only [List.cons_append, List.nil_append, scanText, hall, if_true]

theorem scanText_short {d x : Char} (h : unescaped? d = some x) (s : Sofar) (rest : List Char) :
    scanText s ('\\' :: d :: rest) = scanText (s.push x) rest := by
  have hunit : d ≠ 'u' := by
    rintro rfl
    cases h
  simp [scanText, hunit, h]

theorem scanText_plain (hquote : c ≠ '"') (hbackslash : c ≠ '\\') (hcontrol : 32 ≤ c.toNat)
    (s : Sofar) (rest : List Char) : scanText s (c :: rest) = scanText (s.push c) rest := by
  have hcontrol : ¬ c.toNat < 32 := Nat.not_lt.2 hcontrol
  simp [scanText, hbackslash, hcontrol]

/-- What is written for the characters of a text is read as these characters. -/
theorem scanText_escaping {text : List Char} (hs : s.half = none) (h : Escaping cs text)
    (rest : List Char) : scanText s (cs ++ rest) = scanText (text.foldl Sofar.push s) rest := by
  induction h generalizing s with
  | nil => rfl
  | plain hquote hbackslash hcontrol _ ih =>
    rw [List.cons_append, scanText_plain hquote hbackslash hcontrol]
    exact ih (s.half_push _)
  | short hd _ ih =>
    rw [List.cons_append, List.cons_append, scanText_short hd]
    exact ih (s.half_push _)
  | unit hunit _ ih =>
    rw [List.append_assoc, scanText_unit hunit, Sofar.pushUnit_char hs]
    exact ih (s.half_push _)
  | pair hhigh hhigh' hlow hlow' hc _ ih =>
    rw [List.append_assoc, scanText_unit hhigh, List.append_assoc, scanText_unit hlow,
      Sofar.pushUnit_pair hs hhigh' hlow' hc]
    exact ih (s.half_push _)

end Texts

theorem scan_of_scanText {cs : List Char} (h : scanText {} rest = .closed (.ok cs) next) :
    scan ('"' :: rest) = (some (.text (.ok (String.ofList cs))), next) := by
  simp [scan, h, Except.map]

theorem scan_text {s : String} (h : Escaping cs s.toList) (rest : List Char) :
    scan ('"' :: (cs ++ '"' :: rest)) = (some (.text (.ok s)), rest) := by
  have hbody : scanText {} (cs ++ '"' :: rest) = .closed (.ok s.toList) rest := by
    rw [scanText_escaping rfl h, Sofar.foldl_push rfl]
    simp [scanText, Sofar.value, Sofar.settle]
  rw [scan_of_scanText hbody, String.ofList_toList]

theorem Scans.text {s : String} (hs : Escaping cs s.toList) (h : Scans rest ts) :
    Scans ('"' :: cs ++ ['"'] ++ rest) (.text (.ok s) :: ts) := by
  have happend : '"' :: cs ++ ['"'] ++ rest = '"' :: (cs ++ '"' :: rest) := by simp
  rw [happend]
  refine .step (scan_text hs rest) ?_ h
  simp only [List.length_append, List.length_cons]
  omega

/-- A token that is no number is taken off the front of a text. -/
theorem Scans.token (ht : TokenText cs t) (h : Scans rest ts) : Scans (cs ++ rest) (t :: ts) := by
  cases ht with
  | text hs => exact h.text hs
  | null => exact h.word ['u', 'l', 'l'] fun _ => rfl
  | bool b =>
    cases b with
    | false => exact h.word ['a', 'l', 's', 'e'] fun _ => rfl
    | true => exact h.word ['r', 'u', 'e'] fun _ => rfl
  | _ => exact h.word [] fun _ => rfl

/-! ## Numbers -/

theorem scan_of_isDigit (h : c.isDigit = true) (rest : List Char) :
    scan (c :: rest) = (scanNumber false (c :: rest)).map some id := by
  have hne {d : Char} (hd : d.isDigit = false) : c ≠ d := by
    rintro rfl
    rw [h] at hd
    cases hd
  simp only [scan, h, hne (d := ' ') rfl, hne (d := '\n') rfl, hne (d := '\t') rfl,
    hne (d := '\r') rfl, hne (d := '[') rfl, hne (d := ']') rfl, hne (d := '\x7b') rfl,
    hne (d := '\x7d') rfl, hne (d := ',') rfl, hne (d := ':') rfl, hne (d := '"') rfl,
    hne (d := '-') rfl, or_false, if_false, if_true]

/-- No digit follows. -/
def EndsDigits (rest : List Char) : Prop := ∀ c, rest.head? = some c → c.isDigit = false

theorem EndsNumber.endsDigits (h : EndsNumber rest) : EndsDigits rest := fun c hc => (h c hc).1

theorem endsDigits_cons (h : c.isDigit = false) : EndsDigits (c :: rest) := by
  rintro d ⟨⟩
  exact h

theorem digitsOf_append {digits : List Char} (hdigits : ∀ d ∈ digits, d.isDigit = true)
    (hends : EndsDigits rest) : digitsOf (digits ++ rest) = (digits, rest) := by
  have htake : rest.takeWhile Char.isDigit = [] ∧ rest.dropWhile Char.isDigit = rest := by
    cases rest with
    | nil => exact ⟨rfl, rfl⟩
    | cons c rest => simp [hends c rfl]
  rw [digitsOf, List.takeWhile_append_of_pos hdigits, List.dropWhile_append_of_pos hdigits,
    htake.1, htake.2, List.append_nil]

theorem scanExponent_text {sign digits : List Char} {negative : Bool} (n : Numeral)
    (hsign : SignText sign negative) (h : IsDigits digits) (hends : EndsDigits rest) :
    scanExponent n (sign ++ digits ++ rest) =
      (.number { n with exponent := some (negative, digits) }, rest) := by
  have hdigits := digitsOf_append h.isDigit hends
  cases hsign with
  | absent =>
    -- The first digit is no sign.
    obtain ⟨d, ds, rfl⟩ := List.exists_cons_of_ne_nil h.nonempty
    have hd := h.isDigit d List.mem_cons_self
    have hplus : d ≠ '+' := by
      rintro rfl
      cases hd
    have hminus : d ≠ '-' := by
      rintro rfl
      cases hd
    rw [List.cons_append] at hdigits
    simp [scanExponent, hplus, hminus, hdigits]
  | plus => simp [scanExponent, hdigits, h.nonempty]
  | minus => simp [scanExponent, hdigits, h.nonempty]

theorem scanTail_text {exponent : Option (Bool × List Char)} (n : Numeral)
    (h : ExponentText cs exponent) (hnone : n.exponent = none) (hends : EndsNumber rest) :
    scanTail n (cs ++ rest) = (.number { n with exponent }, rest) := by
  cases h with
  | absent =>
    rw [← hnone]
    cases rest with
    | nil => rfl
    | cons c rest =>
      obtain ⟨-, -, hsmall, hcapital⟩ := hends c rfl
      simp [scanTail, hsmall, hcapital]
  | given hmark hsign hdigits =>
    have hexponent := scanExponent_text n hsign hdigits hends.endsDigits
    rcases hmark with rfl | rfl <;> exact hexponent

/-- An exponent ends digits, and so does what follows a number without one. -/
theorem ExponentText.endsDigits {exponent : Option (Bool × List Char)}
    (h : ExponentText cs exponent) (hends : EndsNumber rest) : EndsDigits (cs ++ rest) := by
  cases h with
  | absent => exact hends.endsDigits
  | given hmark => rcases hmark with rfl | rfl <;> exact endsDigits_cons rfl

/-- No point follows an exponent, or a number without one. -/
theorem ExponentText.head?_ne {exponent : Option (Bool × List Char)}
    (h : ExponentText cs exponent) (hends : EndsNumber rest) : (cs ++ rest).head? ≠ some '.' := by
  cases h with
  | absent => exact fun hc => (hends _ hc).2.1 rfl
  | given hmark => rcases hmark with rfl | rfl <;> exact fun hc => by cases hc

theorem scanNumber_text {fraction exponent : List Char} {n : Numeral} (hwhole : IsDigits n.whole)
    (hzero : n.whole.head? = some '0' → n.whole = ['0'])
    (hfraction : FractionText fraction n.fraction) (hexponent : ExponentText exponent n.exponent)
    (hends : EndsNumber rest) :
    scanNumber n.negative (n.whole ++ (fraction ++ (exponent ++ rest))) = (.number n, rest) := by
  obtain ⟨negative, whole, fractionDigits, exponentDigits⟩ := n
  have hzero : ¬ (whole.head? = some '0' ∧ whole ≠ ['0']) := fun h => h.2 (hzero h.1)
  have hafter : EndsDigits (fraction ++ (exponent ++ rest)) := by
    cases hfraction with
    | absent => exact hexponent.endsDigits hends
    | given => exact endsDigits_cons rfl
  simp only [scanNumber, digitsOf_append hwhole.isDigit hafter]
  rw [if_neg hwhole.nonempty, if_neg hzero]
  cases hfraction with
  | absent =>
    have hpoint := hexponent.head?_ne hends
    have htail := scanTail_text ⟨negative, whole, none, none⟩ hexponent rfl hends
    rw [List.nil_append]
    split
    · rename_i hcons
      rw [hcons] at hpoint
      exact absurd rfl hpoint
    · exact htail
  | @given digits hdigits =>
    have hsplit := digitsOf_append hdigits.isDigit (hexponent.endsDigits hends)
    have htail := scanTail_text ⟨negative, whole, some digits, none⟩ hexponent rfl hends
    simp only [List.cons_append, hsplit]
    rw [if_neg hdigits.nonempty]
    exact htail

theorem Scans.number {n : Numeral} (hn : NumeralText cs n) (hends : EndsNumber rest)
    (h : Scans rest ts) : Scans (cs ++ rest) (.number n :: ts) := by
  obtain ⟨hwhole, hzero, fraction, exponent, hfraction, hexponent, rfl⟩ := hn
  have hnumber := scanNumber_text hwhole hzero hfraction hexponent hends
  cases hsign : n.negative with
  | true =>
    rw [hsign] at hnumber
    have hscan : scan ('-' :: (n.whole ++ (fraction ++ (exponent ++ rest)))) =
        (some (.number n), rest) := congrArg (Prod.map some id) hnumber
    simp only [if_true, List.cons_append, List.nil_append, List.append_assoc]
    refine .step hscan ?_ h
    simp only [List.length_append]
    omega
  | false =>
    obtain ⟨d, digits, hd⟩ := List.exists_cons_of_ne_nil hwhole.nonempty
    have hdigit : d.isDigit = true := hwhole.isDigit d (hd ▸ List.mem_cons_self)
    rw [hsign, hd, List.cons_append] at hnumber
    have hscan : scan (d :: (digits ++ (fraction ++ (exponent ++ rest)))) =
        (some (.number n), rest) :=
      (scan_of_isDigit hdigit _).trans (congrArg (Prod.map some id) hnumber)
    simp only [Bool.false_eq_true, if_false, hd, List.cons_append, List.nil_append,
      List.append_assoc]
    refine .step hscan ?_ h
    simp only [List.length_append]
    omega

/-! ## Texts of the grammar -/

/-- The scanner reads a text as the row of tokens that the grammar makes it. -/
theorem Lexes.scans (h : Lexes cs ts) : Scans cs ts := by
  induction h with
  | nil => exact scans_nil
  | blank hc _ ih => exact ih.blank hc
  | token ht _ ih => exact ih.token ht
  | number hn hends _ ih => exact ih.number hn hends

end Inventory.Json
