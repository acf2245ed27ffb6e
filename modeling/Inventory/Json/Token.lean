-- Tokens of JSON texts. The texts come from anywhere, so a token may be
-- faulty. Some faults matter only if the token's value is wanted: a text may
-- hold half a surrogate pair and a number may be too large, as long as both
-- are skipped. A token that does not end is the last one.
import Inventory.Json.Numeral
import Inventory.Text.Utf8

namespace Inventory.Json

open Text

/-- Why a document is refused: it ends too soon, it is no JSON, or it is JSON that does not say
what was asked for. -/
inductive Cause
  | truncated
  | malformed
  | mismatched
deriving DecidableEq, Repr

/-- What is said about a document that was refused. -/
def Cause.text : Cause → String
  | .truncated => "the text ends too soon"
  | .malformed => "the text is no JSON"
  | .mismatched => "the JSON does not say what was asked for"

/-- The causes that a fault has for three readers: one who wants the value, one who skips it, and
one who expects the name of a choice. -/
structure Fault where
  read : Cause
  skip : Cause
  choose : Cause
deriving DecidableEq, Repr

/-- A fault that is the same for every reader. -/
def Fault.plain (c : Cause) : Fault := ⟨c, c, c⟩

/-! ## Tokens -/

inductive Token
  | openList
  | closeList
  | openObject
  | closeObject
  | comma
  | colon
  | null
  | bool (b : Bool)
  | number (n : Numeral)
  | text (read : Except Cause String)
  | broken (fault : Fault)
  | brokenText (fault : Fault)

/-! ## Texts between quotes -/

/-- A text up to its closing quote and what follows it, or the fault that it ends with. -/
inductive Body
  | closed (read : Except Cause (List Char)) (rest : List Char)
  | cut (fault : Fault)

/-- What has been read of a text: its characters in reverse, the first half of a surrogate pair
that waits for the other, and the first fault of the value. -/
structure Sofar where
  chars : List Char := []
  half : Option Nat := none
  fault : Option Cause := none

namespace Sofar

/-- A half that waits is a fault when anything but its other half follows. -/
def settle (s : Sofar) : Sofar :=
  if s.half.isSome then { s with half := none, fault := s.fault.or (some .malformed) } else s

def push (s : Sofar) (c : Char) : Sofar :=
  let s := s.settle
  { s with chars := c :: s.chars }

/-- Adds a unit of UTF-16. -/
def pushUnit (s : Sofar) (n : Nat) : Sofar :=
  match s.half with
  | some high =>
    if 0xDC00 ≤ n ∧ n ≤ 0xDFFF then
      { s with
        half := none
        chars := Char.ofNat (0x10000 + (high - 0xD800) * 0x400 + (n - 0xDC00)) :: s.chars }
    else s.settle
  | none =>
    if 0xD800 ≤ n ∧ n ≤ 0xDBFF then { s with half := some n }
    else if 0xDC00 ≤ n ∧ n ≤ 0xDFFF then { s with fault := s.fault.or (some .malformed) }
    else { s with chars := Char.ofNat n :: s.chars }

/-- The value, if it has no fault. -/
def value (s : Sofar) : Except Cause (List Char) :=
  match s.settle.fault with
  | some c => .error c
  | none => .ok s.chars.reverse

/-- The text cannot go on; an earlier fault of the value is the one its reader sees. -/
def cut (s : Sofar) (c : Cause) : Body :=
  let read := s.fault.getD c
  .cut ⟨read, c, read⟩

end Sofar

/-- The character that a backslash and a letter stand for. -/
def unescaped? : Char → Option Char
  | '"' => some '"'
  | '\\' => some '\\'
  | '/' => some '/'
  | 'b' => some '\x08'
  | 'f' => some '\x0c'
  | 'n' => some '\n'
  | 'r' => some '\r'
  | 't' => some '\t'
  | _ => none

/-- Reads a text after its opening quote. Fewer than four bytes after a backslash and a `u` count
as a text that ends too soon, whatever they are. -/
def scanText (s : Sofar) : List Char → Body
  | [] => s.cut .truncated
  | '"' :: rest => .closed s.value rest
  | '\\' :: 'u' :: a :: b :: c :: d :: rest =>
    if [a, b, c, d].all isHex then scanText (s.pushUnit (hexValue [a, b, c, d])) rest
    else s.cut .malformed
  | '\\' :: 'u' :: rest =>
    if utf8Size rest < 4 then s.cut .truncated else s.cut .malformed
  | ['\\'] => s.cut .truncated
  | '\\' :: c :: rest =>
    match unescaped? c with
    | some x => scanText (s.push x) rest
    | none => s.settle.cut .malformed
  | c :: rest => if c.toNat < 32 then s.settle.cut .malformed else scanText (s.push c) rest

/-! ## Numbers and words -/

/-- A number that lacks digits. At the end of the text its reader waits for more, and one who
skips it does not. -/
def lacking (rest : List Char) : Token :=
  if rest = [] then .broken ⟨.truncated, .malformed, .malformed⟩
  else .broken (.plain .malformed)

/-- The digits that a text starts with, and the rest. -/
def digitsOf (cs : List Char) : List Char × List Char :=
  (cs.takeWhile Char.isDigit, cs.dropWhile Char.isDigit)

/-- Reads the exponent after its mark. -/
def scanExponent (n : Numeral) (cs : List Char) : Token × List Char :=
  let (negative, cs) : Bool × List Char := match cs with
    | '+' :: rest => (false, rest)
    | '-' :: rest => (true, rest)
    | cs => (false, cs)
  let (digits, rest) := digitsOf cs
  if digits = [] then (lacking rest, [])
  else (.number { n with exponent := some (negative, digits) }, rest)

def scanTail (n : Numeral) : List Char → Token × List Char
  | 'e' :: rest => scanExponent n rest
  | 'E' :: rest => scanExponent n rest
  | rest => (.number n, rest)

/-- Reads a number after its sign. -/
def scanNumber (negative : Bool) (cs : List Char) : Token × List Char :=
  let (whole, rest) := digitsOf cs
  if whole = [] then (lacking rest, [])
  else if whole.head? = some '0' ∧ whole ≠ ['0'] then (.broken (.plain .malformed), [])
  else
    let n : Numeral := ⟨negative, whole, none, none⟩
    match rest with
    | '.' :: rest =>
      let (digits, rest) := digitsOf rest
      if digits = [] then (lacking rest, [])
      else scanTail { n with fraction := some digits } rest
    | rest => scanTail n rest

/-- Reads the rest of a word. -/
def scanWord (token : Token) : List Char → List Char → Token × List Char
  | [], rest => (token, rest)
  | _ :: _, [] => (.broken ⟨.truncated, .truncated, .malformed⟩, [])
  | w :: word, c :: rest =>
    if w = c then scanWord token word rest else (.broken (.plain .malformed), [])

/-! ## The whole text -/

/-- The token that a text starts with, and what follows it; blanks are passed over one by one. -/
def scan : List Char → Option Token × List Char
  | [] => (none, [])
  | c :: rest =>
    if c = ' ' ∨ c = '\n' ∨ c = '\t' ∨ c = '\r' then (none, rest)
    else if c = '[' then (some .openList, rest)
    else if c = ']' then (some .closeList, rest)
    else if c = '\x7b' then (some .openObject, rest)
    else if c = '\x7d' then (some .closeObject, rest)
    else if c = ',' then (some .comma, rest)
    else if c = ':' then (some .colon, rest)
    else if c = '"' then
      match scanText {} rest with
      | .closed read rest => (some (.text (read.map String.ofList)), rest)
      | .cut fault => (some (.brokenText fault), [])
    else if c = '-' then (scanNumber true rest).map some id
    else if c.isDigit then (scanNumber false (c :: rest)).map some id
    else if c = 'n' then (scanWord .null "ull".toList rest).map some id
    else if c = 't' then (scanWord (.bool true) "rue".toList rest).map some id
    else if c = 'f' then (scanWord (.bool false) "alse".toList rest).map some id
    else (some (.broken (.plain .malformed)), [])

/-- Reads tokens until the text ends; each step takes a character at least, so the length of the
text is fuel enough. -/
def tokensFrom : Nat → List Char → List Token
  | 0, _ => []
  | _ + 1, [] => []
  | fuel + 1, cs =>
    match scan cs with
    | (some t, rest) => t :: tokensFrom fuel rest
    | (none, rest) => tokensFrom fuel rest

def tokens (text : String) : List Token := tokensFrom text.toList.length text.toList

end Inventory.Json
