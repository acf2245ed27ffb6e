-- Percent encoding: a byte that may not stand for itself is written as a
-- percent sign and two hex digits. What may stand for itself depends on the
-- part of the URL.
import Inventory.Text.Number

namespace Inventory.Url

open Text

/-- The bytes of a character in UTF-8. -/
def charBytes (c : Char) : List UInt8 := (String.singleton c).toUTF8.toList

def percentByte (b : UInt8) : List Char := '%' :: (hexDigits 2 b.toNat).map Char.toUpper

/-- Writes every byte of the characters that may not stand for themselves as two hex digits. -/
def percentEncode (keep : Char → Bool) (cs : List Char) : List Char :=
  cs.flatMap fun c => if keep c then [c] else (charBytes c).flatMap percentByte

/-- The bytes of a text, with two hex digits after a percent sign read as one byte. -/
def percentDecode : List Char → List UInt8
  | [] => []
  | '%' :: a :: b :: rest =>
    if isHex a && isHex b then UInt8.ofNat (hexValue [a, b]) :: percentDecode rest
    else 37 :: percentDecode (a :: b :: rest)
  | c :: rest => charBytes c ++ percentDecode rest

/-- The text that a percent-encoded one stands for, if its bytes are UTF-8. -/
def decodedText? (cs : List Char) : Option (List Char) :=
  (String.fromUTF8? (ByteArray.mk (percentDecode cs).toArray)).map String.toList

/-! ## What stands for itself -/

/-- Neither a control nor beyond ASCII. -/
def isPlain (c : Char) : Bool := 32 ≤ c.toNat && c.toNat < 127

def keepInFragment (c : Char) : Bool := isPlain c && !" \"<>`".toList.contains c

def keepInPath (c : Char) : Bool := keepInFragment c && !"#?\x7b\x7d".toList.contains c

def keepInUser (c : Char) : Bool := keepInPath c && !"/:;=@[\\]^|".toList.contains c

/-- The query of a URL of the web keeps no apostrophe. -/
def keepInQuery (web : Bool) (c : Char) : Bool :=
  isPlain c && !" \"#<>".toList.contains c && !(web && c = '\'')

end Inventory.Url
