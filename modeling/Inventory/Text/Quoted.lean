-- Quoted texts: how a text, a character or a list of texts is shown inside a
-- message. What a reader could not see or could mistake is escaped.
import Inventory.Text.Number
import Inventory.Text.Printable
import Inventory.Text.GraphemeExtend

namespace Inventory.Text

/-- A character between quotes: a backslash before the quote itself and before a backslash, short
forms for NUL, tab and the line ends, and the code point in small hex digits for every character
that is not printable or extends the grapheme before it. -/
def escaped (quote c : Char) : List Char :=
  if c = '\x00' then ['\\', '0']
  else if c = '\t' then ['\\', 't']
  else if c = '\n' then ['\\', 'n']
  else if c = '\r' then ['\\', 'r']
  else if c = '\\' then ['\\', '\\']
  else if c = quote then ['\\', quote]
  else if extendsGrapheme c || !isPrintable c then
    ['\\', 'u', '\x7b'] ++ hex c.toNat ++ ['\x7d']
  else [c]

def quoteText (s : String) : String :=
  String.ofList ('"' :: s.toList.flatMap (escaped '"') ++ ['"'])

def quoteChar (c : Char) : String := String.ofList ('\'' :: escaped '\'' c ++ ['\''])

/-- Quoted texts in square brackets, with a comma and a space between two. -/
def quoteList (ss : List String) : String :=
  "[" ++ ", ".intercalate (ss.map quoteText) ++ "]"

end Inventory.Text
