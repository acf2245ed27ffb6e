-- Event message ids: a registry, a version and a message name, joined by
-- dots. Only the version may hold dots of its own.
import Inventory.Text.Blank
import Inventory.Text.Delimited

namespace Inventory

open Text

/-- The parts of a message id; a part that is missing is empty. -/
structure MessageId where
  registry : String
  version : String
  message : String
deriving DecidableEq, Repr

namespace MessageId

/-- The parts of a list of dot-separated segments: the message comes last, the registry first, and
the version is what stands between. -/
def ofSegments : List (List Char) → MessageId
  | [] => ⟨"", "", ""⟩
  | [message] => ⟨"", "", String.ofList message⟩
  | registry :: rest =>
    ⟨String.ofList registry, String.ofList (['.'].intercalate rest.dropLast),
      String.ofList (rest.getLastD [])⟩

/-- Reads a message id, blanks around it allowed. Every text is one. -/
def parse (text : String) : MessageId := ofSegments ((trimChars text.toList).splitOn '.')

/-- The parts that are not empty, joined by dots. -/
def text (m : MessageId) : String :=
  ".".intercalate ([m.registry, m.version, m.message].filter (· ≠ ""))

instance : ToString MessageId := ⟨text⟩

/-- The first `n` fields of a version, and how many there are. An empty version has none. -/
def versionFields (version delim : String) (n : Nat) : String × Nat :=
  if version = "" ∨ n = 0 then ("", 0)
  else
    let parts := (fields delim.toList version.toList).take n
    (String.ofList (joinFields delim.toList parts), parts.length)

/-- The registry with the first `n` fields of the version. -/
def registryUpTo (m : MessageId) (n : Nat) : String :=
  let (version, used) := versionFields m.version "." n
  if used = 0 then m.registry else m.registry ++ "." ++ version

end MessageId

end Inventory
