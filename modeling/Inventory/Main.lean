-- The command line of the resolver.
import Inventory.Resolver

namespace Inventory.Resolver

/-- Reads a source, or says why that cannot be done. -/
def readSource (source : Source) : IO (Except String String) := do
  try
    let bytes ← match source with
      | .standardInput => (← IO.getStdin).readBinToEnd
      | .file path => IO.FS.readBinFile path
    match String.fromUTF8? bytes with
    | some text => return .ok text
    | none => return .error "the text is not UTF-8"
  catch e =>
    return .error (toString e)

end Inventory.Resolver

/-- Writes the descriptors to standard output, or a report to standard error. -/
def main (args : List String) : IO UInt32 := do
  let source := Inventory.Resolver.source args
  let output := Inventory.Resolver.run source (← Inventory.Resolver.readSource source)
  IO.print output.standardOutput
  if let some text := output.errorText then
    IO.eprintln text
  return UInt32.ofNat output.exitCode
