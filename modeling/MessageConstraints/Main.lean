import MessageConstraints.CommandLine
import MessageConstraints.Descriptor.FileSet

/-!
# The program

Runs the command on files and the standard input.
-/

namespace MessageConstraints

namespace CommandLine

/-- The bytes of a file, if it can be read. -/
def readFile? (path : String) : IO (Option (List UInt8)) := do
  try
    let bytes ← IO.FS.readBinFile path
    return some bytes.toList
  catch _ => return none

/-- What the command reads when it runs as a program. -/
def files : Inputs IO where
  descriptorSet path := do
    match ← readFile? path with
    | none => return .error .unreadable
    | some bytes =>
      match Pool.ofDescriptorSet? bytes with
      | none => return .error .undecodable
      | some pool => return .ok pool
  input
    | some path => readFile? path
    | none => do
      try
        let bytes ← (← IO.getStdin).readBinToEnd
        return some bytes.toList
      catch _ => return none

end CommandLine

end MessageConstraints

/-- Runs the command with the arguments of the program. -/
def main (arguments : List String) : IO UInt32 := do
  let output ← MessageConstraints.CommandLine.run MessageConstraints.CommandLine.files arguments
  IO.print output.stdout
  IO.eprint output.stderr
  return output.exitCode.toUInt32
