import LiquidityGraph.Command.Perform

/-!
The program itself, over the files and the environment of the system. It has no connection to
chains: every call of a contract is refused.
-/
namespace LiquidityGraph.Program

def read (path : String) : IO (Option (List UInt8)) := do
  try
    return some (← IO.FS.readBinFile path).toList
  catch _ =>
    return none

/-- Everything before the last slash of a path. -/
def directoryOf (path : String) : Option String :=
  match path.toList.reverse.dropWhile (· != '/') with
  | _ :: cs => if cs.isEmpty then none else some (String.ofList cs.reverse)
  | [] => none

def write (path : String) (bytes : List UInt8) : IO Bool := do
  try
    if let some directory := directoryOf path then IO.FS.createDirAll directory
    IO.FS.writeBinFile path ⟨bytes.toArray⟩
    return true
  catch _ =>
    return false

def variableOf (text : List Char) : Option (String × String) :=
  match text.dropWhile (· != '=') with
  | _ :: value => some (String.ofList (text.takeWhile (· != '=')), String.ofList value)
  | [] => none

/-- The variables of the environment, each ended by a zero byte. -/
def environment : IO Dotenv.Variables := do
  let bytes ← read "/proc/self/environ"
  let text := ((bytes.bind Command.textOf?).getD "").toList
  return (Text.parts (Char.ofNat 0) text).filterMap variableOf

end LiquidityGraph.Program

open LiquidityGraph in
def main (arguments : List String) : IO UInt32 := do
  let files : Command.Files IO := ⟨Program.read, Program.write⟩
  let exit ← Command.perform files (fun _ => Node.silent) (← Program.environment) arguments
  IO.print exit.output
  unless exit.fault.isEmpty do IO.eprintln exit.fault
  return exit.code.toUInt32
