import LiquidityGraph.Command.Build
import LiquidityGraph.Command.Help
import LiquidityGraph.Dotenv
import LiquidityGraph.Settings.Load

/-! What the program does for its arguments, over any kind of files. -/
namespace LiquidityGraph.Command

structure Files (m : Type → Type) where
  /-- The bytes of a file, if it exists. -/
  read : String → m (Option (List UInt8))
  /-- Whether the file could be written. -/
  write : String → List UInt8 → m Bool

/-- How the program ends: its exit code, its output, and what it says about a failure. -/
structure Exit where
  code : Nat
  output : String
  fault : String
  deriving DecidableEq, Repr

def amountOf (s : Settings) : Option String → Except Failure Nat
  | none => .ok s.router.amount
  | some text =>
    match Decimal.word? 256 (Text.trim text) with
    | some n => .ok n
    | none => .error (.amount text)

def restored (s : Settings) (file : Option (List UInt8)) : Except Failure Network := do
  let backup ← (Backup.ofFile file).mapError .file
  return s.withGraph (← backup.toGraph.mapError .graph)

def routeText (s : Settings) (n : Network) (source target : String) (amount : Option String) :
    Except Failure String := do
  let amount ← amountOf s amount
  let r := n.route (TokenId.ofConfig source) (TokenId.ofConfig target) amount
  return r.toJson.prettyText ++ "\n"

def textOf? (bytes : List UInt8) : Option String := String.fromUTF8? ⟨bytes.toArray⟩

section

variable {m : Type → Type} [Monad m]

def Action.perform (files : Files m) (nodes : String → Node) (s : Settings) :
    Action → ExceptT Failure m String
  | .run => do
    let _ ← s.network nodes
    throw .offline
  | .route source target amount stored => do
    let n ← if stored then restored s (← files.read s.backupPath) else s.network nodes
    routeText s n source target amount
  | .backup => do
    let n ← s.network nodes
    if ← files.write s.backupPath (Backup.ofGraph n.graph).encode then return ""
    throw (.unwritten s.backupPath)

def settingsOf (files : Files m) (environment : Dotenv.Variables) (config : String) :
    m (Except Failure Settings) := do
  let load (text : Option String) : Except Failure Settings :=
    (Settings.load text environment).mapError .settings
  match ← Settings.find files.read config with
  | none => return load none
  | some bytes =>
    match textOf? bytes with
    | some text => return load text
    | none => return .error (.settings .malformed)

def withDotenv (files : Files m) (environment : Dotenv.Variables) : m Dotenv.Variables := do
  return (((← files.read ".env").bind textOf?).map (Dotenv.load environment)).getD environment

/-- Runs the program. Arguments that cannot be read are reported before anything is done. -/
def perform (files : Files m) (nodes : String → Node) (environment : Dotenv.Variables)
    (arguments : List String) : m Exit := do
  let environment ← withDotenv files environment
  match Request.ofArguments? arguments with
  | none => return ⟨2, "", "Usage: " ++ usage⟩
  | some (.help topic) => return ⟨0, topic.text, ""⟩
  | some (.perform config action) =>
    let outcome : ExceptT Failure m String := do
      action.perform files nodes (← ExceptT.mk (settingsOf files environment config))
    match ← outcome.run with
    | .ok output => return ⟨0, output, ""⟩
    | .error failure => return ⟨1, "", "Error: " ++ failure.message⟩

end

end LiquidityGraph.Command
