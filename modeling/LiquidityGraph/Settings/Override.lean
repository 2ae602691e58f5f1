import LiquidityGraph.Settings.Basic
import LiquidityGraph.Text.Parts

/-!
Settings overridden by single variables such as `AMOUNT_IN` or `AVALANCHE_RPC_URL`. They are
applied one after the other, up to the first that cannot be read.
-/
namespace LiquidityGraph.Settings

/-- The value of a variable without the white space around it, unless nothing is left. -/
def given (lookup : String → Option String) (key : String) : Option String :=
  ((lookup key).map Text.trim).filter (!·.isEmpty)

abbrev Override := Settings → Except SettingsError Settings

def Override.when (value : Option String) (f : String → Override) : Override :=
  fun s =>
    match value with
    | some text => f text s
    | none => .ok s

def readAmount (key text : String) : Except SettingsError Nat :=
  match Decimal.word? 256 text with
  | some n => .ok n
  | none => .error (.amount key text)

/-- Empty parts are passed over. -/
def readFeeTiers (text : String) : Except SettingsError (List Nat) :=
  let parts := (Text.parts ',' text.toList).map fun cs => Text.trim (String.ofList cs)
  (parts.filter (!·.isEmpty)).mapM fun part =>
    match Decimal.unsigned? 32 part with
    | some n => .ok n
    | none => .error (.feeTier part)

def setUrls (lookup : String → Option String) (s : Settings) : Settings :=
  { s with chains := s.chains.map fun name chain =>
      match given lookup (Text.upcase name ++ "_RPC_URL") with
      | some url => { chain with url := some url }
      | none => chain }

/-- All overrides, in the order in which they are applied. -/
def overrides (lookup : String → Option String) : List Override :=
  let on (key : String) (f : String → Override) : Override :=
    Override.when (given lookup key) f
  [on "SYNC_TOPIC" fun text s =>
      .ok { s with router := { s.router with syncTopic := some text } },
    on "SWAP_V3_TOPIC" fun text s =>
      .ok { s with router := { s.router with swapTopic := some text } },
    on "AMOUNT_IN" fun text s => do
      return { s with router := { s.router with amount := ← readAmount "AMOUNT_IN" text } },
    on "DEFAULT_BUILDER_FEE" fun text s => do
      let defaultFee ← readAmount "DEFAULT_BUILDER_FEE" text
      return { s with router := { s.router with defaultFee } },
    on "FEE_TIERS" fun text s => do
      return { s with router := { s.router with feeTiers := ← readFeeTiers text } },
    on "DATABASE_URL" fun text s =>
      .ok { s with database := { s.database with url := some text } },
    fun s => .ok (setUrls lookup s)]

def applyAll (s : Settings) : List Override → Settings × Option SettingsError
  | [] => (s, none)
  | f :: fs =>
    match f s with
    | .ok s => applyAll s fs
    | .error e => (s, some e)

/-- The settings with what was applied, and what stopped it. -/
def override (s : Settings) (lookup : String → Option String) : Settings × Option SettingsError :=
  applyAll s (overrides lookup)

end LiquidityGraph.Settings
