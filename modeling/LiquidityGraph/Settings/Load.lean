import LiquidityGraph.Config.Environment
import LiquidityGraph.Json.Reader
import LiquidityGraph.Settings.Override
import LiquidityGraph.Settings.Read
import LiquidityGraph.Toml.Reader

/-! Loading settings: a configuration file, environment variables over it, and overrides. -/
namespace LiquidityGraph.Settings

/-- Reads settings from JSON text, which converts nothing. -/
def parse? (json : String) : Option Settings := (Json.read? json).bind Settings.read?

def extension : String := ".toml"

/-- A path, backwards, from its last name on: slashes behind that name do not count. -/
def fromName : List Char → List Char
  | '/' :: rest => fromName rest
  | '.' :: '/' :: rest => fromName rest
  | path => path

def extended (name : String) : String :=
  String.ofList (fromName name.toList.reverse).reverse ++ extension

/--
Finds the configuration file of a name, which can be given without its extension. A file that
exists under the name but with another extension is left alone.
-/
def find {m : Type → Type} {α : Type} [Monad m] (read : String → m (Option α)) (name : String) :
    m (Option α) := do
  match ← read name with
  | some file => return if name.endsWith extension then some file else none
  | none => read (extended name)

def document? : Option String → Option Config.Value
  | none => some .empty
  | some text =>
    (Toml.read? text).map fun v =>
      v.entries.foldl (fun root (key, v) => root.set key v) .empty

def load (document : Option String) (environment : List (String × String)) :
    Except SettingsError Settings := do
  let some root := document? document | throw .malformed
  let some settings := read? (Config.Environment.apply root environment) | throw .malformed
  match settings.override (fun name => environment.lookup name) with
  | (settings, none) => return settings
  | (_, some e) => throw e

end LiquidityGraph.Settings
