import LiquidityGraph.Backup.Binary
import LiquidityGraph.Settings.Basic

/-! The ways in which an action can fail. -/
namespace LiquidityGraph.Command

inductive Failure where
  | settings (cause : SettingsError)
  /-- The address of a chain's node is no URL. -/
  | url (chain : String)
  | factory (text : String)
  /-- There is no connection to a database. -/
  | database
  | file (cause : Backup.FileError)
  | graph (cause : GraphError)
  | amount (text : String)
  | unwritten (path : String)
  /-- There is no connection to the chains. -/
  | offline
  deriving DecidableEq, Repr

def Failure.message : Failure → String
  | .settings cause => cause.message
  | .url chain => "invalid rpc_url for " ++ chain
  | .factory text => "invalid factory address " ++ text
  | .database => "no connection to the database"
  | .file cause => cause.message
  | .graph cause => cause.message
  | .amount text => "invalid amount " ++ text
  | .unwritten path => "Failed to create backup " ++ path
  | .offline => "no connection to the chains"

end LiquidityGraph.Command
