import LiquidityGraph.Command.Arguments

/-! The help texts of the command line. -/
namespace LiquidityGraph.Command

def usage : String := "route_indexer [OPTIONS] <COMMAND>"

namespace Topic

def lines : Topic → List String
  | .program => [
      "Cross-chain DEX routing graph indexer",
      "",
      "Usage: " ++ usage,
      "",
      "Commands:",
      "  run     Discover pools, then follow every chain until Ctrl+C",
      "  route   Print the best route between two tokens as JSON",
      "  backup  Discover pools and write the graph backup",
      "  help    Print this message or the help of the given subcommand(s)",
      "",
      "Options:",
      "      --config <CONFIG>  Configuration file, without or with the .toml extension " ++
        "[default: " ++ defaultConfig ++ "]",
      "  -h, --help             Print help"]
  | .run => [
      "Discover pools, then follow every chain until Ctrl+C",
      "",
      "Usage: route_indexer run",
      "",
      "Options:",
      "  -h, --help  Print help"]
  | .route => [
      "Print the best route between two tokens as JSON",
      "",
      "Usage: route_indexer route [OPTIONS] --from <FROM> --to <TO>",
      "",
      "Options:",
      "      --from <FROM>      Source token address or label",
      "      --to <TO>          Destination token address or label",
      "      --amount <AMOUNT>  Input amount in raw units; the configured reference amount " ++
        "when omitted",
      "      --from-backup      Load the graph from the backup file instead of the chains",
      "  -h, --help             Print help"]
  | .backup => [
      "Discover pools and write the graph backup",
      "",
      "Usage: route_indexer backup",
      "",
      "Options:",
      "  -h, --help  Print help"]
  | .help => [
      "Print this message or the help of the given subcommand(s)",
      "",
      "Usage: route_indexer help [COMMAND]...",
      "",
      "Arguments:",
      "  [COMMAND]...  Print help for the subcommand(s)"]

def text (t : Topic) : String := String.join (t.lines.map (· ++ "\n"))

end Topic

end LiquidityGraph.Command
