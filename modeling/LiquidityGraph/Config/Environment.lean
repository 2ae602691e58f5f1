import LiquidityGraph.Config.Path

/-!
Configuration from environment variables: `ROUTER__INGESTION__START_BLOCK` stands for the path
`ingestion.start_block`.
-/
namespace LiquidityGraph.Config.Environment

/--
Lower case, for characters whose lower case is ASCII. Any other character stays outside of the
names of settings whatever its case.
-/
def lower (c : Char) : Char :=
  if c == '\u212a' then 'k' else c.toLower

def dotted : List Char → List Char
  | '_' :: '_' :: r => '.' :: dotted r
  | c :: r => c :: dotted r
  | [] => []

def mark : List Char := "router__".toList

def key? (name : String) : Option String :=
  let cs := name.toList.map lower
  if mark.isPrefixOf cs then some (String.ofList (dotted (cs.drop mark.length))) else none

/-- Sets every variable that stands for a key, over what is configured already. -/
def apply (root : Value) (environment : List (String × String)) : Value :=
  environment.foldl (fun root (name, text) =>
    match key? name with
    | some key => root.set key (.text text)
    | none => root) root

end LiquidityGraph.Config.Environment
