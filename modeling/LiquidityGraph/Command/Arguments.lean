/-! The arguments of the command line. -/
namespace LiquidityGraph.Command

inductive Action where
  | run
  /-- The graph is loaded from the backup file when `stored` is set. -/
  | route (source target : String) (amount : Option String) (stored : Bool)
  | backup
  deriving DecidableEq, Repr

inductive Topic where
  | program
  | run
  | route
  | backup
  | help
  deriving DecidableEq, Repr

inductive Request where
  | perform (config : String) (action : Action)
  | help (topic : Topic)
  deriving DecidableEq, Repr

structure Options where
  valued : List String
  flags : List String

structure Given where
  values : List (String × String)
  flags : List String
  /-- The arguments from the first one that is no option on. -/
  rest : List String

inductive Scanned where
  | help
  | given (g : Given)

namespace Given

/-- No option is given twice. -/
def addValue (g : Given) (name value : String) : Option Given :=
  if (g.values.lookup name).isSome then none
  else some { g with values := g.values ++ [(name, value)] }

def addFlag (g : Given) (name : String) : Option Given :=
  if g.flags.contains name then none else some { g with flags := g.flags ++ [name] }

end Given

inductive Argument where
  /-- Two dashes, behind which nothing is an option. -/
  | escape
  | long (name : String) (value : Option String)
  | short (letters : List Char)
  | plain (text : String)

def Argument.ofString (s : String) : Argument :=
  match s.toList with
  | ['-', '-'] => .escape
  | '-' :: '-' :: cs =>
    let name := cs.takeWhile (· != '=')
    match cs.dropWhile (· != '=') with
    | [] => .long (String.ofList name) none
    | _ :: value => .long (String.ofList name) (some (String.ofList value))
  | '-' :: c :: cs => .short (c :: cs)
  | _ => .plain s

/-- A value must not look like an option, unless it is attached with an equals sign. -/
def isValue (s : String) : Bool :=
  match Argument.ofString s with
  | .plain _ => true
  | _ => false

/-- Reads options up to the first argument that is none. A request for help ends the reading. -/
def scan (o : Options) (g : Given) : List String → Option Scanned
  | [] => some (.given g)
  | arg :: rest =>
    match Argument.ofString arg with
    | .escape => some (.given { g with rest := arg :: rest })
    | .plain _ => some (.given { g with rest := arg :: rest })
    | .short letters => if letters.head? == some 'h' then some .help else none
    | .long name (some value) =>
      if o.valued.contains name then (g.addValue name value).bind fun g => scan o g rest else none
    | .long name none =>
      if name == "help" then some .help
      else if o.flags.contains name then (g.addFlag name).bind fun g => scan o g rest
      else if o.valued.contains name then
        match rest with
        | value :: rest =>
          if isValue value then (g.addValue name value).bind fun g => scan o g rest else none
        | [] => none
      else none

def isEnd (rest : List String) : Bool := rest.isEmpty || rest == ["--"]

def options (o : Options) (topic : Topic) (action : Given → Option Action) (config : String)
    (arguments : List String) : Option Request := do
  match ← scan o ⟨[], [], []⟩ arguments with
  | .help => return .help topic
  | .given g =>
    guard (isEnd g.rest)
    return .perform config (← action g)

def route (g : Given) : Option Action := do
  return .route (← g.values.lookup "from") (← g.values.lookup "to") (g.values.lookup "amount")
    (g.flags.contains "from-backup")

def topic? : List String → Option Topic
  | [] => some .program
  | ["run"] => some .run
  | ["route"] => some .route
  | ["backup"] => some .backup
  | ["help"] => some .help
  | _ => none

def action (config : String) : List String → Option Request
  | "run" :: rest => options ⟨[], []⟩ .run (fun _ => some .run) config rest
  | "route" :: rest =>
    options ⟨["from", "to", "amount"], ["from-backup"]⟩ .route route config rest
  | "backup" :: rest => options ⟨[], []⟩ .backup (fun _ => some .backup) config rest
  | "help" :: rest => (topic? rest).map .help
  | _ => none

def defaultConfig : String := "Config"

/-- Reads the arguments: options of the program, then an action with its own. -/
def Request.ofArguments? (arguments : List String) : Option Request := do
  match ← scan ⟨["config"], []⟩ ⟨[], [], []⟩ arguments with
  | .help => return .help .program
  | .given g => action ((g.values.lookup "config").getD defaultConfig) g.rest

end LiquidityGraph.Command
