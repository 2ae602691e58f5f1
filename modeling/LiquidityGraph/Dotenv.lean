import LiquidityGraph.Text.Alphanumeric
import LiquidityGraph.Text.Blank
import LiquidityGraph.Text.Parts

/-!
Files of environment variables, one `NAME=value` a line. A line that cannot be read ends the
file, and a variable that is set already keeps its value.
-/
namespace LiquidityGraph.Dotenv

abbrev Variables := List (String × String)

def valueOf (environment : Variables) (name : List Char) : List Char :=
  ((environment.lookup (String.ofList name)).getD "").toList

def isNameStart (c : Char) : Bool := c.isAlpha || c == '_'

def isName (c : Char) : Bool := c.isAlphanum || c == '_' || c == '.'

/--
The name behind a dollar sign, and what follows it. A name in braces may have any characters, and
letters and digits otherwise; an open brace must be closed.
-/
def reference? : List Char → Option (List Char × List Char)
  | '{' :: r =>
    match r.dropWhile (· != '}') with
    | '}' :: rest => some (r.takeWhile (· != '}'), rest)
    | _ => none
  | r => some (r.takeWhile Text.isAlphanumeric, r.dropWhile Text.isAlphanumeric)

def escaped? : Char → Option Char
  | 'n' => some '\n'
  | c => if ['\\', '\'', '"', '$', ' '].contains c then some c else none

/-- Behind a value only blanks may follow, and a comment behind those. -/
def endsWell (cs : List Char) : Bool :=
  match cs.dropWhile fun c => c == ' ' || c == '\t' with
  | [] => true
  | c :: _ => c == '#'

inductive Quote where
  | none
  | single
  | double
  deriving DecidableEq

/--
The text of a value. Names are replaced except in single quotes, where nothing is special. The
character that ends a bare name is taken as it is, also when it is a quote. The fuel is the
length of the value.
-/
def value? (environment : Variables) : Nat → Quote → List Char → Option (List Char)
  | _, quote, [] => if quote = .none then some [] else none
  | 0, _, _ => none
  | fuel + 1, .single, c :: r =>
    if c == '\'' then value? environment fuel .none r
    else (value? environment fuel .single r).map (c :: ·)
  | fuel + 1, quote, c :: r =>
    if c == '$' then do
      let (name, rest) ← reference? r
      let (taken, rest) :=
        match r, rest with
        | '{' :: _, rest => ([], rest)
        | _, [] => ([], [])
        | _, d :: rest => if d == '$' then ([], d :: rest) else ([d], rest)
      let tail ← value? environment fuel quote rest
      return valueOf environment name ++ taken ++ tail
    else if c == '\\' then
      match r with
      | [] => if quote = .none then some [] else none
      | e :: r => do
        let e ← escaped? e
        let tail ← value? environment fuel quote r
        return e :: tail
    else if c == '"' then
      value? environment fuel (if quote = .double then .none else .double) r
    else if quote = .double then (value? environment fuel quote r).map (c :: ·)
    else if c == '\'' then value? environment fuel .single r
    else if c == ' ' || c == '\t' then (if endsWell r then some [] else none)
    else (value? environment fuel quote r).map (c :: ·)

def name? (cs : List Char) : Option (List Char × List Char) :=
  if cs.head?.any isNameStart then some (cs.takeWhile isName, cs.dropWhile isName) else none

def assigned? (cs : List Char) : Option (List Char × List Char) := do
  let (name, rest) ← name? cs
  match Text.trimStart rest with
  | '=' :: rest => return (name, rest)
  | _ => none

/-- The word `export` may stand before a name, but it can be the name too. -/
def head? (cs : List Char) : Option (List Char × List Char) :=
  match assigned? cs with
  | some found => some found
  | none => do
    let (word, rest) ← name? cs
    guard (word == "export".toList)
    assigned? (Text.trimStart rest)

/-- What a line sets; empty lines and comments set nothing. -/
def line? (environment : Variables) (line : List Char) : Option (Option (String × String)) :=
  let cs := Text.trimStart (Text.trimEnd line)
  if cs.isEmpty || cs.head? == some '#' then some none
  else do
    let (name, rest) ← head? cs
    let rest := Text.trimStart rest
    if rest.isEmpty || rest.head? == some '#' then return some (String.ofList name, "")
    let value ← value? environment rest.length .none rest
    return some (String.ofList name, String.ofList value)

/-- Sets what the lines say, up to the first that cannot be read. -/
def loadLines (environment : Variables) : List (List Char) → Variables
  | [] => environment
  | line :: more =>
    match line? environment line with
    | none => environment
    | some none => loadLines environment more
    | some (some (name, value)) =>
      if (environment.lookup name).isSome then loadLines environment more
      else loadLines (environment ++ [(name, value)]) more

def load (environment : Variables) (text : String) : Variables :=
  loadLines environment (Text.parts '\n' text.toList)

end LiquidityGraph.Dotenv
