import LiquidityGraph.Url.Host

/-!
Which texts are absolute URLs. The rules are those of web browsers: a scheme is required, and the
schemes of the web need a host.
-/
namespace LiquidityGraph.Url

def scheme? (cs : List Char) : Option (List Char × List Char) :=
  let inside (c : Char) : Bool := c.isAlphanum || c == '+' || c == '-' || c == '.'
  match cs.takeWhile inside, cs.dropWhile inside with
  | c :: name, ':' :: rest => if c.isAlpha then some ((c :: name).map Char.toLower, rest) else none
  | _, _ => none

def isWebScheme (scheme : List Char) : Bool :=
  ["http", "https", "ws", "wss", "ftp"].contains (String.ofList scheme)

def isSlash (c : Char) : Bool := c == '/' || c == '\\'

/-- A path, a query or a fragment begins here. In the schemes of the web, slashes lean both ways. -/
def endsAuthority (web : Bool) (c : Char) : Bool :=
  c == '/' || c == '?' || c == '#' || (web && c == '\\')

/-- The host is cut at its first colon outside of brackets, or where the authority ends. -/
def splitHost (web : Bool) : Bool → List Char → List Char × List Char
  | _, [] => ([], [])
  | inside, c :: r =>
    if (c == ':' && !inside) || endsAuthority web c then ([], c :: r)
    else
      let (host, rest) := splitHost web (c == '[' || (inside && c != ']')) r
      (c :: host, rest)

/--
The number behind a colon is below 65536; it may be left out, also with its colon. A backslash
ends it in any scheme.
-/
def isService : List Char → Bool
  | ':' :: r =>
    let digits := r.takeWhile Char.isDigit
    (r.dropWhile Char.isDigit).head?.all (endsAuthority true) &&
      (Decimal.value? digits).any (· < Word.size 16)
  | _ => true

def splitUser? (web : Bool) (cs : List Char) : Option (List Char × List Char) :=
  let authority := cs.takeWhile fun c => !endsAuthority web c
  let name := (authority.reverse.dropWhile (· != '@')).reverse
  if name.isEmpty then none else some (name.dropLast, cs.drop name.length)

/-- A user has a name before the first colon, or a password behind it. -/
def isUser (cs : List Char) : Bool :=
  !cs.isEmpty && cs != [':']

/-- A host and the number of a service on it. No host is needed where nothing belongs to it. -/
def isPlace (web user : Bool) (cs : List Char) : Bool :=
  match splitHost web false cs with
  | ([], rest) => !web && !user && rest.head? != some ':'
  | (host, rest) => (if web then isWebHost host else isOpaqueHost host) && isService rest

def isAuthority (web : Bool) (cs : List Char) : Bool :=
  match splitUser? web cs with
  | none => isPlace web false cs
  | some ([], place) => !place.head?.any (endsAuthority web) && isPlace web false place
  | some (user, place) => isPlace web (isUser user) place

/-- A file may be on a host; a drive letter is none. -/
def isFilePlace : List Char → Bool
  | a :: b :: r =>
    if isSlash a && isSlash b then
      match r.takeWhile fun c => !endsAuthority true c with
      | [] => true
      | [d, bar] => (d.isAlpha && (bar == ':' || bar == '|')) || isWebHost [d, bar]
      | host => isWebHost host
    else true
  | _ => true

/-- Control characters and blanks at the ends do not count, nor line ends and tabs anywhere. -/
def clean (s : String) : List Char :=
  let isEdge (c : Char) : Bool := c.toNat ≤ 32
  let cs := (s.toList.dropWhile isEdge).reverse.dropWhile isEdge
  cs.reverse.filter fun c => c != '\t' && c != '\n' && c != '\r'

def isValid (s : String) : Bool :=
  match scheme? (clean s) with
  | none => false
  | some (scheme, rest) =>
    if isWebScheme scheme then isAuthority true (rest.dropWhile isSlash)
    else if scheme == "file".toList then isFilePlace rest
    else
      match rest with
      | '/' :: '/' :: place => isAuthority false place
      | _ => true

end LiquidityGraph.Url
