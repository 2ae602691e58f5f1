import LiquidityGraph.Config.Value
import LiquidityGraph.Word

/-!
Assignments to paths of a configuration. A path such as `chains.main.tokens[0]` leads through
tables and lists, and what it does not find on its way is made.
-/
namespace LiquidityGraph.Config

inductive Step where
  | key (name : String)
  /-- A negative index counts from the end. -/
  | index (i : Int)

namespace Value

/-- The entries of a table; any other value gives way to an empty one. -/
def entries : Value → List (String × Value)
  | .table entries => entries
  | _ => []

def items : Value → List Value
  | .list items => items
  | _ => []

def put (key : String) (v : Value) : List (String × Value) → List (String × Value)
  | [] => [(key, v)]
  | (k, w) :: rest => if k == key then (key, v) :: rest else (k, w) :: put key v rest

mutual

/-- Sets a key of a table. A table is merged into the one that is there, entry by entry. -/
def merge (key : String) : Value → Value → Value
  | .table ms, parent =>
    let entries := parent.entries
    .table (put key (mergeAll ms ((entries.lookup key).getD empty)) entries)
  | v, parent => .table (put key v parent.entries)

def mergeAll : List (String × Value) → Value → Value
  | [], v => v
  | (k, m) :: ms, v => mergeAll ms (merge k m v)

end

def position (i : Int) (length : Nat) : Nat :=
  if i < 0 then length - i.natAbs else i.toNat

/-- Changes an item, behind as many empty values as are missing before it. -/
def updateAt (i : Int) (f : Value → Value) (v : Value) : Value :=
  let items := v.items
  let n := position i items.length
  .list ((items ++ List.replicate (n + 1 - items.length) nil).modify n f)

def assign (v : Value) : List Step → Value → Value
  | [], root => root
  | [.key k], root => merge k v root
  | [.index i], root => root.updateAt i fun _ => v
  | .key k :: path, root =>
    let entries := root.entries
    .table (put k (assign v path ((entries.lookup k).getD .nil)) entries)
  | .index i :: path, root => root.updateAt i (assign v path)

end Value

namespace Step

def isName (c : Char) : Bool :=
  c.isAlphanum || c == ' ' || c == '_' || c == '-'

def isSpace (c : Char) : Bool := c == ' ' || c == '\t'

def name? (cs : List Char) : Option (Step × List Char) :=
  let name := cs.takeWhile isName
  if name.isEmpty then none else some (.key (String.ofList name), cs.dropWhile isName)

def index? (cs : List Char) : Option (Step × List Char) :=
  let cs := cs.dropWhile isSpace
  let (negative, cs) :=
    match cs with
    | '-' :: r => (true, r)
    | cs => (false, cs)
  match Decimal.run? (cs.takeWhile Char.isDigit), (cs.dropWhile Char.isDigit).dropWhile isSpace with
  | some n, ']' :: r =>
    if n < Word.size 63 ∨ (negative ∧ n = Word.size 63) then
      some (.index (if negative then -(n : Int) else n), r)
    else none
  | _, _ => none

/-- What follows the first name of a path; the fuel is the length of the text. -/
def more? : Nat → List Char → Option (List Step)
  | _, [] => some []
  | fuel + 1, '.' :: r => do
    let (step, r) ← name? r
    return step :: (← more? fuel r)
  | fuel + 1, '[' :: r => do
    let (step, r) ← index? r
    return step :: (← more? fuel r)
  | _, _ => none

def path? (s : String) : Option (List Step) := do
  let (step, r) ← name? s.toList
  return step :: (← more? r.length r)

end Step

/-- Sets what a key stands for: a path, or just an entry of that name. -/
def Value.set (root : Value) (key : String) (v : Value) : Value :=
  v.assign ((Step.path? key).getD [.key key]) root

end LiquidityGraph.Config
