import LiquidityGraph.Json.Value
import LiquidityGraph.Word

/-!
Records are read from the values of a format: their fields stand by name in a table, or in order
in a list. A format says how its values are read as text, numbers, lists and tables.
-/
namespace LiquidityGraph

class Format (ν : Type) where
  text? : ν → Option String
  /-- An unsigned word of a number of bits. -/
  natural? : Nat → ν → Option Nat
  isNull : ν → Bool
  items? : ν → Option (List ν)
  members? : ν → Option (List (Option String × ν))
  /-- Whether a list may not hold more items than a record has fields. -/
  exact : Bool

namespace Json.Value

/-- An integer; a negative zero is none. -/
def magnitude? : Value → Option Int
  | .number false (some n) => some n
  | .number true (some n) => if n = 0 then none else some (-n)
  | _ => none

def integer? (bits : Nat) (v : Value) : Option Int := do
  Word.signed? bits (← v.magnitude?)

def flag? : Value → Option Bool
  | .bool b => some b
  | _ => none

instance : Format Value where
  text?
    | .text s => s
    | _ => none
  natural? bits v := do
    Word.unsigned? bits (← v.magnitude?)
  isNull
    | .null => true
    | _ => false
  items?
    | .array items => some items
    | _ => none
  members?
    | .object members => some members
    | _ => none
  exact := true

end Json.Value

abbrev Record (ν : Type) := List (String × ν)

namespace Record

variable {ν : Type} [Format ν]

/-- Unknown names are passed over, and a known one may not come twice. -/
def ofMembers? (names : List String) : List (Option String × ν) → Option (Record ν)
  | [] => some []
  | (none, _) :: _ => none
  | (some k, v) :: ms => do
    let fields ← ofMembers? names ms
    if names.contains k then
      if (fields.lookup k).isSome then none else return (k, v) :: fields
    else return fields

def ofItems? (names : List String) (items : List ν) : Option (Record ν) :=
  if Format.exact ν && names.length < items.length then none else some (names.zip items)

def read? (names : List String) (v : ν) : Option (Record ν) :=
  match Format.members? v with
  | some ms => ofMembers? names ms
  | none => (Format.items? v).bind (ofItems? names)

def need {α : Type} (r : Record ν) (name : String) (read : ν → Option α) : Option α :=
  (r.lookup name).bind read

def orElse {α : Type} (r : Record ν) (name : String) (read : ν → Option α) (default : α) :
    Option α :=
  match r.lookup name with
  | some v => read v
  | none => some default

def optional {α : Type} (read : ν → Option α) (v : ν) : Option (Option α) :=
  if Format.isNull v then some none else (read v).map some

def list? {α : Type} (read : ν → Option α) (v : ν) : Option (List α) := do
  (← Format.items? v).mapM read

/-- An unsigned word written as a text of digits. -/
def word? (v : ν) : Option Nat := (Format.text? v).bind (Decimal.word? 256)

def uint128? (v : ν) : Option Nat := (Format.text? v).bind (Decimal.unsigned? 128)

def int128? (v : ν) : Option Int := (Format.text? v).bind (Decimal.signed? 128)

end Record

end LiquidityGraph
