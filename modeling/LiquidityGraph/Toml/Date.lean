import LiquidityGraph.Text.Decimal

/-! Dates and times of TOML, brought to their normal text. -/
namespace LiquidityGraph.Toml.Date

def two? (low high : Nat) : List Char → Option (List Char × List Char)
  | a :: b :: r => do
    let n := 10 * (← Decimal.digit? a) + (← Decimal.digit? b)
    if low ≤ n ∧ n ≤ high then return ([a, b], r) else none
  | _ => none

def char? (c : Char) : List Char → Option (List Char)
  | a :: r => if a == c then some r else none
  | [] => none

def date? (cs : List Char) : Option (List Char × List Char) := do
  let (century, r) ← two? 0 99 cs
  let (year, r) ← two? 0 99 r
  let (month, r) ← two? 1 12 (← char? '-' r)
  let (day, r) ← two? 1 31 (← char? '-' r)
  return (century ++ year ++ '-' :: month ++ '-' :: day, r)

/-- At least one digit is needed; nine count, and zeros at the end are dropped. -/
def fraction? : List Char → Option (List Char × List Char)
  | '.' :: r =>
    let digits := r.takeWhile Char.isDigit
    if digits.isEmpty then none
    else
      let kept := ((digits.take 9).reverse.dropWhile (· == '0')).reverse
      some (if kept.isEmpty then [] else '.' :: kept, r.dropWhile Char.isDigit)
  | r => some ([], r)

def time? (cs : List Char) : Option (List Char × List Char) := do
  let (hour, r) ← two? 0 24 cs
  let (minute, r) ← two? 0 59 (← char? ':' r)
  let (second, r) ← two? 0 59 (← char? ':' r)
  let (fraction, r) ← fraction? r
  return (hour ++ ':' :: minute ++ ':' :: second ++ fraction, r)

/-- The distance from universal time, which must end the text. No hours are written as `+00`. -/
def offset? : List Char → Option (List Char)
  | [] => some []
  | ['Z'] => some ['Z']
  | ['z'] => some ['Z']
  | sign :: r => do
    guard (sign == '+' || sign == '-')
    let (hour, r) ← two? 0 99 r
    let (minute, r) ← two? 0 99 (← char? ':' r)
    guard r.isEmpty
    return (if hour == ['0', '0'] then '+' else sign) :: hour ++ ':' :: minute

/-- A time of day, a date, or both with an optional offset. -/
def normalize? (cs : List Char) : Option (List Char) :=
  if cs[2]? == some ':' then do
    let (time, rest) ← time? cs
    guard rest.isEmpty
    return time
  else do
    let (date, rest) ← date? cs
    match rest with
    | [] => return date
    | c :: r =>
      guard (c == 'T' || c == 't' || c == ' ')
      let (time, r) ← time? r
      return date ++ 'T' :: time ++ (← offset? r)

end LiquidityGraph.Toml.Date
