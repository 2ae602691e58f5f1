import LiquidityGraph.Config.Value
import LiquidityGraph.Toml.Date

/-!
The tables of a TOML document. A document is a list of sections, each with a path from its header
and the entries below it; they are gathered into one table in which no key comes twice. A table
whose first key is the key of dates stands for the date that this entry spells, and whatever else
it holds is not looked at.
-/
namespace LiquidityGraph.Toml

open Config (Value)

/--
What is written behind a key. A table made by dotted keys may still be gone on with; dates are
not checked before the table that they belong to is put together.
-/
inductive Item where
  | leaf (value : Value)
  | date (text : List Char)
  | list (items : List Item)
  | table (dotted : Bool) (entries : List (String × Item))

abbrev Items := List (String × Item)

/-- Adds an item under a dotted key. Only tables made by dotted keys are entered. -/
def Items.add (item : Item) : List String → Items → Option Items
  | [], _ => none
  | [key], items => some (items ++ [(key, item)])
  | key :: path, items =>
    let (before, found) := items.span fun entry => entry.1 != key
    match found with
    | (_, .table true inner) :: after => do
      return before ++ (key, .table true (← add item path inner)) :: after
    | _ :: _ => none
    | [] => do return items ++ [(key, .table true (← add item path []))]

/-- The key that makes a table a date when it comes first. -/
def dateKey : String := "$__toml_private_datetime"

def Items.isDate (items : Items) : Bool :=
  items.head?.any fun entry => entry.1 == dateKey

def date? (text : List Char) : Option Value :=
  (Date.normalize? text).map fun d => .text (String.ofList d)

/-- The date that a table stands for, spelled as text behind its first key. -/
def Items.date? : Items → Option Value
  | (_, .leaf (.text s)) :: _ => Toml.date? s.toList
  | _ => none

def table? (entries : List (String × Value)) : Option Value :=
  if (entries.map Prod.fst).Nodup then some (.table entries) else none

mutual

def Item.value? : Item → Option Value
  | .leaf v => some v
  | .date text => date? text
  | .list items => (values? items).map .list
  | .table _ entries =>
    if Items.isDate entries then Items.date? entries else do table? (← entries? entries)

def values? : List Item → Option (List Value)
  | [] => some []
  | item :: rest => do return (← item.value?) :: (← values? rest)

def entries? : List (String × Item) → Option (List (String × Value))
  | [] => some []
  | (key, item) :: rest => do return (key, ← item.value?) :: (← entries? rest)

end

structure Section where
  path : List String
  /-- Whether the header adds a table to a list. -/
  listed : Bool
  items : Items

namespace Section

/-- The section as seen from inside the table that its path begins with. -/
def inner (s : Section) : Section := { s with path := s.path.tail }

def opened (s : Section) : Section := { s with listed := false }

def startsTable (s : Section) : Bool := s.path.isEmpty && s.listed

/-- The sections of each table of a list: one starts wherever a header adds a table. -/
def chunks : List Section → List (List Section)
  | [] => []
  | s :: rest =>
    match chunks rest with
    | [] => [[s]]
    | chunk :: more =>
      if (chunk.head?.map startsTable).getD false then [s] :: chunk :: more
      else (s :: chunk) :: more

/-- The first keys of the paths, in the order in which they first appear. -/
def keys (sections : List Section) : List String :=
  (sections.filterMap fun s => s.path.head?).eraseDups

def first? (sections : List Section) : Option Section :=
  sections.find? fun s => !s.path.isEmpty || !s.items.isEmpty

def isDate (sections : List Section) : Bool :=
  (first? sections).any fun s =>
    match s.path with
    | [] => s.items.isDate
    | key :: _ => key == dateKey

def date? (sections : List Section) : Option Value :=
  (first? sections).bind fun s => if s.path.isEmpty then s.items.date? else none

/--
The tables of a list, each with the sections inside it. One that stands for a date leaves the
sections behind it to the next table, and there must be one.
-/
def passOn : List Section → List (List Section) → Option (List (List Section))
  | [], [] => some []
  | left, (s :: rest) :: more =>
    if s.items.isDate then (passOn (left ++ rest) more).map ([s.opened] :: ·)
    else (passOn [] more).map ((s.opened :: left ++ rest) :: ·)
  | _, _ => none

/--
The table of some sections: the entries of the one without a path, then the tables that the
others lead into. Paths get shorter with each level, which bounds the recursion.
-/
def table? : Nat → List Section → Option Value
  | 0, _ => none
  | fuel + 1, sections => do
    let own ←
      match sections.filter fun s => s.path.isEmpty with
      | [] => some []
      | [s] => if s.listed then none else entries? s.items
      | _ => none
    let inner ← (keys sections).mapM fun key => do
      let group := (sections.filter fun s => s.path.head? == some key).map inner
      if (group.head?.map startsTable).getD false then
        return (key, .list (← (← passOn [] (chunks group)).mapM (value? fuel)))
      else return (key, ← value? fuel group)
    Toml.table? (own ++ inner)
where
  /-- A table or a date; a date is a single section. -/
  value? (fuel : Nat) (sections : List Section) : Option Value :=
    if isDate sections then
      if sections.length == 1 then date? sections else none
    else table? fuel sections

def document? (sections : List Section) : Option Value :=
  if isDate sections then date? sections
  else table? (sections.foldl (fun n s => max n s.path.length) 0 + 1) sections

end Section

end LiquidityGraph.Toml
