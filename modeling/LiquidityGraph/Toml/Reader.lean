import LiquidityGraph.Toml.Number

/-! Reading of TOML text, by tokens. -/
namespace LiquidityGraph.Toml

open Config (Value)

def skipBlank : List Token → List Token
  | .blank _ :: rest => rest
  | rest => rest

/-- What follows the end of a line, where only a comment may stand before it. -/
def lineEnd? (tokens : List Token) : Option (List Token) :=
  match skipBlank tokens with
  | [] => some []
  | .newline :: rest => some rest
  | [.comment] => some []
  | .comment :: .newline :: rest => some rest
  | _ => none

def skipLines : List Token → List Token
  | .blank _ :: rest => skipLines rest
  | .newline :: rest => skipLines rest
  | .comment :: rest => skipLines rest
  | rest => rest

def key? : List Token → Option (String × List Token)
  | .word w :: rest => some (String.ofList w, rest)
  | .string s false :: rest => some (String.ofList s, rest)
  | _ => none

/-- The parts of a key behind a point; the fuel is the number of tokens. -/
def moreKeys : Nat → List Token → Option (List String × List Token)
  | 0, _ => none
  | fuel + 1, tokens =>
    match skipBlank tokens with
    | .period :: rest => do
      let (key, rest) ← key? (skipBlank rest)
      let (keys, rest) ← moreKeys fuel rest
      return (key :: keys, rest)
    | rest => some ([], rest)

/-- The parts of a key with points between them, and blanks skipped behind it. -/
def keys? (tokens : List Token) : Option (List String × List Token) := do
  let (key, rest) ← key? tokens
  let (keys, rest) ← moreKeys (rest.length + 1) rest
  return (key :: keys, rest)

def assigned? (tokens : List Token) : Option (List String × List Token) := do
  match ← keys? tokens with
  | (keys, .equals :: rest) => return (keys, skipBlank rest)
  | _ => none

def word? (w : List Char) (rest : List Token) : Option (Item × List Token) :=
  if w == "true".toList then some (.leaf (.bool true), rest)
  else if w == "false".toList then some (.leaf (.bool false), rest)
  else if w == "inf".toList || w == "nan".toList then numberOrDate? w rest
  else if w.head?.any fun c => c == '-' || c.isDigit then numberOrDate? w rest
  else none

mutual

def item? : Nat → List Token → Option (Item × List Token)
  | 0, _ => none
  | fuel + 1, tokens =>
    match tokens with
    | .string s _ :: rest => some (.leaf (.text (String.ofList s)), rest)
    | .word w :: rest => word? w rest
    | .plus :: .word w :: rest => (number? w rest).map fun (v, rest) => (.leaf v, rest)
    | .openBracket :: rest => (array? fuel rest).map fun (items, rest) => (.list items, rest)
    | .openBrace :: rest =>
      match skipBlank rest with
      | .closeBrace :: rest => some (.table false [], rest)
      | rest => (inline? fuel [] rest).map fun (items, rest) => (.table false items, rest)
    | _ => none

def array? : Nat → List Token → Option (List Item × List Token)
  | 0, _ => none
  | fuel + 1, tokens =>
    match skipLines tokens with
    | .closeBracket :: rest => some ([], rest)
    | tokens => do
      let (item, rest) ← item? fuel tokens
      match skipLines rest with
      | .comma :: rest =>
        let (items, rest) ← array? fuel rest
        return (item :: items, rest)
      | .closeBracket :: rest => return ([item], rest)
      | _ => none

/-- The rest of an inline table behind some entries, where another entry must come next. -/
def inline? : Nat → Items → List Token → Option (Items × List Token)
  | 0, _, _ => none
  | fuel + 1, items, tokens => do
    let (keys, rest) ← assigned? tokens
    let (item, rest) ← item? fuel rest
    let items ← items.add item keys
    match skipBlank rest with
    | .comma :: rest => inline? fuel items (skipBlank rest)
    | .closeBrace :: rest => return (items, rest)
    | _ => none

end

/-- A header behind its first bracket: its path, and whether it adds a table to a list. -/
def header? (tokens : List Token) : Option (List String × Bool × List Token) := do
  let (listed, tokens) :=
    match tokens with
    | .openBracket :: rest => (true, rest)
    | rest => (false, rest)
  let (keys, rest) ← keys? (skipBlank tokens)
  match listed, rest with
  | true, .closeBracket :: .closeBracket :: rest => return (keys, true, ← lineEnd? rest)
  | false, .closeBracket :: rest => return (keys, false, ← lineEnd? rest)
  | _, _ => none

def sections? : Nat → Section → List Token → Option (List Section)
  | 0, _, _ => none
  | fuel + 1, current, tokens =>
    match skipLines tokens with
    | [] => some [current]
    | .openBracket :: rest => do
      let (path, listed, rest) ← header? rest
      return current :: (← sections? fuel ⟨path, listed, []⟩ rest)
    | tokens => do
      let (keys, rest) ← assigned? tokens
      let (item, rest) ← item? (2 * rest.length + 1) rest
      let items ← current.items.add item keys
      sections? fuel { current with items } (← lineEnd? rest)

def read? (s : String) : Option Value := do
  let tokens ← Token.ofText? s
  Section.document? (← sections? (tokens.length + 1) ⟨[], false, []⟩ tokens)

end LiquidityGraph.Toml
