import CodeFold.Data.Toml.Value

/-!
# Reading TOML

A text is read into statements, one a line: headers and pairs of a key and a value. The statements
are then put together into one table.
Specification: §10.
-/

namespace CodeFold.Toml

/-- A line of a document. -/
inductive Statement where
  | table (path : List String) (key : String)
  | item (path : List String) (key : String)
  | pair (path : List String) (key : String) (value : DataTree)

/-- How deep lists and inline tables may stand in one another, and the number of parts of a dotted
key: both lie below this number. -/
def depthBound : Nat := 80

/-! ## Layout -/

/-- Blanks and tabs. -/
def isGap (c : Char) : Bool := c = ' ' || c = '\t'

/-- Drops blanks and tabs. -/
def skipGap (cs : List Char) : List Char := cs.dropWhile isGap

/-- Characters that may stand in comments and strings. -/
def isText (c : Char) : Bool := c = '\t' || (' ' ≤ c && c ≠ '\x7f')

/-- Reads the end of a line. -/
def newline? : List Char → Option (List Char)
  | '\n' :: rest => some rest
  | '\r' :: '\n' :: rest => some rest
  | _ => none

/-- Drops a comment. -/
def skipComment : List Char → List Char
  | '#' :: rest => rest.dropWhile isText
  | cs => cs

/-- Reads what may follow a statement up to the end of its line. -/
def lineEnd? (cs : List Char) : Option (List Char) :=
  match skipComment (skipGap cs) with
  | [] => some []
  | cs => newline? cs

/-- Drops gaps, comments and ends of lines. -/
def skipLines : Nat → List Char → Option (List Char)
  | 0, _ => none
  | fuel + 1, cs =>
    match skipGap cs with
    | '#' :: rest => (newline? (rest.dropWhile isText)).bind (skipLines fuel)
    | '\n' :: rest => skipLines fuel rest
    | '\r' :: '\n' :: rest => skipLines fuel rest
    | rest => some rest

/-! ## Strings -/

/-- Reads a character given by `n` hexadecimal digits. -/
def hexChar? (n : Nat) (cs : List Char) : Option (Char × List Char) := do
  let ds := cs.take n
  let code ← ofDigits? 16 ds
  if ds.length = n && code.isValidChar then some (Char.ofNat code, cs.drop n) else none

/-- Reads an escape after its backslash. -/
def escape? : List Char → Option (Char × List Char)
  | 'b' :: rest => some ('\x08', rest)
  | 't' :: rest => some ('\t', rest)
  | 'n' :: rest => some ('\n', rest)
  | 'f' :: rest => some ('\x0c', rest)
  | 'r' :: rest => some ('\r', rest)
  | '"' :: rest => some ('"', rest)
  | '\\' :: rest => some ('\\', rest)
  | 'u' :: rest => hexChar? 4 rest
  | 'U' :: rest => hexChar? 8 rest
  | _ => none

/-- Reads a string in double quotes after the first of them. -/
def basic? : Nat → List Char → List Char → Option (String × List Char)
  | 0, _, _ => none
  | fuel + 1, acc, cs =>
    match cs with
    | '"' :: rest => some (String.ofList acc.reverse, rest)
    | '\\' :: rest => (escape? rest).bind fun (c, rest) => basic? fuel (c :: acc) rest
    | c :: rest => if isText c then basic? fuel (c :: acc) rest else none
    | [] => none

/-- Reads a string in single quotes after the first of them. -/
def literal? (cs : List Char) : Option (String × List Char) :=
  match cs.span fun c => isText c && c ≠ '\'' with
  | (text, '\'' :: rest) => some (String.ofList text, rest)
  | _ => none

/-- Drops the end of a line after a backslash, and all gaps and ends of lines that follow it. -/
def lineGlue? (cs : List Char) : Option (List Char) :=
  let rec skip : List Char → List Char
    | '\r' :: '\n' :: rest => skip rest
    | c :: rest => if isGap c || c = '\n' then skip rest else c :: rest
    | [] => []
  (newline? (skipGap cs)).map skip

/-- How many quotes stand at the start of a text. -/
def countQuotes (quote : Char) (cs : List Char) : Nat := (cs.takeWhile (· = quote)).length

/-- Reads a string of several lines after its opening quotes. Up to two quotes in a row belong to the
text, also right before the closing ones; `escapes` tells whether a backslash has a meaning. -/
def multiline? (quote : Char) (escapes : Bool) :
    Nat → List Char → List Char → Option (String × List Char)
  | 0, _, _ => none
  | fuel + 1, acc, cs =>
    match cs with
    | [] => none
    | '\n' :: rest => multiline? quote escapes fuel ('\n' :: acc) rest
    | '\r' :: '\n' :: rest => multiline? quote escapes fuel ('\n' :: acc) rest
    | c :: rest =>
      if c = quote then
        let n := countQuotes quote cs
        if n < 3 then multiline? quote escapes fuel (List.replicate n quote ++ acc) (cs.drop n)
        else
          let extra := min (n - 3) 2
          some (String.ofList (List.replicate extra quote ++ acc).reverse, cs.drop (3 + extra))
      else if escapes && c = '\\' then
        match lineGlue? rest with
        | some rest => multiline? quote escapes fuel acc rest
        | none => (escape? rest).bind fun (c, rest) => multiline? quote escapes fuel (c :: acc) rest
      else if isText c then multiline? quote escapes fuel (c :: acc) rest
      else none

/-- Drops the end of a line right behind opening quotes. -/
def dropFirstNewline (cs : List Char) : List Char := (newline? cs).getD cs

/-- Reads a string. -/
def string? (cs : List Char) : Option (String × List Char) :=
  let fuel := cs.length + 1
  match cs with
  | '"' :: '"' :: '"' :: rest => multiline? '"' true fuel [] (dropFirstNewline rest)
  | '"' :: rest => basic? fuel [] rest
  | '\'' :: '\'' :: '\'' :: rest => multiline? '\'' false fuel [] (dropFirstNewline rest)
  | '\'' :: rest => literal? rest
  | _ => none

/-! ## Keys -/

/-- Characters of keys without quotes. -/
def isKeyChar (c : Char) : Bool := c.isAlphanum || c = '_' || c = '-'

/-- Reads one part of a key. -/
def keyPart? (cs : List Char) : Option (String × List Char) :=
  match cs with
  | '"' :: rest => basic? (rest.length + 1) [] rest
  | '\'' :: rest => literal? rest
  | _ =>
    match cs.span isKeyChar with
    | ([], _) => none
    | (key, rest) => some (String.ofList key, rest)

/-- Reads a dotted key: the parts before the last one, in reverse, and the last one. -/
def keyFrom? : Nat → List String → List Char → Option (List String × String × List Char)
  | 0, _, _ => none
  | fuel + 1, acc, cs => do
    let (part, rest) ← keyPart? (skipGap cs)
    match skipGap rest with
    | '.' :: rest => keyFrom? fuel (part :: acc) rest
    | rest => some (acc, part, rest)

/-- Reads a dotted key: the parts before the last one, and the last one. -/
def key? (cs : List Char) : Option (List String × String × List Char) := do
  let (path, key, rest) ← keyFrom? (cs.length + 1) [] cs
  if path.length + 1 < depthBound then some (path.reverse, key, rest) else none

/-! ## Numbers -/

/-- Reads digits, the first of which is `c`. Single underscores may stand between digits. -/
def digitsFrom? (isDigit : Char → Bool) (acc : List Char) : List Char → Option (List Char × List Char)
  | '_' :: c :: rest => if isDigit c then digitsFrom? isDigit (c :: acc) rest else none
  | c :: rest =>
    if isDigit c then digitsFrom? isDigit (c :: acc) rest
    else if c = '_' then none
    else some (acc.reverse, c :: rest)
  | [] => some (acc.reverse, [])

/-- Reads one digit or more. -/
def digits? (isDigit : Char → Bool) : List Char → Option (List Char × List Char)
  | c :: rest => if isDigit c then digitsFrom? isDigit [c] rest else none
  | [] => none

/-- Reads a sign: whether it is a minus, and what follows. -/
def sign : List Char → Bool × List Char
  | '+' :: rest => (false, rest)
  | '-' :: rest => (true, rest)
  | cs => (false, cs)

/-- Reads the digits of a whole number, which begins with a zero only if it is zero. -/
def whole? : List Char → Option (List Char × List Char)
  | '0' :: rest => some (['0'], rest)
  | cs => digits? Char.isDigit cs

/-- Reads the exponent of a number, if there is one. -/
def exponent? : List Char → Option (Option Int × List Char)
  | 'e' :: rest | 'E' :: rest => do
    let (negative, rest) := sign rest
    let (ds, rest) ← digits? Char.isDigit rest
    let n : Int := ofDecimalDigits ds
    return (some (if negative then -n else n), rest)
  | cs => some (none, cs)

/-- A number with a fraction or an exponent; one too large for a positive number is refused. -/
def float? (negative : Bool) (ds : List Char) (e : Int) : Option DataTree :=
  match Binary64.ofDecimal negative (ofDecimalDigits ds) e with
  | some x => some (.number (.number (.float x)))
  | none => if negative then some (.number .notFinite) else none

/-- An integer of 64 bits with a sign. -/
def integer? (negative : Bool) (n : Nat) : Option DataTree :=
  let i : Int := if negative then -n else n
  if -Int.pow 2 63 ≤ i && i < Int.pow 2 63 then some (.number (.number (.int i))) else none

/-- Reads a decimal number. -/
def decimal? (cs : List Char) : Option (DataTree × List Char) := do
  let (negative, cs) := sign cs
  let (ds, cs) ← whole? cs
  match cs with
  | '.' :: rest =>
    let (fs, rest) ← digits? Char.isDigit rest
    let (e, rest) ← exponent? rest
    return (← float? negative (ds ++ fs) (e.getD 0 - fs.length), rest)
  | cs =>
    match ← exponent? cs with
    | (some e, rest) => return (← float? negative ds e, rest)
    | (none, rest) => return (← integer? negative (ofDecimalDigits ds), rest)

/-- Reads an integer to the base 16, 8 or 2 after the letter that tells the base. -/
def radix? (base : Nat) (cs : List Char) : Option (DataTree × List Char) := do
  let isDigit (c : Char) : Bool := (hexDigit? c).any (· < base)
  let (ds, rest) ← digits? isDigit cs
  return (← integer? false (← ofDigits? base ds), rest)

/-- The key under which a date or a time stands in the data. -/
def dateTimeKey : String := "$__toml_private_datetime"

/-- Reads a number, a date or a time. -/
def number? (cs : List Char) : Option (DataTree × List Char) :=
  match DateTime.read? cs with
  | some (d, rest) => some (.object [(some dateTimeKey, .string (some d.toText))] true, rest)
  | none =>
    match cs with
    | '0' :: 'x' :: rest => radix? 16 rest
    | '0' :: 'o' :: rest => radix? 8 rest
    | '0' :: 'b' :: rest => radix? 2 rest
    | _ =>
      match (sign cs).2 with
      | 'i' :: 'n' :: 'f' :: rest | 'n' :: 'a' :: 'n' :: rest => some (.number .notFinite, rest)
      | _ => decimal? cs

/-! ## Values -/

/-- The data of an inline table with some pairs. -/
def inlineTable? (pairs : List (List String × String × DataTree)) : Option DataTree := do
  let members ← pairs.foldlM (fun ms (path, key, value) =>
    Members.addPair value key path ms) []
  return .object (membersToTree members) true

mutual

/-- Reads a value at a depth. -/
def value? (depth : Nat) : Nat → List Char → Option (DataTree × List Char)
  | 0, _ => none
  | fuel + 1, cs =>
    match cs with
    | '"' :: _ | '\'' :: _ => (string? cs).map fun (s, rest) => (.string (some s), rest)
    | '[' :: rest =>
      if depth + 1 < depthBound then
        (items? (depth + 1) fuel rest).map fun (items, rest) => (.array items true, rest)
      else none
    | '\x7b' :: rest =>
      if depth + 1 < depthBound then do
        let (pairs, rest) ← pairs? (depth + 1) fuel (skipGap rest)
        return (← inlineTable? pairs, rest)
      else none
    | 't' :: 'r' :: 'u' :: 'e' :: rest => some (.bool true, rest)
    | 'f' :: 'a' :: 'l' :: 's' :: 'e' :: rest => some (.bool false, rest)
    | _ => number? cs

/-- Reads the items of a list up to its end. A comma may follow the last one. -/
def items? (depth : Nat) : Nat → List Char → Option (List DataTree × List Char)
  | 0, _ => none
  | fuel + 1, cs => do
    match ← skipLines (cs.length + 1) cs with
    | ']' :: rest => return ([], rest)
    | cs =>
      let (item, rest) ← value? depth fuel cs
      match ← skipLines (rest.length + 1) rest with
      | ']' :: rest => return ([item], rest)
      | ',' :: rest =>
        let (items, rest) ← items? depth fuel rest
        return (item :: items, rest)
      | _ => none

/-- Reads the pairs of an inline table up to its end. -/
def pairs? (depth : Nat) :
    Nat → List Char → Option (List (List String × String × DataTree) × List Char)
  | 0, _ => none
  | fuel + 1, cs =>
    match cs with
    | '\x7d' :: rest => some ([], rest)
    | _ => pairsFrom? depth fuel cs

/-- Reads one pair or more. -/
def pairsFrom? (depth : Nat) :
    Nat → List Char → Option (List (List String × String × DataTree) × List Char)
  | 0, _ => none
  | fuel + 1, cs => do
    let (path, key, rest) ← key? cs
    match rest with
    | '=' :: rest =>
      let (value, rest) ← value? depth fuel (skipGap rest)
      match skipGap rest with
      | '\x7d' :: rest => return ([(path, key, value)], rest)
      | ',' :: rest =>
        let (pairs, rest) ← pairsFrom? depth fuel rest
        return ((path, key, value) :: pairs, rest)
      | _ => none
    | _ => none

end

/-! ## Documents -/

/-- Reads a statement. -/
def statement? (cs : List Char) : Option (Statement × List Char) := do
  match cs with
  | '[' :: '[' :: rest =>
    match ← key? rest with
    | (path, key, ']' :: ']' :: rest) => return (.item path key, ← lineEnd? rest)
    | _ => none
  | '[' :: rest =>
    match ← key? rest with
    | (path, key, ']' :: rest) => return (.table path key, ← lineEnd? rest)
    | _ => none
  | _ =>
    match ← key? cs with
    | (path, key, '=' :: rest) =>
      let rest := skipGap rest
      let (value, rest) ← value? 0 (2 * rest.length + 2) rest
      return (.pair path key value, ← lineEnd? rest)
    | _ => none

/-- Reads all statements. -/
def statements? : Nat → List Char → Option (List Statement)
  | 0, _ => none
  | fuel + 1, cs => do
    match skipGap cs with
    | [] => return []
    | '#' :: rest => statements? fuel (← lineEnd? ('#' :: rest))
    | '\n' :: rest | '\r' :: '\n' :: rest => statements? fuel rest
    | cs =>
      let (s, rest) ← statement? cs
      return s :: (← statements? fuel rest)

/-- The table that pairs are added to: the keys of its header, or none for the whole document. -/
abbrev Current := List String

/-- Adds a statement to a document. -/
def addStatement (state : Current × Members) : Statement → Option (Current × Members)
  | .table path key => do
    return (path ++ [key], ← state.2.descend (·.openTable key) path)
  | .item path key => do
    return (path ++ [key], ← state.2.descend (·.openItem key) path)
  | .pair path key value => do
    return (state.1, ← state.2.descend (Members.addPair value key path) state.1)

/-- Drops a mark for the byte order at the start of a text. -/
def dropMark : List Char → List Char
  | '\ufeff' :: rest => rest
  | cs => cs

/-- The data of a text; a text that is not well formed has none. -/
def read? (text : String) : Option DataTree := do
  let cs := dropMark text.toList
  let statements ← statements? (cs.length + 1) cs
  let (_, members) ← statements.foldlM addStatement ([], [])
  return .object (membersToTree members) true

end CodeFold.Toml
