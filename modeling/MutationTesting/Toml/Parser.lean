import MutationTesting.Json.Value

/-! Reading TOML text.

A document is read line by line into a tree of tables. A table remembers how it came about, since a
table must not be defined twice, nor be extended by other means than those that made it. The result
is the same kind of value that other documents are read into; a date becomes a record that no
setting accepts. -/
namespace MutationTesting.Toml

private abbrev Rest := List Char

inductive Origin where
  /-- By a header of its own. -/
  | header
  /-- As the parent of a table with a header. -/
  | implied
  /-- By a dotted key. -/
  | dotted
deriving DecidableEq

inductive Item where
  | value (v : Json)
  | table (origin : Origin) (items : List (String × Item))
  /-- Tables with the same header between double brackets, the last one first. -/
  | tables (ts : List (List (String × Item)))
deriving Inhabited

abbrev Items := List (String × Item)

def maxDepth : Nat := 80

/-! Characters, blanks and comments. -/

def isBlank (c : Char) : Bool := c == ' ' || c == '\t'

def skipBlanks (cs : List Char) : Rest := cs.dropWhile isBlank

def isPlain (c : Char) : Bool := c == '\t' || (0x20 ≤ c.toNat && c.toNat != 0x7f)

def isBare (c : Char) : Bool := c.isAlphanum || c == '_' || c == '-'

def newline? : List Char → Option Rest
  | '\n' :: rest => some rest
  | '\r' :: '\n' :: rest => some rest
  | _ => none

def skipComment : List Char → Rest
  | '#' :: rest => rest.dropWhile isPlain
  | rest => rest

def endOfLine? (cs : List Char) : Option Rest :=
  match skipComment (skipBlanks cs) with
  | [] => some []
  | rest => newline? rest

def skipLayout : (fuel : Nat) → List Char → Option Rest
  | 0, _ => none
  | fuel + 1, cs =>
    match skipBlanks cs with
    | '#' :: rest =>
      match newline? (rest.dropWhile isPlain) with
      | some rest => skipLayout fuel rest
      | none => none
    | rest =>
      match newline? rest with
      | some rest => skipLayout fuel rest
      | none => some rest

/-! Strings. -/

def hexValue? (c : Char) : Option Nat :=
  if c.isDigit then some (c.toNat - 48)
  else if 'a' ≤ c && c ≤ 'f' then some (c.toNat - 87)
  else if 'A' ≤ c && c ≤ 'F' then some (c.toNat - 55)
  else none

def hexNumber? (ds : List Char) : Option Nat :=
  ds.foldlM (fun n d => (hexValue? d).map fun v => 16 * n + v) 0

def numbered? (count : Nat) (cs : List Char) : Option (Char × Rest) :=
  if (cs.take count).length = count then
    match hexNumber? (cs.take count) with
    | some n => if n.isValidChar then some (Char.ofNat n, cs.drop count) else none
    | none => none
  else none

def escaped? : List Char → Option (Char × Rest)
  | 'b' :: rest => some ('\x08', rest)
  | 't' :: rest => some ('\t', rest)
  | 'n' :: rest => some ('\n', rest)
  | 'f' :: rest => some ('\x0c', rest)
  | 'r' :: rest => some ('\r', rest)
  | '"' :: rest => some ('"', rest)
  | '\\' :: rest => some ('\\', rest)
  | 'u' :: rest => numbered? 4 rest
  | 'U' :: rest => numbered? 8 rest
  | _ => none

/-- A string between double quotes, after the first one. -/
def basic? : (fuel : Nat) → List Char → List Char → Option (String × Rest)
  | 0, _, _ => none
  | _ + 1, seen, '"' :: rest => some (String.ofList seen.reverse, rest)
  | fuel + 1, seen, '\\' :: rest => do
    let (c, rest) ← escaped? rest
    basic? fuel (c :: seen) rest
  | fuel + 1, seen, c :: rest => if isPlain c then basic? fuel (c :: seen) rest else none
  | _ + 1, _, [] => none

def literal? (seen : List Char) : List Char → Option (String × Rest)
  | '\'' :: rest => some (String.ofList seen.reverse, rest)
  | c :: rest => if isPlain c then literal? (c :: seen) rest else none
  | [] => none

/-- A run of quotes inside or at the end of a string between triple quotes: three end it, and up to
two more in front of them belong to it. -/
def closing? (quote : Char) (cs : List Char) : Option (Nat × Rest) :=
  let count := (cs.takeWhile (· == quote)).length
  if count < 3 then none else if count ≤ 5 then some (count - 3, cs.drop count) else some (2, cs.drop 5)

/-- Blanks and line ends after a backslash at the end of a line. -/
def skipFolded (cs : List Char) : Rest :=
  cs.dropWhile fun c => isBlank c || c == '\n' || c == '\r'

/-- A string between triple double quotes, after the first three. -/
def longBasic? : (fuel : Nat) → List Char → List Char → Option (String × Rest)
  | 0, _, _ => none
  | _ + 1, _, [] => none
  | fuel + 1, seen, c :: rest =>
    if c = '"' then
      match closing? '"' (c :: rest) with
      | some (extra, rest) =>
        some (String.ofList (List.replicate extra '"' ++ seen).reverse, rest)
      | none => longBasic? fuel (c :: seen) rest
    else if c = '\\' then
      match newline? (skipBlanks rest) with
      | some after => longBasic? fuel seen (skipFolded after)
      | none => do
        let (d, rest) ← escaped? rest
        longBasic? fuel (d :: seen) rest
    else
      match newline? (c :: rest) with
      | some rest => longBasic? fuel ('\n' :: seen) rest
      | none => if isPlain c then longBasic? fuel (c :: seen) rest else none

/-- A string between triple single quotes, after the first three. -/
def longLiteral? : (fuel : Nat) → List Char → List Char → Option (String × Rest)
  | 0, _, _ => none
  | _ + 1, _, [] => none
  | fuel + 1, seen, c :: rest =>
    if c = '\'' then
      match closing? '\'' (c :: rest) with
      | some (extra, rest) =>
        some (String.ofList (List.replicate extra '\'' ++ seen).reverse, rest)
      | none => longLiteral? fuel (c :: seen) rest
    else
      match newline? (c :: rest) with
      | some rest => longLiteral? fuel ('\n' :: seen) rest
      | none => if isPlain c then longLiteral? fuel (c :: seen) rest else none

/-- A line end right after the opening quotes does not count. -/
def skipFirstNewline (cs : List Char) : Rest := (newline? cs).getD cs

def string? (cs : List Char) : Option (String × Rest) :=
  let fuel := cs.length + 1
  match cs with
  | '"' :: '"' :: '"' :: rest => longBasic? fuel [] (skipFirstNewline rest)
  | '\'' :: '\'' :: '\'' :: rest => longLiteral? fuel [] (skipFirstNewline rest)
  | '"' :: rest => basic? fuel [] rest
  | '\'' :: rest => literal? [] rest
  | _ => none

/-! Keys. -/

def simpleKey? (cs : List Char) : Option (String × Rest) :=
  match cs with
  | '"' :: rest => basic? (cs.length + 1) [] rest
  | '\'' :: rest => literal? [] rest
  | _ =>
    let word := cs.takeWhile isBare
    if word.isEmpty then none else some (String.ofList word, cs.drop word.length)

def key? : (fuel : Nat) → List Char → Option (List String × Rest)
  | 0, _ => none
  | fuel + 1, cs => do
    let (k, rest) ← simpleKey? (skipBlanks cs)
    match skipBlanks rest with
    | '.' :: rest => do
      let (ks, rest) ← key? fuel rest
      some (k :: ks, rest)
    | rest => some ([k], rest)

/-! Numbers and dates. -/

/-- Digits with single underscores between them. -/
def digits? (isDigit : Char → Bool) : List Char → Option (List Char × Rest)
  | [] => none
  | c :: cs =>
    if isDigit c then
      match cs with
      | '_' :: rest => (digits? isDigit rest).map fun p => (c :: p.1, p.2)
      | d :: rest =>
        if isDigit d then (digits? isDigit (d :: rest)).map fun p => (c :: p.1, p.2)
        else some ([c], d :: rest)
      | [] => some ([c], [])
    else none

def number10 (ds : List Char) : Nat := ds.foldl (fun n d => 10 * n + (d.toNat - 48)) 0

def int64? (i : Int) : Option Json :=
  if -9223372036854775808 ≤ i ∧ i ≤ 9223372036854775807 then some (.int i) else none

def radix? (isDigit : Char → Bool) (base : Nat) (cs : List Char) : Option (Json × Rest) := do
  let (ds, rest) ← digits? isDigit cs
  let n ← ds.foldlM (fun n d => (hexValue? d).map fun v => base * n + v) 0
  let v ← int64? n
  some (v, rest)

def sign : List Char → Bool × Rest
  | '-' :: rest => (true, rest)
  | '+' :: rest => (false, rest)
  | rest => (false, rest)

def fraction? : List Char → Option (List Char × Rest)
  | '.' :: rest => digits? Char.isDigit rest
  | rest => some ([], rest)

def exponent? : List Char → Option (Option Int × Rest)
  | c :: rest =>
    if c = 'e' ∨ c = 'E' then do
      let (negative, rest) := sign rest
      let (ds, rest) ← digits? Char.isDigit rest
      let n : Int := number10 ds
      some (some (if negative then -n else n), rest)
    else some (none, c :: rest)
  | [] => some (none, [])

/-- A decimal number, whole or not. A number too large for a double is none, unless negative. -/
def decimal? (cs : List Char) : Option (Json × Rest) := do
  let (negative, cs) := sign cs
  match cs with
  | 'i' :: 'n' :: 'f' :: rest =>
    some (.real (.ofCode negative Binary64.infinityCode), rest)
  | 'n' :: 'a' :: 'n' :: rest => some (.real { Binary64.nan with negative := negative }, rest)
  | _ =>
    let (whole, cs) ← digits? Char.isDigit cs
    if whole.length > 1 ∧ whole.head? = some '0' then none
    let (fraction, cs) ← fraction? cs
    let (exponent, cs) ← exponent? cs
    if fraction.isEmpty ∧ exponent.isNone then
      let n : Int := number10 whole
      let v ← int64? (if negative then -n else n)
      some (v, cs)
    else
      let x := Binary64.ofDecimal negative (number10 (whole ++ fraction))
        (exponent.getD 0 - fraction.length)
      if x.isInfinite ∧ !x.negative then none else some (.real x, cs)

def field? (count low high : Nat) (cs : List Char) : Option (Nat × Rest) :=
  let ds := cs.take count
  if ds.length = count ∧ ds.all Char.isDigit then
    let n := number10 ds
    if low ≤ n ∧ n ≤ high then some (n, cs.drop count) else none
  else none

def daysIn (year month : Nat) : Nat :=
  if month = 2 then
    if year % 4 = 0 ∧ (year % 100 ≠ 0 ∨ year % 400 = 0) then 29 else 28
  else if month = 4 ∨ month = 6 ∨ month = 9 ∨ month = 11 then 30
  else 31

def expect? (c : Char) : List Char → Option Rest
  | d :: rest => if c = d then some rest else none
  | [] => none

def date? (cs : List Char) : Option Rest := do
  let (year, cs) ← field? 4 0 9999 cs
  let (month, cs) ← field? 2 1 12 (← expect? '-' cs)
  let (_, cs) ← field? 2 1 (daysIn year month) (← expect? '-' cs)
  some cs

def time? (cs : List Char) : Option Rest := do
  let (_, cs) ← field? 2 0 23 cs
  let (_, cs) ← field? 2 0 59 (← expect? ':' cs)
  let (_, cs) ← field? 2 0 60 (← expect? ':' cs)
  match cs with
  | '.' :: rest =>
    let ds := rest.takeWhile Char.isDigit
    if ds.isEmpty then none else some (rest.drop ds.length)
  | rest => some rest

def offset? : List Char → Option Rest
  | 'Z' :: rest | 'z' :: rest => some rest
  | c :: rest =>
    if c = '+' ∨ c = '-' then do
      let (_, cs) ← field? 2 0 23 rest
      let (_, cs) ← field? 2 0 59 (← expect? ':' cs)
      some cs
    else some (c :: rest)
  | [] => some []

def dateTime? (cs : List Char) : Option (Json × Rest) :=
  let moment : Json := .obj [("$date", .str "")]
  match date? cs with
  | some rest =>
    match rest with
    | c :: after =>
      if c = 'T' ∨ c = 't' ∨ (c = ' ' ∧ after.head?.any Char.isDigit) then do
        let rest ← time? after
        let rest ← offset? rest
        some (moment, rest)
      else some (moment, c :: after)
    | [] => some (moment, [])
  | none => (time? cs).map fun rest => (moment, rest)

def looksLikeDate (cs : List Char) : Bool :=
  (cs.take 4).length = 4 && (cs.take 4).all Char.isDigit && cs[4]? == some '-' ||
    (cs.take 2).length = 2 && (cs.take 2).all Char.isDigit && cs[2]? == some ':'

def isOctal (c : Char) : Bool := '0' ≤ c && c ≤ '7'

def isBinary (c : Char) : Bool := c == '0' || c == '1'

def isHex (c : Char) : Bool := (hexValue? c).isSome

def scalar? (cs : List Char) : Option (Json × Rest) :=
  match cs with
  | '"' :: _ | '\'' :: _ => (string? cs).map fun p => (.str p.1, p.2)
  | 't' :: 'r' :: 'u' :: 'e' :: rest => some (.bool true, rest)
  | 'f' :: 'a' :: 'l' :: 's' :: 'e' :: rest => some (.bool false, rest)
  | '0' :: 'x' :: rest => radix? isHex 16 rest
  | '0' :: 'o' :: rest => radix? isOctal 8 rest
  | '0' :: 'b' :: rest => radix? isBinary 2 rest
  | _ => if looksLikeDate cs then dateTime? cs else decimal? cs

/-! Tables. -/

mutual

/-- The plain value of a tree of tables. -/
def Item.toJson : Item → Json
  | .value v => v
  | .table _ items => .obj (itemsToJson items)
  | .tables ts => .arr (tablesToJson ts).reverse

def itemsToJson : List (String × Item) → List (String × Json)
  | [] => []
  | (k, i) :: rest => (k, i.toJson) :: itemsToJson rest

def tablesToJson : List (List (String × Item)) → List Json
  | [] => []
  | t :: ts => .obj (itemsToJson t) :: tablesToJson ts

end

def find? (k : String) : Items → Option Item
  | [] => none
  | (l, i) :: rest => if k = l then some i else find? k rest

def put (k : String) (i : Item) : Items → Items
  | [] => [(k, i)]
  | (l, j) :: rest => if k = l then (k, i) :: rest else (l, j) :: put k i rest

/-- A value under a dotted key. Tables on the way are made, or must have been made in the same
way. -/
def putDotted? : List String → Json → Items → Option Items
  | [], _, _ => none
  | [k], v, items => if (find? k items).isSome then none else some (put k (.value v) items)
  | k :: ks, v, items =>
    match find? k items with
    | none => (putDotted? ks v []).map fun inner => put k (.table .dotted inner) items
    | some (.table .dotted inner) =>
      (putDotted? ks v inner).map fun inner => put k (.table .dotted inner) items
    | some _ => none

/-- Changes the items of the table that the keys lead to; of several tables with one header the
last one is meant, and missing tables are made. -/
def descend? (change : Items → Option Items) : List String → Items → Option Items
  | [], items => change items
  | k :: ks, items =>
    match find? k items with
    | none => (descend? change ks []).map fun inner => put k (.table .implied inner) items
    | some (.table origin inner) =>
      (descend? change ks inner).map fun inner => put k (.table origin inner) items
    | some (.tables (t :: ts)) =>
      (descend? change ks t).map fun t => put k (.tables (t :: ts)) items
    | some _ => none

/-- Opens the table of a header, which must not have been defined before. -/
def openTable? (k : String) (items : Items) : Option Items :=
  match find? k items with
  | none => some (put k (.table .header []) items)
  | some (.table .implied inner) => some (put k (.table .header inner) items)
  | some _ => none

/-- Opens one more of the tables that share a header. -/
def openNext? (k : String) (items : Items) : Option Items :=
  match find? k items with
  | none => some (put k (.tables [[]]) items)
  | some (.tables ts) => some (put k (.tables ([] :: ts)) items)
  | some _ => none

mutual

/-- A value; arrays and inline tables may nest as deep as `depth` says. -/
def value? : (fuel depth : Nat) → List Char → Option (Json × Rest)
  | 0, _, _ => none
  | fuel + 1, depth, '[' :: rest =>
    match depth with
    | 0 => none
    | depth + 1 => (items? fuel depth [] rest).map fun p => (.arr p.1, p.2)
  | fuel + 1, depth, '{' :: rest =>
    match depth with
    | 0 => none
    | depth + 1 =>
      match skipBlanks rest with
      | '}' :: rest => some (.obj [], rest)
      | rest => (inline? fuel depth [] rest).map fun p => (.obj (itemsToJson p.1), p.2)
  | _ + 1, _, cs => scalar? cs

def items? : (fuel depth : Nat) → List Json → List Char → Option (List Json × Rest)
  | 0, _, _, _ => none
  | fuel + 1, depth, seen, cs => do
    match ← skipLayout (cs.length + 1) cs with
    | ']' :: rest => some (seen.reverse, rest)
    | rest => do
      let (v, rest) ← value? fuel depth rest
      match ← skipLayout (rest.length + 1) rest with
      | ',' :: rest => items? fuel depth (v :: seen) rest
      | ']' :: rest => some ((v :: seen).reverse, rest)
      | _ => none

def inline? : (fuel depth : Nat) → Items → List Char → Option (Items × Rest)
  | 0, _, _, _ => none
  | fuel + 1, depth, items, cs => do
    let (ks, rest) ← key? (cs.length + 1) cs
    let rest ← expect? '=' rest
    let (v, rest) ← value? fuel depth (skipBlanks rest)
    let items ← putDotted? ks v items
    match skipBlanks rest with
    | ',' :: rest => inline? fuel depth items rest
    | '}' :: rest => some (items, rest)
    | _ => none

end

/-- The keys of the table that pairs belong to, and everything read so far. -/
structure Document where
  header : List String := []
  items : Items := []

/-- A header between brackets, after the opening ones. -/
def header? (d : Document) (isArray : Bool) (cs : List Char) : Option (Document × Rest) := do
  let (ks, rest) ← key? (cs.length + 1) cs
  let rest ← expect? ']' rest
  let rest ← if isArray then expect? ']' rest else some rest
  let last ← ks.getLast?
  let items ← descend? (if isArray then openNext? last else openTable? last) ks.dropLast d.items
  some ({ header := ks, items }, rest)

def pair? (d : Document) (cs : List Char) : Option (Document × Rest) := do
  let (ks, rest) ← key? (cs.length + 1) cs
  let rest ← expect? '=' rest
  let (v, rest) ← value? (2 * cs.length + 2) maxDepth (skipBlanks rest)
  let items ← descend? (putDotted? ks v) d.header d.items
  some ({ d with items }, rest)

def lines? : (fuel : Nat) → Document → List Char → Option Document
  | 0, _, _ => none
  | fuel + 1, d, cs =>
    match skipBlanks cs with
    | [] => some d
    | c :: rest =>
      if c = '#' ∨ c = '\n' ∨ c = '\r' then
        match endOfLine? (c :: rest) with
        | some rest => lines? fuel d rest
        | none => none
      else do
        let (d, rest) ←
          match c, rest with
          | '[', '[' :: rest => header? d true rest
          | '[', rest => header? d false rest
          | c, rest => pair? d (c :: rest)
        lines? fuel d (← endOfLine? rest)

/-- The value a text denotes; a mark of the byte order in front does not count. -/
def parse? (text : String) : Option Json :=
  let cs := match text.toList with
    | '\ufeff' :: rest => rest
    | cs => cs
  (lines? (cs.length + 1) {} cs).map fun d => .obj (itemsToJson d.items)

end MutationTesting.Toml
