import MutationTesting.Regex.Charset
import MutationTesting.Text.Category
import MutationTesting.Text.Script

/-! Classes of characters by the names of their properties: general categories, scripts, and some
properties of letters. -/
namespace MutationTesting.Regex

open Text (Category)

/-- A name in lower case, without separators and without an `is` in front. -/
def looseName (name : String) : String :=
  let kept (cs : List Char) := (cs.filter fun c =>
    c.toNat < 128 && c != ' ' && c != '_' && c != '-').map Char.toLower
  match name.toList with
  | a :: b :: rest =>
    if a.toLower = 'i' ∧ b.toLower = 's' then
      let tail := kept rest
      String.ofList (if tail = ['c'] then ['i', 's', 'c'] else tail)
    else String.ofList (kept (a :: b :: rest))
  | cs => String.ofList (kept cs)

def categoryGroups : List (List String × List Category) := [
  (["l", "letter"], [.lu, .ll, .lt, .lm, .lo]),
  (["lc", "casedletter"], [.lu, .ll, .lt]),
  (["lu", "uppercaseletter"], [.lu]),
  (["ll", "lowercaseletter"], [.ll]),
  (["lt", "titlecaseletter"], [.lt]),
  (["lm", "modifierletter"], [.lm]),
  (["lo", "otherletter"], [.lo]),
  (["m", "mark", "combiningmark"], [.mn, .mc, .me]),
  (["mn", "nonspacingmark"], [.mn]),
  (["mc", "spacingmark"], [.mc]),
  (["me", "enclosingmark"], [.me]),
  (["n", "number"], [.nd, .nl, .no]),
  (["nd", "decimalnumber", "digit"], [.nd]),
  (["nl", "letternumber"], [.nl]),
  (["no", "othernumber"], [.no]),
  (["p", "punctuation", "punct"], [.pc, .pd, .ps, .pe, .pi, .pf, .po]),
  (["pc", "connectorpunctuation"], [.pc]),
  (["pd", "dashpunctuation"], [.pd]),
  (["ps", "openpunctuation"], [.ps]),
  (["pe", "closepunctuation"], [.pe]),
  (["pi", "initialpunctuation"], [.pi]),
  (["pf", "finalpunctuation"], [.pf]),
  (["po", "otherpunctuation"], [.po]),
  (["s", "symbol"], [.sm, .sc, .sk, .so]),
  (["sm", "mathsymbol"], [.sm]),
  (["sc", "currencysymbol"], [.sc]),
  (["sk", "modifiersymbol"], [.sk]),
  (["so", "othersymbol"], [.so]),
  (["z", "separator"], [.zs, .zl, .zp]),
  (["zs", "spaceseparator"], [.zs]),
  (["zl", "lineseparator"], [.zl]),
  (["zp", "paragraphseparator"], [.zp]),
  (["c", "other"], [.cc, .cf, .co, .cn]),
  (["cc", "control", "cntrl"], [.cc]),
  (["cf", "format"], [.cf]),
  (["co", "privateuse"], [.co]),
  (["cn", "unassigned"], [.cn])]

def ofCategories (cs : List Category) : Charset := Text.categoryBands fun c => cs.contains c

/-- The class of a general category, given by its loose name, or one of the three classes that are
named in the same way. -/
def categoryClass? (name : String) : Option Charset :=
  match name with
  | "any" => some .full
  | "assigned" => some (ofCategories [.cn]).complement
  | "ascii" => some (.range 0 127)
  | _ => (categoryGroups.find? fun g => g.1.contains name).map fun g => ofCategories g.2

def letterProperty? (name : String) : Option Charset :=
  if ["alphabetic", "alpha"].contains name then
    some ((ofCategories [.lu, .ll, .lt, .lm, .lo, .nl]).union Text.furtherAlphabeticBands)
  else if ["uppercase", "upper"].contains name then
    some ((ofCategories [.lu]).union Text.furtherUppercaseBands)
  else if ["lowercase", "lower"].contains name then
    some ((ofCategories [.ll]).union Text.furtherLowercaseBands)
  else if ["whitespace", "wspace", "space"].contains name then some Text.blankBands
  else none

def propertyClass? (name : String) : Option Charset :=
  let name := looseName name
  ((letterProperty? name).or (categoryClass? name)).or (Text.scriptBands? name)

/-- The class of a value of a property: of a general category or of a script. -/
def propertyValueClass? (name value : String) : Option Charset :=
  match looseName name with
  | "generalcategory" | "gc" => categoryClass? (looseName value)
  | "script" | "sc" => Text.scriptBands? (looseName value)
  | _ => none

def splitAtSign : (seen : List Char) → List Char → Option (List Char × List Char)
  | _, [] => none
  | seen, c :: cs =>
    if c = ':' ∨ c = '=' then some (seen.reverse, cs) else splitAtSign (c :: seen) cs

def splitAtUnequal : (seen : List Char) → List Char → Option (List Char × List Char)
  | seen, '!' :: '=' :: cs => some (seen.reverse, cs)
  | seen, c :: cs => splitAtUnequal (c :: seen) cs
  | _, [] => none

/-- The class that is named between braces, and whether the name asks for what lies outside it. -/
def namedProperty? (text : List Char) : Option (Charset × Bool) :=
  let ofParts (p : List Char × List Char) :=
    propertyValueClass? (String.ofList p.1) (String.ofList p.2)
  match splitAtUnequal [] text with
  | some p => (ofParts p).map fun s => (s, true)
  | none =>
    match splitAtSign [] text with
    | some p => (ofParts p).map fun s => (s, false)
    | none => (propertyClass? (String.ofList text)).map fun s => (s, false)

end MutationTesting.Regex
