import TokenMint.Regex.CharSet
import TokenMint.Text.Alphabetic
import TokenMint.Text.Blank
import TokenMint.Text.Category

/-!
# Properties of characters by name

An expression can ask for the characters with a property, by one letter, by a name, or by a property
and its value (`PropertyQuery`). What goes by which name is data that an expression is read with
(`Properties`), and reading works with any. `Properties.standard` knows the general categories in
all spellings of their names, what is made up of them, the alphabetic characters, and white space.
Names of scripts, of ages and of the many other properties are left to further tables.
-/

set_option autoImplicit false
set_option relaxedAutoImplicit false

namespace TokenMint.Regex

open Text (Category)

/-- What an expression asks for. -/
inductive PropertyQuery where
  | letter (c : Char)
  | name (name : List Char)
  /-- A property and its value; `differs`, if they stand on the two sides of `!=`. -/
  | value (differs : Bool) (property value : List Char)

/-- The text before and after the first occurrence of a sign, if there is one. -/
def splitAtSign (sign : List Char) : List Char → Option (List Char × List Char)
  | [] => none
  | c :: rest =>
    if sign.isPrefixOf (c :: rest) then some ([], (c :: rest).drop sign.length)
    else (splitAtSign sign rest).map fun parts ↦ (c :: parts.1, parts.2)

/-- What a text between braces asks for. -/
def PropertyQuery.ofText (text : List Char) : PropertyQuery :=
  match splitAtSign ['!', '='] text, splitAtSign [':'] text, splitAtSign ['='] text with
  | some (left, right), _, _ => .value true left right
  | none, some (left, right), _ | none, none, some (left, right) => .value false left right
  | none, none, none => .name text

/-- The characters that queries ask for, if there are any such properties. -/
structure Properties where
  find? : PropertyQuery → Option CharSet

/-! ### The general categories -/

/-- The characters of a category. -/
def categorySet (category : Category) : CharSet :=
  category.striped.foldr (fun code set ↦ set.insert code code) ⟨category.ranges⟩

/-- The characters of several categories. -/
def categoriesSet (categories : List Category) : CharSet :=
  categories.foldr (fun category set ↦ (categorySet category).union set) CharSet.none

/-- The names of categories and of groups of categories. -/
def categoryNames : List (List String × List Category) :=
  [(["l", "letter"],
      [.uppercaseLetter, .lowercaseLetter, .titlecaseLetter, .modifierLetter, .otherLetter]),
    (["lc", "casedletter"], [.uppercaseLetter, .lowercaseLetter, .titlecaseLetter]),
    (["lu", "uppercaseletter"], [.uppercaseLetter]),
    (["ll", "lowercaseletter"], [.lowercaseLetter]),
    (["lt", "titlecaseletter"], [.titlecaseLetter]),
    (["lm", "modifierletter"], [.modifierLetter]),
    (["lo", "otherletter"], [.otherLetter]),
    (["m", "mark", "combiningmark"], [.nonspacingMark, .spacingMark, .enclosingMark]),
    (["mn", "nonspacingmark"], [.nonspacingMark]),
    (["mc", "spacingmark"], [.spacingMark]),
    (["me", "enclosingmark"], [.enclosingMark]),
    (["n", "number"], [.decimalNumber, .letterNumber, .otherNumber]),
    (["nd", "decimalnumber", "digit"], [.decimalNumber]),
    (["nl", "letternumber"], [.letterNumber]),
    (["no", "othernumber"], [.otherNumber]),
    (["p", "punctuation", "punct"],
      [.connectorPunctuation, .dashPunctuation, .openPunctuation, .closePunctuation,
        .initialPunctuation, .finalPunctuation, .otherPunctuation]),
    (["pc", "connectorpunctuation"], [.connectorPunctuation]),
    (["pd", "dashpunctuation"], [.dashPunctuation]),
    (["ps", "openpunctuation"], [.openPunctuation]),
    (["pe", "closepunctuation"], [.closePunctuation]),
    (["pi", "initialpunctuation"], [.initialPunctuation]),
    (["pf", "finalpunctuation"], [.finalPunctuation]),
    (["po", "otherpunctuation"], [.otherPunctuation]),
    (["s", "symbol"], [.mathSymbol, .currencySymbol, .modifierSymbol, .otherSymbol]),
    (["sm", "mathsymbol"], [.mathSymbol]),
    (["sc", "currencysymbol"], [.currencySymbol]),
    (["sk", "modifiersymbol"], [.modifierSymbol]),
    (["so", "othersymbol"], [.otherSymbol]),
    (["z", "separator"], [.spaceSeparator, .lineSeparator, .paragraphSeparator]),
    (["zs", "spaceseparator"], [.spaceSeparator]),
    (["zl", "lineseparator"], [.lineSeparator]),
    (["zp", "paragraphseparator"], [.paragraphSeparator]),
    (["cc", "control", "cntrl"], [.control]),
    (["cf", "format"], [.format]),
    (["co", "privateuse"], [.privateUse])]

/-- The categories of assigned characters that are in no other group. -/
def specialCategories : List Category :=
  [.control, .format, .privateUse]

/-- All assigned characters: those of the groups with a name of one letter, and the special ones. -/
def assigned : CharSet :=
  let groups := categoryNames.filter fun entry ↦ entry.1.any (·.length = 1)
  categoriesSet (groups.flatMap Prod.snd ++ specialCategories)

/-- The characters that are not assigned. Surrogates are no characters. -/
def unassigned : CharSet :=
  assigned.complement.erase 0xd800 0xdfff

/-- The letters and letter numbers, and what else is alphabetic. -/
def alphabetic : CharSet :=
  (categoriesSet [.uppercaseLetter, .lowercaseLetter, .titlecaseLetter, .modifierLetter,
    .otherLetter, .letterNumber]).union ⟨Text.otherAlphabeticRanges⟩

/-- The numbers of all kinds. -/
def numeric : CharSet :=
  categoriesSet [.decimalNumber, .letterNumber, .otherNumber]

/-- The characters of a value of the general category. -/
def categoryNamed? (name : String) : Option CharSet :=
  match name with
  | "any" => some CharSet.all
  | "ascii" => some ⟨[(0, 0x7f)]⟩
  | "assigned" => some assigned
  | "cn" | "unassigned" => some unassigned
  | "c" | "other" => some ((categoriesSet specialCategories).union unassigned)
  | _ =>
    (categoryNames.find? fun entry ↦ entry.1.contains name).map fun entry ↦ categoriesSet entry.2

/-! ### Names -/

/-- The name without what makes no difference: letter case, blanks, low lines and hyphens, and `is`
in front. What would be left of `isc` stays, which is no category. -/
def plainName (name : List Char) : String :=
  let counts (c : Char) : Bool := c.toNat < 128 && c != ' ' && c != '_' && c != '-'
  let plain := (name.filter counts).map Char.toLower
  let prefixed := (name.take 2).map Char.toLower = ['i', 's']
  let rest := if prefixed then plain.drop 2 else plain
  String.ofList (if prefixed && rest = ['c'] then plain else rest)

/-- The characters of a property that is asked for without a value. -/
def propertyNamed? (name : List Char) : Option CharSet :=
  let plain := plainName name
  if ["space", "whitespace", "wspace"].contains plain then some ⟨Text.blankRanges⟩
  else if ["alpha", "alphabetic"].contains plain then some alphabetic
  else categoryNamed? plain

namespace Properties

/-- The general categories, the alphabetic characters, and white space. Whether a property and a
value are said to differ makes no difference. -/
def standard : Properties where
  find?
    | .letter c => propertyNamed? [c]
    | .name name => propertyNamed? name
    | .value _ property value =>
      if ["gc", "generalcategory"].contains (plainName property) then
        categoryNamed? (plainName value)
      else none

end Properties

end TokenMint.Regex
