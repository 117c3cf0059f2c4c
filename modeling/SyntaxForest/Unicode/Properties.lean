import SyntaxForest.Unicode.Category
import SyntaxForest.Unicode.Script
import SyntaxForest.Unicode.Binary

/-!
# Character properties by name

Properties of the Unicode character database, looked up by names in loose form: case, spaces,
underscores and dashes do not count, nor does `is` at the front.

## Main definitions

* `looseName`: the form in which names are compared
* `categorySet?`, `scriptSet?`, `namedSet?`, `valuedSet?`: the characters that a name stands for
* `isAlphabetic`, `isAlphanumeric`, `isWhiteSpace`, `wordSet`: the classes that readers use
-/

namespace SyntaxForest.Unicode

/-- The last code point. -/
def lastScalar : Nat := 0x10FFFF

/-- The form in which names are compared. A name that is `c` but for `is` in front of it keeps
that, since `isc` is a name of its own. -/
def looseName (name : List Char) : String :=
  let fold := fun cs : List Char =>
    ((cs.filter fun c => c ≠ ' ' && c ≠ '_' && c ≠ '-' && c.toNat < 0x80).map Char.toLower)
  match name with
  | i :: s :: rest =>
    if i.toLower = 'i' && s.toLower = 's' then
      let folded := fold rest
      String.ofList (if folded = ['c'] then ['i', 's', 'c'] else folded)
    else String.ofList (fold name)
  | _ => String.ofList (fold name)

/-- The union of the two-letter categories that these letters begin or name. -/
def categoryUnion (names : List String) : ScalarSet :=
  .ofRanges ((categories.filter fun p => p.names.any names.contains).flatMap (·.set.ranges))

/-- The assigned code points. -/
def assigned : ScalarSet := .ofRanges (categories.flatMap (·.set.ranges))

/-- The characters of a general category, by its loose name. -/
def categorySet? (name : String) : Option ScalarSet :=
  match name with
  | "any" => some (.range 0 lastScalar)
  | "ascii" => some (.range 0 0x7F)
  | "assigned" => some assigned
  | "cn" | "unassigned" => some (assigned.complement lastScalar)
  | "c" | "other" =>
    some ((categoryUnion ["cc", "cf", "cs", "co"]).union (assigned.complement lastScalar))
  | "l" | "letter" => some (categoryUnion ["lu", "ll", "lt", "lm", "lo"])
  | "lc" | "casedletter" => some (categoryUnion ["lu", "ll", "lt"])
  | "m" | "mark" | "combiningmark" => some (categoryUnion ["mn", "mc", "me"])
  | "n" | "number" => some (categoryUnion ["nd", "nl", "no"])
  | "p" | "punct" | "punctuation" => some (categoryUnion ["pc", "pd", "ps", "pe", "pi", "pf", "po"])
  | "s" | "symbol" => some (categoryUnion ["sm", "sc", "sk", "so"])
  | "z" | "separator" => some (categoryUnion ["zs", "zl", "zp"])
  | _ => (find? categories name).map (·.set)

/-- The characters of a script, by its loose name. -/
def scriptSet? (name : String) : Option ScalarSet := (find? scripts name).map (·.set)

/-- The characters that a single loose name stands for: a binary property, a general category or a
script. -/
def namedSet? (name : String) : Option ScalarSet :=
  let binary :=
    if name = "cf" || name = "sc" || name = "lc" then none else find? binaryProperties name
  match binary with
  | some p => some p.set
  | none => (categorySet? name).or (scriptSet? name)

/-- The characters whose property has this value, both by their loose names. -/
def valuedSet? (property value : String) : Option ScalarSet :=
  if property = "gc" || property = "generalcategory" then categorySet? value
  else if property = "sc" || property = "script" then scriptSet? value
  else if property = "scx" || property = "scriptextensions" then scriptSet? value
  else none

/-- The characters of a binary property. -/
def binarySet (name : String) : ScalarSet := ((find? binaryProperties name).map (·.set)).getD .empty

/-- The letters of all scripts. -/
def isAlphabetic (c : Char) : Bool :=
  c.isAlpha || (0x80 ≤ c.toNat && (binarySet "alpha").contains c.toNat)

/-- The letters and the numbers of all scripts. -/
def isAlphanumeric (c : Char) : Bool :=
  isAlphabetic c || c.isDigit ||
    (0x80 ≤ c.toNat && (categoryUnion ["nd", "nl", "no"]).contains c.toNat)

/-- White space of all scripts. -/
def isWhiteSpace (c : Char) : Bool :=
  let n := c.toNat
  (9 ≤ n && n ≤ 13) || n = 0x20 || n = 0x85 || n = 0xA0 || n = 0x1680 ||
    (0x2000 ≤ n && n ≤ 0x200A) ||
    n = 0x2028 || n = 0x2029 || n = 0x202F || n = 0x205F || n = 0x3000

/-- Decimal digits of all scripts. -/
def digitSet : ScalarSet := categoryUnion ["nd"]

/-- White space of all scripts. -/
def whiteSpaceSet : ScalarSet := binarySet "whitespace"

/-- The characters of words: letters, marks, decimal digits, connectors and joiners. -/
def wordSet : ScalarSet :=
  .ofRanges ((binarySet "alpha").ranges ++ (categoryUnion ["mn", "mc", "me", "nd", "pc"]).ranges ++
    (binarySet "joinc").ranges)

/-- The characters that a quoted text shows as they are: those assigned to something visible, and
the space. -/
def isPrintable (c : Char) : Bool :=
  if c.toNat < 0x7F then 0x20 ≤ c.toNat
  else assigned.contains c.toNat &&
    !(categoryUnion ["cc", "cf", "cs", "co", "zl", "zp", "zs"]).contains c.toNat

/-- The characters that attach to the one before them. -/
def isGraphemeExtend (c : Char) : Bool :=
  0x80 ≤ c.toNat && (binarySet "grext").contains c.toNat

end SyntaxForest.Unicode
