import SyntaxForest.Text.Utf8

/-!
# Regular expressions and a bounded cache of them

Which patterns are regular expressions, and where they match, is settled outside this library, by a
dialect. A dialect compiles a pattern to a test of texts, which are bytes and need not be UTF-8, or
tells in its own words why the pattern is refused.

Queries built over and over from one source compile the same patterns. The cache keeps compiled
patterns under a hash of their text, with the text itself, so that two patterns with one hash are
told apart. A full cache is emptied before the next pattern goes in. Neither the dialect nor the
hash of a cache ever changes.

## Main definitions

* `Regex`, `Regex.Dialect`: compiled patterns, and what compiles them
* `RegexCache`: the entries and their greatest number
* `RegexCache.getOrCompile`: a pattern's compiled form, from the cache or compiled now
* `RegexCache.setCapacity`, `RegexCache.clear`: the bound, and a fresh start
-/

namespace SyntaxForest

/-- A compiled regular expression, as far as it shows. -/
structure Regex where
  /-- The pattern as it was written. -/
  pattern : Bytes
  /-- Whether the expression matches some part of a text. -/
  isMatch : Bytes → Bool

/-- A dialect of regular expressions. -/
structure Regex.Dialect where
  /-- Compiles a pattern, or tells why it is refused. -/
  compile : Bytes → Except String Regex
  /-- A compiled pattern tells how it was written. -/
  pattern_eq : ∀ {pattern : Bytes} {regex : Regex},
    compile pattern = .ok regex → regex.pattern = pattern

/-- A compiled pattern in the cache, with the text that it was compiled from. -/
structure RegexCache.Entry where
  /-- The hash that the entry is kept under. -/
  key : UInt64
  /-- The text of the pattern. -/
  pattern : Bytes
  /-- The compiled pattern. -/
  regex : Regex

/-- Compiled patterns under the hashes of their texts, one for each hash. -/
structure RegexCache (dialect : Regex.Dialect) (hash : Bytes → UInt64) where
  /-- The entries, the latest first. -/
  entries : List RegexCache.Entry := []
  /-- The greatest number of entries. -/
  capacity : Nat := 256

namespace RegexCache

variable {dialect : Regex.Dialect} {hash : Bytes → UInt64}

/-- The greatest number of entries unless it is set. -/
def defaultCapacity : Nat := 256

/-- The number of entries. -/
def size (c : RegexCache dialect hash) : Nat := c.entries.length

/-- The entry under a hash. -/
def find? (c : RegexCache dialect hash) (key : UInt64) : Option Entry :=
  c.entries.find? (·.key = key)

/-- Adds an entry, in place of the one with its hash. -/
def insert (c : RegexCache dialect hash) (e : Entry) : RegexCache dialect hash :=
  { c with entries := e :: c.entries.filter (·.key ≠ e.key) }

/-- Removes all entries. -/
def clear (c : RegexCache dialect hash) : RegexCache dialect hash := { c with entries := [] }

/-- Sets the greatest number of entries. A cache that holds more is emptied. -/
def setCapacity (c : RegexCache dialect hash) (capacity : Nat) : RegexCache dialect hash :=
  if capacity < c.size then { c.clear with capacity } else { c with capacity }

/-- Keeps a pattern that has just been compiled: not at all when there is no room for any entry, and
as the only entry when there is none left. -/
def store (c : RegexCache dialect hash) (regex : Regex) (pattern : Bytes) :
    RegexCache dialect hash :=
  if c.capacity = 0 then c
  else if c.capacity ≤ c.size then c.clear.insert ⟨hash pattern, pattern, regex⟩
  else c.insert ⟨hash pattern, pattern, regex⟩

/-- The compiled form of a pattern. The entry under the pattern's hash answers if it was compiled
from this very text; otherwise the pattern is compiled now, and kept if it can be. -/
def getOrCompile (c : RegexCache dialect hash) (pattern : Bytes) :
    Except String Regex × RegexCache dialect hash :=
  let fresh :=
    match dialect.compile pattern with
    | .error e => (.error e, c)
    | .ok regex => (.ok regex, c.store regex pattern)
  match c.find? (hash pattern) with
  | some e => if e.pattern = pattern then (.ok e.regex, c) else fresh
  | none => fresh

/-- The hash that a running program uses: each byte is taken in by exclusive or and a
multiplication. -/
def byteHash (pattern : Bytes) : UInt64 :=
  pattern.foldl (fun h b => (h ^^^ b.toUInt64) * 0x100000001B3) 0xCBF29CE484222325

end RegexCache

end SyntaxForest
