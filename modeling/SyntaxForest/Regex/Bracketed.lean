import SyntaxForest.Regex.Escape

/-!
# Bracketed classes of regular expressions

Classes between brackets, with ranges, names, classes inside classes and the operations of set
algebra. Reading goes once through the text and keeps the open classes on a stack.

## Main definitions

* `Members`: what has been read of the operand under way
* `OpenClass`, `OpenClass.close`: a class around it, and its meaning at the closing bracket
* `readBracketed`: a class from behind its opening bracket
-/

namespace SyntaxForest.Regex

open Unicode (ScalarSet)

/-- The operations on classes. -/
inductive SetOperation where
  /-- `&&` -/
  | inter
  /-- `--` -/
  | diff
  /-- `~~` -/
  | symmDiff

/-- A class in the making: the members so far and how deeply they are nested. -/
structure Members where
  /-- The union of the members. -/
  set : ScalarSet := .empty
  /-- The number of members. -/
  count : Nat := 0
  /-- The deepest nesting among them. -/
  depth : Nat := 0

/-- Adds a member. -/
def Members.add (m : Members) (s : ScalarSet) (depth : Nat) : Members :=
  ⟨m.set.union s, m.count + 1, max m.depth depth⟩

/-- The nesting of the members taken together. -/
def Members.nesting (m : Members) : Nat := if m.count ≤ 1 then m.depth else m.depth + 1

/-- An open bracket: whether it negates, the operand before the last operation, if any, and the
members of the class around it. -/
structure OpenClass where
  /-- Whether the class holds all but its members. -/
  negated : Bool
  /-- The left operand of an operation that waits for its right one. -/
  operand : Option (SetOperation × ScalarSet × Nat)
  /-- The members of the class around this one. -/
  outer : Members

/-- Applies the operation that waits, if any. -/
def OpenClass.close (o : OpenClass) (f : Flags) (m : Members) : ScalarSet × Nat :=
  match o.operand with
  | none => (m.set, m.nesting)
  | some (operation, left, depth) =>
    let left := f.fold left
    let right := f.fold m.set
    let result :=
      match operation with
      | .inter => left.inter right f.top
      | .diff => left.diff right f.top
      | .symmDiff => left.symmDiff right f.top
    (result, max depth m.nesting + 1)

/-- Reads the dashes, and the bracket, that stand at the front of a class for themselves. -/
def leadingMembers (f : Flags) (m : Members) (text : List Char) :
    Except Error (Members × List Char) :=
  match text with
  | [] => .error .classUnclosed
  | c :: rest =>
    if c = '-' then leadingMembers f (m.add (.range 45 45) 0) (resume rest (skipSpace f rest))
    else if c = ']' && m.count = 0 then
      match skipSpace f rest with
      | [] => .error .classUnclosed
      | later => .ok (m.add (.range 93 93) 0, later)
    else .ok (m, c :: rest)
termination_by text.length
decreasing_by
  have := length_resume_le rest (skipSpace f rest)
  simp only [List.length_cons]
  omega

/-- Reads the front of a class from behind its bracket. -/
def openClass (f : Flags) (outer : Members) (text : List Char) :
    Except Error (OpenClass × Members × List Char) :=
  let go := fun negated text =>
    match leadingMembers f {} text with
    | .error e => .error e
    | .ok (m, later) => .ok (⟨negated, none, outer⟩, m, later)
  match skipSpace f text with
  | '^' :: rest => go true (skipSpace f rest)
  | text => go false text

/-- Reads a class such as `[:alpha:]` from behind its bracket; none when it is none. -/
def asciiClassIn? (f : Flags) (text : List Char) : Option (ScalarSet × List Char) :=
  match text with
  | ':' :: rest =>
    let (negated, rest) :=
      match rest with
      | '^' :: rest => (true, rest)
      | _ => (false, rest)
    match rest.dropWhile (· ≠ ':') with
    | ':' :: ']' :: later =>
      (asciiClass? (rest.takeWhile (· ≠ ':'))).map fun s => (f.foldAndNegate negated s, later)
    | _ => none
  | _ => none

/-- Reads a character, or an escape, of a class. -/
def readMember (f : Flags) (c : Char) (rest : List Char) : Except Error (Primitive × List Char) :=
  if c = '\\' then readEscape f rest else .ok (.literal c false, rest)

/-- The number of a character in a class. Where bytes are read it must be ASCII or be written as a
byte. -/
def Flags.memberNumber (f : Flags) (c : Char) (isByte : Bool) : Except Error Nat :=
  if f.unicode || c.toNat < 0x80 || isByte then .ok c.toNat else .error .scalarsNotAllowed

/-- Reads a member of a class: an escape, a character or a range. -/
def readRange (f : Flags) (c : Char) (rest : List Char) : Except Error (ScalarSet × List Char) :=
  match readMember f c rest with
  | .error e => .error e
  | .ok (first, later) =>
    match skipSpace f later with
    | [] => .error .classUnclosed
    | d :: behind =>
      if d ≠ '-' || peekSpace f behind = some ']' || peekSpace f behind = some '-' then
        match first with
        | .literal c isByte => (f.memberNumber c isByte).map fun n => (.range n n, d :: behind)
        | .charClass s => .ok (s, d :: behind)
        | .look _ => .error .classEscapeInvalid
      else
        match skipSpace f behind with
        | [] => .error .classUnclosed
        | e :: behind =>
          match readMember f e behind with
          | .error e => .error e
          | .ok (second, later) =>
            match first, second with
            | .literal a isByteA, .literal b isByteB =>
              if b < a then .error .classRangeInvalid
              else
                match f.memberNumber a isByteA, f.memberNumber b isByteB with
                | .ok a, .ok b => .ok (.range a b, later)
                | .error e, _ => .error e
                | _, .error e => .error e
            | _, _ => .error .classRangeNotLiteral

/-- The class that a bracket opened, read on with the open brackets and the members so far. -/
def readClass (f : Flags) (stack : List OpenClass) (m : Members) (text : List Char) :
    Except Error (ScalarSet × Nat × List Char) :=
  match text with
  | [] => .error .classUnclosed
  | c :: rest =>
    let operate := fun (operation : SetOperation) =>
      match stack with
      | [] => .error .classUnclosed
      | o :: outer =>
        let (left, depth) := o.close f m
        readClass f ({ o with operand := some (operation, left, depth) } :: outer) {} (rest.drop 1)
    if f.ignoreSpace && (Unicode.isWhiteSpace c || c = '#') then
      readClass f stack m (resume rest (skipSpaceFrom (c = '#') rest))
    else if c = '[' then
      match asciiClassIn? f rest with
      | some (s, later) => readClass f stack (m.add s 0) (resume rest later)
      | none =>
        match openClass f m rest with
        | .error e => .error e
        | .ok (o, inner, later) => readClass f (o :: stack) inner (resume rest later)
    else if c = ']' then
      match stack with
      | [] => .error .classUnclosed
      | o :: outer =>
        let (s, depth) := o.close f m
        let s := f.foldAndNegate o.negated s
        match outer with
        | [] => .ok (s, depth + 1, rest)
        | _ => readClass f outer (o.outer.add s (depth + 1)) rest
    else if c = '&' && rest.head? = some '&' then operate .inter
    else if c = '-' && rest.head? = some '-' then operate .diff
    else if c = '~' && rest.head? = some '~' then operate .symmDiff
    else
      match readRange f c rest with
      | .error e => .error e
      | .ok (s, later) => readClass f stack (m.add s 0) (resume rest later)
termination_by text.length
decreasing_by
  all_goals simp only [List.length_cons, List.length_drop]
  all_goals first
    | omega
    | (have h := length_resume_le rest (skipSpaceFrom (c = '#') rest); omega)
    | (have h := length_resume_le rest later; omega)

/-- Reads a bracketed class from behind its bracket: its members, its nesting and what follows. -/
def readBracketed (f : Flags) (text : List Char) : Except Error (ScalarSet × Nat × List Char) :=
  match openClass f {} text with
  | .error e => .error e
  | .ok (o, m, later) => readClass f [o] m later

end SyntaxForest.Regex
