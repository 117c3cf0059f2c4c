import SyntaxForest.Regex.Bracketed
import SyntaxForest.Regex.Cache

/-!
# Reading regular expressions

A pattern is read once from front to back. The open groups are kept on a stack; flags hold from
where they are set to the end of their group, and decide at once what a literal or a class stands
for.

## Main definitions

* `Item`, `Progress`: parts with their nesting, and what has been read so far
* `readGroup`, `readCount`: the beginning of a group, and the bounds of a repetition
* `parse`: a whole pattern
* `Dialect.standard`: the dialect of these patterns
-/

namespace SyntaxForest.Regex

/-- A part of a pattern that has been read: what it stands for, whether it can be repeated, and its
nesting. -/
structure Item where
  /-- What it stands for. -/
  expr : Expr
  /-- Whether it is more than a change of flags. -/
  isRepeatable : Bool
  /-- How deeply it is nested. -/
  depth : Nat

/-- The items one after the other; the last one comes first. -/
def sequence : List Item → Item
  | [] => ⟨.empty, true, 0⟩
  | [item] => item
  | items =>
    ⟨items.foldl (fun e item => match e with | .empty => item.expr | e => .seq item.expr e) .empty,
      true, items.foldl (fun d item => max d item.depth) 0 + 1⟩

/-- One of several branches, the last one first; `last` is the branch behind them. -/
def alternatives (branches : List Item) (last : Item) : Item :=
  match branches with
  | [] => last
  | _ =>
    ⟨branches.foldl (fun e item => .alt item.expr e) last.expr, true,
      branches.foldl (fun d item => max d item.depth) last.depth + 1⟩

/-- What is left open around a group. -/
structure OpenGroup where
  /-- The items before the group, the last one first. -/
  items : List Item
  /-- The branches before them, the last one first. -/
  branches : List Item
  /-- The flags around the group. -/
  flags : Flags

/-- A pattern in the making. -/
structure Progress where
  /-- The items of the branch so far, the last one first. -/
  items : List Item := []
  /-- The branches of the group so far, the last one first. -/
  branches : List Item := []
  /-- The flags here. -/
  flags : Flags := {}
  /-- The open groups, the innermost one first. -/
  stack : List OpenGroup := []
  /-- The group names so far. -/
  names : List (List Char) := []

/-- Adds an item. -/
def Progress.push (p : Progress) (e : Expr) (depth : Nat) : Progress :=
  { p with items := ⟨e, true, depth⟩ :: p.items }

/-- Opens a group with flags of its own. -/
def Progress.openGroup (p : Progress) (inside : Flags) : Progress :=
  { p with items := [], branches := [], flags := inside,
           stack := ⟨p.items, p.branches, p.flags⟩ :: p.stack }

/-- The group that is open, as one item. -/
def Progress.group (p : Progress) : Item := alternatives p.branches (sequence p.items)

/-- The letters of a group's name. -/
def isNameLetter (c : Char) (first : Bool) : Bool :=
  if first then c = '_' || Unicode.isAlphabetic c
  else c = '_' || c = '.' || c = '[' || c = ']' || Unicode.isAlphanumeric c

/-- Reads a group's name through its closing angle bracket. -/
def readName (first : Bool) : List Char → Except Error (List Char × List Char)
  | [] => .error .groupName
  | c :: rest =>
    if c = '>' then .ok ([], rest)
    else if isNameLetter c first then
      match readName false rest with
      | .error e => .error e
      | .ok (name, later) => .ok (c :: name, later)
    else .error .groupName

/-- Reads flags to the colon or parenthesis that ends them: the flags, how many were written, that
character and what follows. `negated` says whether a dash came before, `dangling` whether it came
just before. -/
def readFlags (negated dangling : Bool) (seen : List Char) (f : Flags) :
    List Char → Except Error (Flags × Nat × Char × List Char)
  | [] => .error .flags
  | c :: rest =>
    if c = ':' || c = ')' then
      if dangling then .error .flags else .ok (f, seen.length, c, rest)
    else if c = '-' then
      if negated then .error .flags else readFlags true true ('-' :: seen) f rest
    else if seen.contains c then .error .flags
    else
      match f.set? c !negated with
      | none => .error .flags
      | some f => readFlags negated false (c :: seen) f rest

/-- Whether an assertion about the text before or behind begins here. -/
def startsLookAround : List Char → Bool
  | '?' :: '=' :: _ | '?' :: '!' :: _ | '?' :: '<' :: '=' :: _ | '?' :: '<' :: '!' :: _ => true
  | _ => false

/-- Reads the front of a group, or a change of flags, from behind the parenthesis. -/
def readGroup (p : Progress) (text : List Char) : Except Error (Progress × List Char) :=
  let text := skipSpace p.flags text
  let named := fun rest =>
    match readName true rest with
    | .error e => .error e
    | .ok (name, later) =>
      if name.isEmpty || p.names.contains name then .error .groupName
      else .ok ({ p.openGroup p.flags with names := name :: p.names }, later)
  if startsLookAround text then .error .lookAround
  else
    match text with
    | '?' :: 'P' :: '<' :: rest => named rest
    | '?' :: '<' :: rest => named rest
    | '?' :: rest =>
      match readFlags false false [] p.flags rest with
      | .error e => .error e
      | .ok (f, count, ending, later) =>
        if ending = ')' then
          if count = 0 then .error .repetitionMissing
          else .ok ({ p with flags := f, items := ⟨.empty, false, 0⟩ :: p.items }, later)
        else .ok (p.openGroup f, later)
    | _ => .ok (p.openGroup p.flags, text)

/-- Repeats the last item. -/
def Progress.repeatLast (p : Progress) (least : Nat) (most : Option Nat) : Except Error Progress :=
  match p.items with
  | [] => .error .repetitionMissing
  | item :: items =>
    if item.isRepeatable then
      .ok { p with items := ⟨.rep item.expr least most, true, item.depth + 1⟩ :: items }
    else .error .repetitionMissing

/-- Reads digits, with the white space between them that does not count. -/
def digitsFrom (f : Flags) (text : List Char) : List Char × List Char :=
  match text with
  | [] => ([], [])
  | c :: rest =>
    if c.isDigit then
      let (digits, later) := digitsFrom f (resume rest (skipSpace f rest))
      (c :: digits, later)
    else ([], c :: rest)
termination_by text.length
decreasing_by
  have := length_resume_le rest (skipSpace f rest)
  simp only [List.length_cons]
  omega

/-- Reads a number with white space around it; it must fit in 32 bits. -/
def readDecimal (f : Flags) (text : List Char) : Except Error (Nat × List Char) :=
  let (digits, later) := digitsFrom f (text.dropWhile Unicode.isWhiteSpace)
  let n := Numeral.value 10 digits
  if digits.isEmpty || UInt32.size ≤ n then .error .repetitionCount
  else .ok (n, skipSpace f (later.dropWhile Unicode.isWhiteSpace))

/-- Reads the bounds of a repetition from behind the brace. -/
def readCount (f : Flags) (text : List Char) : Except Error (Nat × Option Nat × List Char) :=
  match readDecimal f (skipSpace f text) with
  | .error e => .error e
  | .ok (least, later) =>
    match later with
    | '\x7d' :: rest => .ok (least, some least, rest)
    | ',' :: rest =>
      match skipSpace f rest with
      | '\x7d' :: rest => .ok (least, none, rest)
      | rest =>
        match readDecimal f rest with
        | .error e => .error e
        | .ok (most, '\x7d' :: rest) =>
          if least ≤ most then .ok (least, some most, rest) else .error .repetitionCount
        | .ok _ => .error .repetitionCount
    | _ => .error .repetitionCount

/-- What follows a repetition: a question mark makes it lazy, which changes no match. -/
def skipLazy (text : List Char) : List Char :=
  match text with
  | '?' :: rest => rest
  | _ => text

/-- Adds what an escape stands for. -/
def Progress.pushPrimitive (p : Progress) : Primitive → Progress
  | .literal c isByte => p.push (p.flags.literalExpr c isByte) 0
  | .look l => p.push (.look l) 0
  | .charClass s => p.push (p.flags.classExpr s) 0

/-- Reads one part of a pattern, which begins with `c`. -/
def readPart (p : Progress) (c : Char) (rest : List Char) : Except Error (Progress × List Char) :=
  match c with
  | '(' => readGroup p rest
  | ')' =>
    match p.stack with
    | [] => .error .groupUnopened
    | o :: outer =>
      let item := p.group
      .ok ({ p with items := ⟨item.expr, true, item.depth + 1⟩ :: o.items, branches := o.branches,
                    flags := o.flags, stack := outer }, rest)
  | '|' => .ok ({ p with items := [], branches := sequence p.items :: p.branches }, rest)
  | '[' => (readBracketed p.flags rest).map fun (s, depth, later) =>
    (p.push (p.flags.classExpr s) depth, later)
  | '?' => (p.repeatLast 0 (some 1)).map (·, skipLazy rest)
  | '*' => (p.repeatLast 0 none).map (·, skipLazy rest)
  | '+' => (p.repeatLast 1 none).map (·, skipLazy rest)
  | '\x7b' =>
    match p.repeatLast 0 none with
    | .error e => .error e
    | .ok _ =>
      match readCount p.flags rest with
      | .error e => .error e
      | .ok (least, most, later) =>
        (p.repeatLast least most).map (·, skipLazy (skipSpace p.flags later))
  | '\\' => (readEscape p.flags rest).map fun (primitive, later) =>
    (p.pushPrimitive primitive, later)
  | '.' => .ok (p.push p.flags.dotExpr 0, rest)
  | '^' => .ok (p.push (.look p.flags.caret) 0, rest)
  | '$' => .ok (p.push (.look p.flags.dollar) 0, rest)
  | c => .ok (p.push (p.flags.literalExpr c false) 0, rest)

/-- Reads the rest of a pattern. -/
def parseFrom (p : Progress) (text : List Char) : Except Error Item :=
  match text with
  | [] => if p.stack.isEmpty then .ok p.group else .error .groupUnclosed
  | c :: rest =>
    if p.flags.ignoreSpace && (Unicode.isWhiteSpace c || c = '#') then
      parseFrom p (resume rest (skipSpaceFrom (c = '#') rest))
    else
      match readPart p c rest with
      | .error e => .error e
      | .ok (p, later) => parseFrom p (resume rest later)
termination_by text.length
decreasing_by
  · have := length_resume_le rest (skipSpaceFrom (c = '#') rest)
    simp only [List.length_cons]
    omega
  · have := length_resume_le rest later
    simp only [List.length_cons]
    omega

/-- How deeply groups, classes and repetitions may be nested. -/
def nestingLimit : Nat := 250

/-- How much room an automaton may take. -/
def sizeLimit : Nat := 10 * 1024 * 1024

/-- Reads a pattern. -/
def parse (pattern : List Char) : Except Error Expr :=
  match parseFrom {} pattern with
  | .error e => .error e
  | .ok item =>
    if nestingLimit < item.depth then .error .nestedTooDeeply
    else if sizeLimit < item.expr.cost then .error .tooLarge
    else .ok item.expr

/-- The regular expression of a pattern, or the wording of its refusal. -/
def compileStandard (pattern : Bytes) : Except String Regex :=
  match parse (Utf8.decode pattern) with
  | .error e => .error e.message
  | .ok expr => .ok ⟨pattern, expr.matchesIn⟩

/-- The dialect that a running program uses. It stands in for a larger one, which knows more classes
of characters and tells its refusals in other words. -/
def Dialect.standard : Dialect where
  compile := compileStandard
  pattern_eq {pattern regex} compiled := by
    unfold compileStandard at compiled
    split at compiled
    · cases compiled
    · cases compiled
      rfl

end SyntaxForest.Regex
