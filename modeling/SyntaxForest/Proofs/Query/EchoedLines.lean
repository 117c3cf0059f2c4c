import SyntaxForest.Proofs.Query.EchoedNames

/-!
# Echoed lines

An error in the standard wording shows where it lies, whatever the offset is: inside a character, at
a line end, at the end of the text or past it. Most errors echo the line of the offset, over a caret
that stands as many bytes to the right as the column says. An error about an identifier echoes the
identifier that begins at the offset, if one does. To find the echo, the text is never cut inside a
character.

## Main definitions

* `QueryError.lineMessage`: the wording that echoes a line
* `QueryError.identifierMessage`: the wording that echoes an identifier, or none

## Main results

* `QueryError.rowText?_row`: the line of an offset is the line of its row
* `QueryError.identifierAt?_eq_some_iff`: the identifier at an offset
* `QueryError.message_shows_place`: what the message for an offset echoes
-/

namespace SyntaxForest.QueryError

open Query Utf8

/-! ## Lines -/

/-- The first line is the line of the first row. -/
theorem rowText?_zero (text : Bytes) : rowText? text 0 = some (firstLine text) := by
  by_cases ends : Ascii.newline ∈ text
  · obtain ⟨line, rest, rfl, free⟩ := List.eq_append_cons_of_mem ends
    have inside : ∀ b ∈ line, decide (b ≠ Ascii.newline) = true := by
      intro b hb
      exact decide_eq_true fun same => free (same ▸ hb)
    have first : (line ++ Ascii.newline :: rest).takeWhile (· ≠ Ascii.newline) = line := by
      rw [List.takeWhile_append_of_pos inside, List.takeWhile_cons_of_neg (by simp),
        List.append_nil]
    have shorter : line.length < (line ++ Ascii.newline :: rest).length := by simp
    have more : 0 + 1 < (line :: rest.splitOn Ascii.newline).length := by
      rw [List.length_cons, length_splitOn_newline]
      omega
    simp only [rowText?, firstLine, withoutReturn, first, shorter, more, true_and, if_true,
      List.splitOn_append_cons_self_of_not_mem free, List.getElem?_cons_zero, Option.map_some]
  · have whole : text.takeWhile (· ≠ Ascii.newline) = text :=
      List.takeWhile_eq_self_iff.mpr fun b hb => decide_eq_true fun same => ends (same ▸ hb)
    simp only [rowText?, firstLine, whole, List.splitOn_eq_singleton ends, List.length_singleton,
      Nat.lt_irrefl, false_and, if_false, List.getElem?_cons_zero, Option.map_some]

theorem valid_firstLine {text : Bytes} (valid : Valid text) : Valid (firstLine text) := by
  have line : Valid (text.takeWhile (· ≠ Ascii.newline)) := by
    rw [← List.takeWhile_append_dropWhile (p := (· ≠ Ascii.newline)) (l := text)] at valid
    refine (valid.split fun b hb => ?_).1
    have stops := List.head?_dropWhile_not (· ≠ Ascii.newline) text
    rw [hb] at stops
    obtain rfl : b = Ascii.newline := by simpa using stops
    decide
  rw [firstLine]
  split
  next ended =>
    obtain ⟨front, same⟩ := List.getLast?_eq_some_iff.mp ended.2
    rw [same] at line ⊢
    rw [List.dropLast_concat]
    exact (line.split fun b hb => by cases hb; decide).1
  next => exact line

/-- The line of an offset begins as many bytes before it as its column says. There the text can be
cut, and what stands behind the cut begins with the line. -/
theorem exists_lineAt {source : Bytes} (valid : Valid source) (offset : Nat) :
    ∃ before rest, source = before ++ rest ∧ Valid before ∧ Valid rest ∧
      before.length + (pointAt source offset).column = min offset source.length ∧
      (before = [] ∨ ∃ front, before = front ++ [Ascii.newline]) ∧
      (pointAt source offset).row = before.count Ascii.newline ∧
      lineAt source offset = firstLine rest := by
  obtain ⟨before, split, ends, free⟩ := exists_lines (source.take offset)
  generalize line : lastLine (source.take offset) = begun at split free
  have whole : source = before ++ (begun ++ source.drop offset) := by
    rw [← List.append_assoc, ← split, List.take_append_drop]
  have column : before.length + (pointAt source offset).column = min offset source.length := by
    rw [pointAt, line, ← List.length_append, ← split, List.length_take]
  have row : (pointAt source offset).row = before.count Ascii.newline := by
    rw [pointAt, split, List.count_append, List.count_eq_zero.mpr free, Nat.add_zero]
  have start : min offset source.length - (pointAt source offset).column = before.length := by
    omega
  have behind : Valid (begun ++ source.drop offset) := by
    obtain rfl | ⟨front, rfl⟩ := ends
    · rwa [whole] at valid
    · rw [whole, List.append_assoc] at valid
      exact valid.behind (by decide)
  refine ⟨before, _, whole, Valid.of_append (whole ▸ valid) behind, behind, column, ends, row, ?_⟩
  rw [lineAt, locate_eq_pointAt, start]
  conv_lhs => rw [whole]
  rw [List.drop_left]

/-- **The line of an offset** is the line of its row. -/
theorem rowText?_row {source : Bytes} (valid : Valid source) (offset : Nat) :
    rowText? source (pointAt source offset).row = some (lineAt source offset) := by
  obtain ⟨before, rest, split, -, -, -, ends, row, line⟩ := exists_lineAt valid offset
  rw [row, line, split]
  exact (rowText?_append ends rest 0).trans (rowText?_zero rest)

/-! ## Identifiers -/

/-- An identifier is echoed exactly where a letter or an underscore stands at a boundary. -/
theorem isSome_identifierAt?_iff (source : Bytes) (offset : Nat) :
    (identifierAt? source offset).isSome ↔ isBoundary source offset = true ∧
      ∃ b, source[offset]? = some b ∧ (Ascii.isLetter b = true ∨ b = 95) := by
  rw [← List.head?_drop, identifierAt?]
  by_cases boundary : isBoundary source offset = true
  · rw [if_pos boundary]
    cases source.drop offset with
    | nil => simp
    | cons b rest =>
      by_cases begins : Ascii.isLetter b = true ∨ b = 95
      · simp [boundary, begins]
      · simp [begins]
  · simp [boundary]

/-- **The identifier at an offset** begins with a letter or an underscore and runs as far as
letters, digits, underscores and dashes do. -/
theorem identifierAt?_eq_some_iff (source : Bytes) (offset : Nat) (name : Bytes) :
    identifierAt? source offset = some name ↔ isBoundary source offset = true ∧
      IsPlain name ∧ ∃ rest, source.drop offset = name ++ rest ∧
        IsRun isIdentifierRest name rest := by
  rw [identifierAt?]
  by_cases boundary : isBoundary source offset = true
  · simp only [boundary, if_true, true_and]
    constructor
    · intro found
      split at found
      next => cases found
      next b rest text =>
        split at found
        next begins =>
          cases found
          obtain ⟨run, rest', rfl, word⟩ := exists_isRun isIdentifierRest rest
          rw [word.takeWhile_eq]
          refine ⟨⟨⟨b, rfl, by simpa using begins⟩, ?_⟩, rest', text, ?_, word.boundary⟩
          all_goals exact List.forall_mem_cons.mpr ⟨isIdentifierRest_of_begins begins, word.inside⟩
        next => cases found
    · rintro ⟨⟨⟨b, head, begins⟩, -⟩, rest, text, word⟩
      obtain ⟨run, rfl⟩ := List.head?_eq_some_iff.mp head
      rw [text]
      have run : IsRun isIdentifierRest run rest :=
        ⟨fun c hc => word.inside c (List.mem_cons_of_mem b hc), word.boundary⟩
      simp only [List.cons_append, run.takeWhile_eq]
      rw [if_pos (by simpa using begins)]
  · simp [boundary]

/-! ## Messages -/

/-- The wording that echoes a line over a caret. -/
def lineMessage (kind : Kind) (line : Bytes) (p : Point) : String :=
  let place := s!"at line {p.row + 1} column {p.column + 1}"
  let indent := String.ofList (List.replicate p.column ' ')
  s!"invalid {kind.category} {place}\n{line.toText}\n{indent}^"

/-- The wording that echoes an identifier, or none. -/
def identifierMessage (kind : Kind) (echo : Option Bytes) (p : Point) : String :=
  match echo with
  | some name =>
    s!"invalid {kind.category} '{name.toText}' at line {p.row + 1} column {p.column + 1}"
  | none => s!"invalid {kind.category} at line {p.row + 1} column {p.column + 1}"

/-- A message shows whether it echoes an identifier. -/
theorem identifierMessage_none_ne (kind : Kind) (name : Bytes) (p : Point) :
    identifierMessage kind none p ≠ identifierMessage kind (some name) p := by
  unfold identifierMessage
  generalize toString (p.row + 1) = row
  generalize toString (p.column + 1) = column
  intro h
  have letters := congrArg String.toList h
  simp [toString] at letters

theorem message_positioned_of_line {kind : Kind} (h : kind.isAboutIdentifier = false)
    (source : Bytes) (offset : Nat) :
    (positioned source offset kind).message =
      lineMessage kind (lineAt source offset) (pointAt source offset) := by
  simp only [positioned, positionedMessage, locate_eq_pointAt, h, Bool.false_eq_true, if_false]
  rfl

theorem message_positioned_of_identifier {kind : Kind} (h : kind.isAboutIdentifier = true)
    (source : Bytes) (offset : Nat) :
    (positioned source offset kind).message =
      identifierMessage kind (identifierAt? source offset) (pointAt source offset) := by
  unfold positioned positionedMessage identifierMessage
  rw [locate_eq_pointAt]
  apply String.toList_injective
  cases identifierAt? source offset <;> simp [toString, h]

/-- **What the message for an offset echoes.** Whatever the offset in a text is, an error of any
kind in the standard wording tells its row and column.

If the error is not about an identifier, a line begins as many bytes before the offset, or before
the end of the text, as the column says, and the text can be cut there. Behind this cut the line is
looked for that the message echoes, and it is the whole line of the row; a caret stands below it
behind as many blanks as the column says.

If the error is about an identifier, the message echoes one exactly if the offset is a boundary of
the text at which a letter or an underscore stands. The identifier can be cut out there. It runs as
far as letters, digits, underscores and dashes do. -/
theorem message_shows_place {source : Bytes} (valid : Valid source) (offset : Nat) (kind : Kind) :
    let err := positioned source offset kind
    err.kind = kind ∧ err.offset = offset ∧ err.operator = none ∧
    err.point.row = (source.take offset).count Ascii.newline ∧
    (kind.isAboutIdentifier = false → ∃ start rest line,
      start + err.point.column = min offset source.length ∧
      (start = 0 ∨ source[start - 1]? = some Ascii.newline) ∧
      slice? source start source.length = some rest ∧ firstLine rest = line ∧
      rowText? source err.point.row = some line ∧ Valid line ∧
      err.message = lineMessage kind line err.point) ∧
    (kind.isAboutIdentifier = true → ∃ echo,
      err.message = identifierMessage kind echo err.point ∧
      (∀ name, identifierMessage kind none err.point ≠
        identifierMessage kind (some name) err.point) ∧
      (echo.isSome ↔ isBoundary source offset = true ∧
        ∃ b, source[offset]? = some b ∧ (Ascii.isLetter b = true ∨ b = 95)) ∧
      ∀ name, echo = some name →
        slice? source offset (offset + name.length) = some name ∧ IsPlain name ∧
        ∃ rest, source.drop offset = name ++ rest ∧ IsRun isIdentifierRest name rest) := by
  intro err
  have point : err.point = pointAt source offset := point_positioned source offset kind
  rw [point]
  refine ⟨rfl, rfl, rfl, rfl, fun h => ?_, fun h => ?_⟩
  · obtain ⟨before, rest, split, -, behind, column, ends, -, line⟩ := exists_lineAt valid offset
    refine ⟨before.length, rest, lineAt source offset, column, ?_, ?_, line.symm,
      rowText?_row valid offset, line ▸ valid_firstLine behind,
      message_positioned_of_line h source offset⟩
    · obtain rfl | ⟨front, rfl⟩ := ends
      · exact .inl rfl
      · rw [split, List.length_append, List.length_singleton, Nat.add_sub_cancel]
        exact .inr (by simp)
    · have cut := slice?_append (a := before) (b := rest) (c := [])
      rw [List.append_nil, ← split, ← List.length_append, ← split] at cut
      exact cut valid behind rfl
  · refine ⟨_, message_positioned_of_identifier h source offset,
      fun name => identifierMessage_none_ne kind name _, isSome_identifierAt?_iff source offset,
      fun name found => ?_⟩
    obtain ⟨boundary, plain, rest, text, word⟩ :=
      (identifierAt?_eq_some_iff source offset name).mp found
    obtain ⟨inside, -, here⟩ := (isBoundary_iff valid offset).mp boundary
    have behind : Valid rest :=
      (valid_append_iff fun b hb => lt_of_isIdentifierRest (plain.goesOn b hb)).mp (text ▸ here)
    refine ⟨?_, plain, rest, text, word⟩
    have cut := slice?_append (a := source.take offset) (b := name) (c := rest)
    rw [← text, List.take_append_drop, List.length_take, Nat.min_eq_left inside] at cut
    exact cut valid here behind

/-- An offset inside a character, in a line that ends in a carriage return and a line feed. -/
theorem message_shows_place_inside_character :
    Valid (Bytes.ofText "(bé c)\r\n(a)") ∧ isBoundary (Bytes.ofText "(bé c)\r\n(a)") 3 = false ∧
      (positioned (Bytes.ofText "(bé c)\r\n(a)") 3 .malformed).message =
        "invalid syntax at line 1 column 4\n(bé c)\n   ^" := by
  have valid : Valid (Bytes.ofText "(bé c)\r\n(a)") := by decide
  obtain ⟨-, -, -, -, shown, -⟩ := message_shows_place valid 3 .malformed
  obtain ⟨_, _, line, -, -, -, -, row, -, message⟩ := shown rfl
  have first : rowText? (Bytes.ofText "(bé c)\r\n(a)") 0 = some (Bytes.ofText "(bé c)") := by decide
  obtain rfl : line = _ := Option.some.inj (row.symm.trans first)
  exact ⟨valid, by decide, message.trans (by decide)⟩

end SyntaxForest.QueryError
