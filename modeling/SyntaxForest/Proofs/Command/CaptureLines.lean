import SyntaxForest.Command.Query
import SyntaxForest.Proofs.Text.Lines

/-!
# Lines of captures

The line of a capture stays one line: a captured text shows its line feeds as two characters each.
Of the other parts of a line of text the path and the name of the capture are all that may hold a
line feed. A record is on one line when the writer of records puts it on one.

## Main definitions

* `IsOneLine`: a text without line feeds
* `CaptureFormat.KeepsLines`: a format with one line for each capture

## Main results

* `isOneLine_captureLine`: the line of a capture
-/

namespace SyntaxForest.Command

/-- The text has no line feed. -/
def IsOneLine (text : String) : Prop := '\n' ∉ text.toList

instance (text : String) : Decidable (IsOneLine text) := inferInstanceAs (Decidable (¬ _))

section Texts

variable {a b text : String}

theorem isOneLine_append_iff : IsOneLine (a ++ b) ↔ IsOneLine a ∧ IsOneLine b := by
  rw [IsOneLine, String.toList_append, List.mem_append, not_or]
  rfl

theorem isOneLine_ofList_flatMap {f : Char → List Char} (h : ∀ c, '\n' ∉ f c) (cs : List Char) :
    IsOneLine (String.ofList (cs.flatMap f)) := by
  rw [IsOneLine, String.toList_ofList, List.mem_flatMap]
  rintro ⟨c, -, holds⟩
  exact h c holds

/-- A line feed gives way to a backslash and a letter. -/
theorem isOneLine_onOneLine (text : String) : IsOneLine (onOneLine text) := by
  refine isOneLine_ofList_flatMap (fun c => ?_) _
  split
  next => decide
  next other => exact fun holds => other (List.mem_singleton.mp holds).symm

theorem isOneLine_toString (n : Nat) : IsOneLine (toString n) := by
  intro holds
  have digits : (toString n).toList = Nat.toDigits 10 n := by simp [toString, Nat.repr]
  rw [digits] at holds
  exact absurd (Nat.isDigit_of_mem_toDigits (by decide) (by decide) holds) (by decide)

end Texts

/-- The format shows each capture of the file at a path on one line of its own. Text shows the path
as it is, and records are on one line if their writer puts each of them on one. -/
def CaptureFormat.KeepsLines : CaptureFormat → Path → Prop
  | .text, p => IsOneLine p.text
  | .record write, _ => ∀ r, IsOneLine (write r)

/-- **The line of a capture is one line**, in a format that keeps lines. -/
theorem isOneLine_captureLine (q : PatternQuery) {p : Path} (source : Bytes)
    {format : CaptureFormat} (pattern : Nat) (c : Capture) (keeps : format.KeepsLines p)
    (names : ∀ name ∈ q.captureNames, Ascii.newline ∉ name) :
    IsOneLine (captureLine q p source format pattern c) := by
  unfold captureLine
  cases format with
  | record write => exact keeps _
  | text =>
    have number (n : Nat) : IsOneLine (toString n) := isOneLine_toString n
    have name : IsOneLine (((q.captureName? c.index).map Bytes.toText).getD "?") := by
      cases known : q.captureName? c.index with
      | none => exact (by decide : IsOneLine "?")
      | some name =>
        intro holds
        rw [Option.map_some, Option.getD_some, Bytes.toText, String.toList_ofList] at holds
        exact names name (List.mem_of_getElem? known) (Utf8.newline_mem_of_mem_decode holds)
    show IsOneLine (captureText p _ _ _)
    simp only [captureText, isOneLine_append_iff]
    exact ⟨⟨⟨⟨⟨⟨⟨⟨keeps, by decide⟩, number _⟩, by decide⟩, number _⟩, by decide⟩, name⟩,
      by decide⟩, isOneLine_onOneLine _⟩

end SyntaxForest.Command
