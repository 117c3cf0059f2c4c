import SyntaxForest.Proofs.Command.CaptureLines
import SyntaxForest.Proofs.Command.Collecting
import SyntaxForest.Proofs.Parsing.Pooling
import SyntaxForest.Proofs.Query.Filtering
import SyntaxForest.Proofs.Query.Recompiling

/-!
# Queries over files

The query command compiles its query once for each grammar name, and hands on a cache of patterns, a
cursor and a pool of parsers from file to file. None of it shows: each file is answered as if it
were the only one, with a query compiled anew, a new parser and a new cursor. A compiled query
stands under the name of a grammar, so this takes grammars with different names, as those of a
registry have.

## Main definitions

* `Finding`, `queryAnew`: what a query finds in a file, and the query over one file by itself
* `Queried`: files queried one by one
* `Reports`: the output of a query over files, up to the first that fails

## Main results

* `QueryProgress.Sound`: what is handed on from file to file
* `agree_queryFile`: the query over one file, among others and by itself
* `runQuery_prints_captures`: the query over all files
-/

namespace SyntaxForest

open RegexCache

variable {σ : Type}

namespace Command

open PatternQuery

/-! ## One file by itself -/

/-- What a query finds in a file. -/
structure Finding where
  /-- The query, compiled for the grammar of the file. -/
  query : PatternQuery
  /-- The contents of the file. -/
  source : Bytes
  /-- The structural matches. -/
  found : List QueryMatch

namespace Finding

/-- The matches that the query accepts. -/
def accepted (f : Finding) : List QueryMatch :=
  f.found.filter fun m => (f.query.filter m f.source).isAccepted

/-- One line for each capture of each match that the query accepts. -/
def lines (f : Finding) (p : Path) (format : CaptureFormat) : List String :=
  f.accepted.flatMap fun m => m.captures.map (captureLine f.query p f.source format m.pattern)

end Finding

/-! ### Match by match -/

section Tallies

variable {q : PatternQuery} {source : Bytes} {m : QueryMatch}

/-- An accepted match is counted as such, and its captures are printed. -/
theorem MatchTally.add_of_accepts (h : q.satisfies m source = true) (p : Path)
    (format : CaptureFormat) (t : MatchTally) :
    t.add q p source format m =
      ⟨t.lines ++ m.captures.map (captureLine q p source format m.pattern), t.accepted + 1,
        t.rejected⟩ := by
  rw [add, PatternQuery.filter, if_pos h]
  rfl

/-- A rejected match is counted as such, and nothing is printed. -/
theorem MatchTally.add_of_rejects (h : ¬ q.satisfies m source = true) (p : Path)
    (format : CaptureFormat) (t : MatchTally) :
    t.add q p source format m = { t with rejected := t.rejected + 1 } := by
  rw [add, PatternQuery.filter, if_neg h]
  rfl

variable (q source)

theorem Finding.accepted_eq (found : List QueryMatch) :
    (⟨q, source, found⟩ : Finding).accepted = found.filter (q.satisfies · source) :=
  List.filter_congr fun m _ => filter_isAccepted q m source

/-- **What is printed and counted of the matches of a file**, one by one: the lines of the accepted
ones and their number. Every match is counted on one side or the other. -/
theorem foldl_add (p : Path) (format : CaptureFormat) (found : List QueryMatch) (t : MatchTally) :
    let f : Finding := ⟨q, source, found⟩
    let after := found.foldl (MatchTally.add q p source format) t
    after.lines = t.lines ++ f.lines p format ∧
      after.accepted = t.accepted + f.accepted.length ∧
      after.accepted + after.rejected = t.accepted + t.rejected + found.length := by
  simp only [Finding.lines, Finding.accepted_eq]
  -- The tally goes along the matches, so it is general in the induction.
  induction found generalizing t with
  | nil => simp
  | cons m found ih =>
    obtain ⟨lines, accepted, total⟩ := ih (t.add q p source format m)
    rw [List.foldl_cons, lines, total, accepted, List.length_cons]
    by_cases accepts : q.satisfies m source = true
    · rw [MatchTally.add_of_accepts accepts, List.filter_cons, if_pos accepts, List.flatMap_cons,
        List.length_cons]
      exact ⟨List.append_assoc .., by dsimp only; omega, by dsimp only; omega⟩
    · rw [MatchTally.add_of_rejects accepts, List.filter_cons, if_neg accepts]
      exact ⟨rfl, rfl, by dsimp only; omega⟩

end Tallies

/-! ### Reading and parsing -/

/-- A cache that keeps nothing. -/
def noCache (dialect : Regex.Dialect) : RegexCache dialect fun _ => 0 := ⟨[], 0⟩

/-- Reads a file and parses it with a new parser. -/
def Session.parseAnew (engine : Engine σ) (session : Session) (file : SourceFile) :
    StateM σ (Except Failure (Bytes × SyntaxTree)) :=
  match session.readFile file.path with
  | .error f => pure (.error f)
  | .ok source => do
    match ← SyntaxParser.parseAnew engine file.grammar source session.operationLimit none with
    | .error e => return .error ⟨s!"failed to parse {file.path.text}", [e.message]⟩
    | .ok tree => return .ok (source, tree)

/-- Runs a query over one file by itself: it is compiled for the grammar of the file, the file is
read and parsed, and a new cursor looks for matches. -/
def queryAnew (dialect : Regex.Dialect) (engine : Engine σ) (session : Session) (query : Bytes)
    (file : SourceFile) : StateM σ (Except Failure Finding) := do
  match ← PatternQuery.compile engine file.grammar query (noCache dialect) with
  | (.error e, _) =>
    return .error ⟨s!"query does not compile for {file.grammar.name}", [e.message]⟩
  | (.ok q, _) =>
    match ← session.parseAnew engine file with
    | .error f => return .error f
    | .ok (source, tree) =>
      let (found, _) ← MatchCursor.findMatches {} engine q tree.root
      return .ok ⟨q, source, found⟩

/-- Files queried one by one, each by itself, from a state of the engine to another. -/
inductive Queried (dialect : Regex.Dialect) (engine : Engine σ) (session : Session)
    (query : Bytes) : σ → List (SourceFile × Finding) → σ → Prop where
  | nil {s : σ} : Queried dialect engine session query s [] s
  | cons {s s' s'' : σ} {file : SourceFile} {f : Finding} {later : List (SourceFile × Finding)}
    (first : (queryAnew dialect engine session query file).run s = (.ok f, s'))
    (rest : Queried dialect engine session query s' later s'') :
    Queried dialect engine session query s ((file, f) :: later) s''

/-- The lines of files, file by file. -/
def linesOf (format : CaptureFormat) (done : List (SourceFile × Finding)) : List String :=
  done.flatMap fun d => d.2.lines d.1.path format

/-- The number of accepted matches. -/
def acceptedIn (done : List (SourceFile × Finding)) : Nat := (done.flatMap (·.2.accepted)).length

/-- The number of structural matches. -/
def foundIn (done : List (SourceFile × Finding)) : Nat := (done.flatMap (·.2.found)).length

section Counts

variable (file : SourceFile) (f : Finding) (later : List (SourceFile × Finding))

theorem acceptedIn_cons :
    acceptedIn ((file, f) :: later) = f.accepted.length + acceptedIn later := by
  rw [acceptedIn, List.flatMap_cons, List.length_append]
  rfl

theorem foundIn_cons : foundIn ((file, f) :: later) = f.found.length + foundIn later := by
  rw [foundIn, List.flatMap_cons, List.length_append]
  rfl

end Counts

/-- The number of captures of accepted matches. -/
def capturesIn (done : List (SourceFile × Finding)) : Nat :=
  (done.flatMap fun d => d.2.accepted.flatMap (·.captures)).length

theorem length_linesOf (format : CaptureFormat) (done : List (SourceFile × Finding)) :
    (linesOf format done).length = capturesIn done := by
  simp only [linesOf, capturesIn, Finding.lines, List.length_flatMap, List.length_map]

/-- **The output of a query over files**, each queried by itself. -/
inductive Reports (dialect : Regex.Dialect) (engine : Engine σ) (session : Session) (query : Bytes)
    (format : CaptureFormat) (s : σ) : List SourceFile → Output × Option Failure → Prop where
  /-- When all succeed, the lines of all, and in text mode the numbers of accepted and rejected
  matches. -/
  | all {done : List (SourceFile × Finding)} {s' : σ} {rejected : Nat}
    (queried : Queried dialect engine session query s done s')
    (counts : acceptedIn done + rejected = foundIn done) :
    Reports dialect engine session query format s (done.map (·.1))
      (⟨linesOf format done, summaryNotes format (acceptedIn done) rejected⟩, none)
  /-- Otherwise the lines of the files before the first that fails, and its failure. -/
  | upTo {done : List (SourceFile × Finding)} {s' s'' : σ} {file : SourceFile} {f : Failure}
    (queried : Queried dialect engine session query s done s')
    (fails : (queryAnew dialect engine session query file).run s' = (.error f, s''))
    (behind : List SourceFile) :
    Reports dialect engine session query format s (done.map (·.1) ++ file :: behind)
      (⟨linesOf format done, []⟩, some f)

/-! ## The files in turn -/

section Turns

variable {τ : Type} {step : τ → SourceFile → StateM σ (Except Failure (Output × τ))}
  {state state' : τ} {file : SourceFile} {s s' : σ}

/-- A step that fails is the last one. -/
theorem run_forFiles_of_error {f : Failure} (h : (step state file).run s = (.error f, s'))
    (rest : List SourceFile) : ((forFiles step state (file :: rest)).run s).1 = ({}, .error f) := by
  rw [forFiles, StateT.run_bind, h]
  rfl

/-- A step that succeeds prints in front of those behind it. -/
theorem run_forFiles_of_ok {output : Output}
    (h : (step state file).run s = (.ok (output, state'), s')) (rest : List SourceFile) :
    ((forFiles step state (file :: rest)).run s).1 =
      (output ++ ((forFiles step state' rest).run s').1.1,
        ((forFiles step state' rest).run s').1.2) := by
  rw [forFiles, StateT.run_bind, h]
  rfl

end Turns

/-- Grammars of one name are one grammar. -/
def NamesOne (grammars : List Grammar) : Prop :=
  ∀ g ∈ grammars, ∀ h ∈ grammars, g.name = h.name → g = h

section Files

variable {dialect : Regex.Dialect} {hash : Bytes → UInt64} {engine : Engine σ}
  {alike : σ → σ → Prop} {session : Session} {query : Bytes} {format : CaptureFormat}
  {grammars parsed : List Grammar} {p : QueryProgress dialect hash} {g : Grammar}

/-- What is handed on from file to file serves each of these grammars as if it were the only one:
the compiled queries are those of the grammars of their names, the cache is faithful, the cursor
looks at whole trees and the pool has the parsers of grammars that files were parsed with. -/
structure QueryProgress.Sound (engine : Engine σ) (alike : σ → σ → Prop) (query : Bytes)
    (grammars parsed : List Grammar) (p : QueryProgress dialect hash) : Prop where
  queries : ∀ name q, p.queries.lookup name = some q →
    ∃ g ∈ grammars, g.name = name ∧ CompilesTo dialect engine alike g query (.ok q)
  cache : p.cache.IsFaithful
  cursor : p.cursor.bounds = {}
  pool : ParserPool.Keeps engine p.pool parsed
  among : ∀ g ∈ parsed, g ∈ grammars

theorem QueryProgress.sound_start {c : RegexCache dialect hash} (faithful : c.IsFaithful) :
    Sound engine alike query grammars [] ({ cache := c } : QueryProgress dialect hash) :=
  ⟨nofun, faithful, rfl, ParserPool.keeps_empty, nofun⟩

/-- A compiled query may be kept under the name of its grammar. -/
theorem QueryProgress.Sound.remember (sound : p.Sound engine alike query grammars parsed)
    (among : g ∈ grammars) {q : PatternQuery}
    (compiles : CompilesTo dialect engine alike g query (.ok q)) {c : RegexCache dialect hash}
    (faithful : c.IsFaithful) :
    Sound engine alike query grammars parsed
      { p with cache := c, queries := (g.name, q) :: p.queries } := by
  refine ⟨fun name q' found => ?_, faithful, sound.cursor, sound.pool, sound.among⟩
  rw [List.lookup_cons] at found
  by_cases same : name = g.name
  · rw [same, beq_self_eq_true] at found
    cases found
    exact ⟨g, among, same.symm, compiles⟩
  · rw [beq_false_of_ne same] at found
    exact sound.queries name q' found

variable (keeps : engine.KeepsNoQueries alike) (one : NamesOne grammars)
  (sound : p.Sound engine alike query grammars parsed) (among : g ∈ grammars)

include keeps one sound among

/-- **The query that is kept is the one compiled anew.** -/
theorem agree_queryFor :
    Agree alike (fun a b => a.1 = b.1 ∧ a.2.Sound engine alike query grammars parsed ∧
        a.2.accepted = p.accepted ∧ a.2.rejected = p.rejected)
      (p.queryFor engine g query) (PatternQuery.compile engine g query (noCache dialect)) := by
  intro s t states
  obtain ⟨answer, compiles⟩ := exists_compilesTo dialect keeps g query
  obtain ⟨d, t', ran, -, states'⟩ := compiles (noCache dialect) (isFaithful_empty 0) t
  rw [ran, QueryProgress.queryFor]
  cases known : p.queries.lookup g.name with
  | some q =>
    -- The kept query was compiled for a grammar of this name, which is this grammar.
    obtain ⟨h, member, same, compiled⟩ := sound.queries _ _ known
    obtain rfl := one h member g among same
    exact ⟨⟨compiled.unique compiles s, sound, rfl, rfl⟩, keeps.equivalence.trans states states'⟩
  | none =>
    obtain ⟨c, s', ran', faithful, states''⟩ := compiles p.cache sound.cache s
    have alike' := keeps.equivalence.trans (keeps.equivalence.symm states'')
      (keeps.equivalence.trans states states')
    dsimp only
    rw [StateT.run_bind, ran']
    cases answer with
    | error e =>
      exact ⟨⟨rfl, ⟨sound.queries, faithful, sound.cursor, sound.pool, sound.among⟩, rfl, rfl⟩,
        alike'⟩
    | ok q => exact ⟨⟨rfl, sound.remember among compiles faithful, rfl, rfl⟩, alike'⟩

omit one sound among in
/-- A text parsed with a parser that is created for it alone ends alike. -/
theorem agree_parseAnew (source : Bytes) (limit : Option Duration) :
    Agree alike (· = ·) (SyntaxParser.parseAnew engine g source limit none)
      (SyntaxParser.parseAnew engine g source limit none) := by
  by_cases loads : engine.loads g = true
  · rw [SyntaxParser.parseAnew_of_loads engine source limit none loads]
    exact Agree.map (keeps.parse _) fun _ _ same => same
  · obtain ⟨reason, -, fails⟩ :=
      SyntaxParser.parseAnew_of_not_loads engine source limit none loads
    rw [fails]
    exact Agree.pure rfl

/-- A parse with the pool and one with a new parser fail alike, or give the same tree. -/
inductive SameParse (engine : Engine σ) (parsed : List Grammar) :
    Except Failure (Bytes × SyntaxTree × ParserPool) →
      Except Failure (Bytes × SyntaxTree) → Prop where
  | error {f : Failure} : SameParse engine parsed (.error f) (.error f)
  | ok {source : Bytes} {tree : SyntaxTree} {pool : ParserPool}
    (kept : ParserPool.Keeps engine pool parsed) :
    SameParse engine parsed (.ok (source, tree, pool)) (.ok (source, tree))

/-- **The parser that is kept parses as a new one.** -/
theorem agree_parseFile {path : Path} :
    Agree alike (SameParse engine (parsed ++ [g].filter engine.loads))
      (session.parseFile engine p.pool ⟨path, g⟩) (session.parseAnew engine ⟨path, g⟩) := by
  -- The pool parses with the first grammar of the name that it was asked for.
  have first : (ParserPool.firstNamed? g.name parsed).getD g = g := by
    cases named : ParserPool.firstNamed? g.name parsed with
    | none => rfl
    | some h =>
      have member := sound.among h (List.mem_of_find?_eq_some named)
      exact one h member g among (ParserPool.name_of_firstNamed? named)
  unfold Session.parseFile Session.parseAnew
  cases session.readFile path with
  | error f => exact Agree.pure .error
  | ok source =>
    obtain ⟨pool', kept, -, ran⟩ :=
      sound.pool.parseSource_eq_map g source session.operationLimit none
    rw [first] at ran
    dsimp only
    rw [ran, bind_map_left]
    refine Agree.bind (agree_parseAnew keeps source session.operationLimit) ?_
    rintro result _ rfl
    cases result with
    | error e => exact Agree.pure .error
    | ok tree => exact Agree.pure (.ok kept)

omit one among in
/-- **The cursor that is kept looks at whole trees**, as a new one. -/
theorem agree_findMatches (q : PatternQuery) (root : Node) :
    Agree alike (fun a b => a.1 = b.1 ∧ a.2.bounds = {})
      (p.cursor.findMatches engine q root) (MatchCursor.findMatches {} engine q root) := by
  have asked : p.cursor.request q root false = MatchCursor.request {} q root false := by
    rw [MatchCursor.request, sound.cursor]
    rfl
  rw [MatchCursor.findMatches, asked]
  exact Agree.bind (keeps.run _) fun a b same => Agree.pure ⟨by rw [same], sound.cursor⟩

/-- The answer for a file among others and the one for the file by itself: they fail alike, or show
the same lines and count the same matches. -/
inductive Answered (engine : Engine σ) (alike : σ → σ → Prop) (query : Bytes)
    (grammars parsed : List Grammar) (format : CaptureFormat) (p : QueryProgress dialect hash)
    (path : Path) :
    Except Failure (Output × QueryProgress dialect hash) → Except Failure Finding → Prop where
  | error {f : Failure} :
    Answered engine alike query grammars parsed format p path (.error f) (.error f)
  | ok {f : Finding} {p' : QueryProgress dialect hash}
    (sound : p'.Sound engine alike query grammars parsed)
    (accepted : p'.accepted = p.accepted + f.accepted.length)
    (total : p'.accepted + p'.rejected = p.accepted + p.rejected + f.found.length) :
    Answered engine alike query grammars parsed format p path
      (.ok (⟨f.lines path format, []⟩, p')) (.ok f)

/-- **One file among others** is answered as by itself. -/
theorem agree_queryFile {path : Path} :
    Agree alike
      (Answered engine alike query grammars (parsed ++ [g].filter engine.loads) format p path)
      (queryFile engine session query format p ⟨path, g⟩)
      (queryAnew dialect engine session query ⟨path, g⟩) := by
  refine Agree.bind (agree_queryFor keeps one sound among) ?_
  rintro ⟨result, p'⟩ ⟨result', c⟩ ⟨same, sound', accepted, rejected⟩
  dsimp only at same sound' accepted rejected
  subst same
  cases result with
  | error e => exact Agree.pure .error
  | ok q =>
    refine Agree.bind (agree_parseFile keeps one sound' among) ?_
    intro a b parses
    cases parses with
    | error => exact Agree.pure .error
    | @ok source tree pool kept =>
      refine Agree.bind (agree_findMatches keeps sound' q _) ?_
      rintro ⟨found, cursor⟩ ⟨found', _⟩ ⟨same, whole⟩
      dsimp only at same whole
      subst same
      obtain ⟨lines, count, total⟩ := foldl_add q source path format found
        ⟨[], p'.accepted, p'.rejected⟩
      dsimp only at lines count total ⊢
      rw [lines, List.nil_append]
      refine Agree.pure (.ok ⟨sound'.queries, sound'.cache, whole, kept, fun h member => ?_⟩ ?_ ?_)
      · rcases List.mem_append.mp member with member | member
        · exact sound'.among h member
        · exact List.mem_singleton.mp (List.mem_of_mem_filter member) ▸ among
      · rw [count, accepted]
      · rw [total, accepted, rejected]

omit sound among in
/-- **The files in turn** are answered as each by itself, up to the first that fails. -/
theorem exists_queried (session : Session) (format : CaptureFormat) {files : List SourceFile}
    (known : ∀ file ∈ files, file.grammar ∈ grammars) {parsed : List Grammar}
    {p : QueryProgress dialect hash} (sound : p.Sound engine alike query grammars parsed) {s t : σ}
    (states : alike s t) :
    ∃ done t', Queried dialect engine session query t done t' ∧
      ((∃ p' : QueryProgress dialect hash, files = done.map (·.1) ∧
          p'.accepted = p.accepted + acceptedIn done ∧
          p'.accepted + p'.rejected = p.accepted + p.rejected + foundIn done ∧
          ((forFiles (queryFile engine session query format) p files).run s).1 =
            (⟨linesOf format done, []⟩, .ok p')) ∨
        ∃ file behind f t'', files = done.map (·.1) ++ file :: behind ∧
          (queryAnew dialect engine session query file).run t' = (.error f, t'') ∧
          ((forFiles (queryFile engine session query format) p files).run s).1 =
            (⟨linesOf format done, []⟩, .error f)) := by
  -- Each file leaves another progress and other states, which are general in the induction, as are
  -- the grammars that files were parsed with.
  induction files generalizing parsed p s t with
  | nil => exact ⟨[], t, .nil, .inl ⟨p, rfl, rfl, rfl, rfl⟩⟩
  | cons file files ih =>
    obtain ⟨among, later⟩ := List.forall_mem_cons.mp known
    have step : Agree alike
        (Answered engine alike query grammars
          (parsed ++ [file.grammar].filter engine.loads) format p file.path)
        (queryFile engine session query format p file)
        (queryAnew dialect engine session query file) :=
      agree_queryFile keeps one sound among
    obtain ⟨answered, states'⟩ := step s t states
    generalize here : (queryFile engine session query format p file).run s =
      result at answered states'
    generalize there : (queryAnew dialect engine session query file).run t =
      anew at answered states'
    obtain ⟨answer, s'⟩ := result
    obtain ⟨answer', t'⟩ := anew
    dsimp only at answered states'
    cases answered with
    | @error f =>
      exact ⟨[], t, .nil, .inr ⟨file, files, f, t', rfl, there, run_forFiles_of_error here files⟩⟩
    | @ok f p' sound' accepted total =>
      obtain ⟨done, t'', queried, outcome⟩ := ih later sound' states'
      have ran := run_forFiles_of_ok here files
      refine ⟨(file, f) :: done, t'', .cons there queried, ?_⟩
      rcases outcome with
        ⟨p'', rfl, accepted', total', rest⟩ | ⟨last, behind, e, t₃, rfl, fails, rest⟩
      · refine .inl ⟨p'', rfl, ?_, ?_, ?_⟩
        · rw [accepted', accepted, acceptedIn_cons, Nat.add_assoc]
        · rw [total', total, foundIn_cons, Nat.add_assoc]
        · rw [ran, rest]
          rfl
      · refine .inr ⟨last, behind, e, t₃, rfl, fails, ?_⟩
        rw [ran, rest]
        rfl

end Files

/-! ## The command -/

/-- The query command for files that were collected. -/
def queryFiles {dialect : Regex.Dialect} {hash : Bytes → UInt64} (engine : Engine σ)
    (session : Session) (cache : RegexCache dialect hash) (query : Bytes) (format : CaptureFormat)
    (files : List SourceFile) : StateM σ (Output × Option Failure) := do
  match ← forFiles (queryFile engine session query format) { cache } files with
  | (output, .error f) => return (output, some f)
  | (output, .ok s) =>
    return (output ++ ⟨[], summaryNotes format s.accepted s.rejected⟩, none)

section Command

variable {dialect : Regex.Dialect} {hash : Bytes → UInt64} {engine : Engine σ}
  {alike : σ → σ → Prop} {session : Session} {cache : RegexCache dialect hash} {query : Bytes}
  {format : CaptureFormat} {files : List SourceFile}

theorem runQuery_eq {paths : List Path} {language : Option String}
    (collected : session.collect paths language = .ok files) :
    runQuery engine session cache paths query language format =
      queryFiles engine session cache query format files := by
  rw [runQuery, collected]
  rfl

/-- **The command prints for each file what the file gives by itself.** -/
theorem reports_queryFiles (keeps : engine.KeepsNoQueries alike) (faithful : cache.IsFaithful)
    (one : NamesOne (files.map (·.grammar))) (s : σ) :
    Reports dialect engine session query format s files
      ((queryFiles engine session cache query format files).run s).1 := by
  have known : ∀ file ∈ files, file.grammar ∈ files.map (·.grammar) :=
    fun file member => List.mem_map_of_mem member
  obtain ⟨done, s', queried, outcome⟩ := exists_queried keeps one session format known
    (QueryProgress.sound_start faithful) (keeps.equivalence.refl s)
  rw [queryFiles, StateT.run_bind]
  generalize (forFiles (queryFile engine session query format) { cache } files).run s =
    ran at outcome
  obtain ⟨result, s''⟩ := ran
  dsimp only at outcome
  rcases outcome with ⟨p, rfl, accepted, total, rfl⟩ | ⟨file, behind, f, t, rfl, fails, rfl⟩
  · have count : p.accepted = acceptedIn done := by omega
    have counts : acceptedIn done + p.rejected = foundIn done := by omega
    have output : (⟨linesOf format done, []⟩ : Output) ++
        (⟨[], summaryNotes format p.accepted p.rejected⟩ : Output) =
        ⟨linesOf format done, summaryNotes format (acceptedIn done) p.rejected⟩ := by
      rw [count]
      exact congrArg (Output.mk · _) (List.append_nil _)
    show Reports dialect engine session query format s _ (_ ++ _, none)
    rw [output]
    exact .all queried counts
  · exact .upTo queried fails behind

/-- The query that looked for matches is the one compiled for the file. -/
theorem compile_of_queryAnew {file : SourceFile} {f : Finding} {s s' : σ}
    (h : (queryAnew dialect engine session query file).run s = (.ok f, s')) :
    ((PatternQuery.compile engine file.grammar query (noCache dialect)).run s).1.1 =
      .ok f.query := by
  rw [queryAnew, StateT.run_bind] at h
  generalize (PatternQuery.compile engine file.grammar query (noCache dialect)).run s =
    compiled at h ⊢
  obtain ⟨⟨result, d⟩, t⟩ := compiled
  cases result with
  | error e => cases h
  | ok q =>
    change StateT.run (_ >>= _) t = _ at h
    rw [StateT.run_bind] at h
    generalize (session.parseAnew engine file).run t = parsed at h
    obtain ⟨parse, t'⟩ := parsed
    cases parse with
    | error e => cases h
    | ok answer =>
      change StateT.run (_ >>= _) t' = _ at h
      rw [StateT.run_bind] at h
      cases h
      rfl

/-- Collected files of one grammar name are of one grammar. -/
theorem namesOne_of_collect {paths : List Path} {language : Option String}
    (collected : session.collect paths language = .ok files) :
    NamesOne (files.map (·.grammar)) := by
  intro g hg h hh same
  obtain ⟨file, member, rfl⟩ := List.mem_map.mp hg
  obtain ⟨file', member', rfl⟩ := List.mem_map.mp hh
  have registered := Session.find?_of_mem_collect collected file member
  rw [same, Session.find?_of_mem_collect collected file' member'] at registered
  exact (Option.some.inj registered).symm

/-- The lines of files are one line each, where the paths are. -/
theorem isOneLine_of_queried (words : engine.NamesOnOneLine) {s s' : σ}
    {done : List (SourceFile × Finding)} (queried : Queried dialect engine session query s done s')
    (paths : ∀ d ∈ done, format.KeepsLines d.1.path) :
    ∀ line ∈ linesOf format done, IsOneLine line := by
  induction queried with
  | nil => exact List.forall_mem_nil _
  | @cons s s' s'' file f later first _ ih =>
    obtain ⟨path, others⟩ := List.forall_mem_cons.mp paths
    obtain ⟨text, shape, answered, same⟩ := exists_shape_of_compile (compile_of_queryAnew first)
    refine List.forall_mem_append.mpr ⟨fun line member => ?_, ih others⟩
    obtain ⟨m, -, inside⟩ := List.mem_flatMap.mp member
    obtain ⟨c, -, rfl⟩ := List.mem_map.mp inside
    exact isOneLine_captureLine _ _ _ _ path (same ▸ words _ text s shape answered)

theorem count_newline_textOf {lines : List String} (h : ∀ line ∈ lines, IsOneLine line) :
    (textOf lines).toList.count '\n' = lines.length := by
  induction lines with
  | nil => rfl
  | cons line lines ih =>
    obtain ⟨first, later⟩ := List.forall_mem_cons.mp h
    have inner : line.toList.count '\n' = 0 := List.count_eq_zero.mpr first
    have split : textOf (line :: lines) = line ++ "\n" ++ textOf lines := String.join_cons
    have feed : "\n".toList.count '\n' = 1 := by decide
    rw [split, String.toList_append, String.toList_append, List.count_append, List.count_append,
      inner,
      feed, ih later, List.length_cons]
    omega

end Command

/-- **The query command** prints, file by file in their order, one line for each capture of each
match that the query accepts when it is compiled for the grammar of the file and run over the file
by itself, in the order of matches and captures. So compiling once for each grammar name does not
show, as grammars of one name are one, which those of a registry are. When all files succeed, a note
counts the accepted matches, those without captures included, and the rejected ones, which together
are all structural matches. Otherwise the command fails as the first file does that fails by itself,
and has printed the lines of those before it. Each line is one physical line, in text mode for a
path that is one and otherwise for a writer of records that puts each on one line, so there are as
many as captures of accepted matches. -/
theorem runQuery_prints_captures (dialect : Regex.Dialect) (engine : Engine σ)
    (alike : σ → σ → Prop) (keeps : engine.KeepsNoQueries alike) (words : engine.NamesOnOneLine)
    (session : Session) (query : Bytes) (format : CaptureFormat) (s : σ) (hash : Bytes → UInt64)
    (capacity : Nat) (calls : List Call) :
    (∀ files, NamesOne (files.map (·.grammar)) →
      Reports dialect engine session query format s files ((queryFiles engine session
        (afterCalls dialect hash capacity calls) query format files).run s).1) ∧
    (∀ paths language files, session.collect paths language = .ok files →
      Reports dialect engine session query format s files ((runQuery engine session
        (afterCalls dialect hash capacity calls) paths query language format).run s).1) ∧
    ∀ done s', Queried dialect engine session query s done s' →
      (∀ d ∈ done, format.KeepsLines d.1.path) →
        (∀ line ∈ linesOf format done, IsOneLine line) ∧
        (textOf (linesOf format done)).toList.count '\n' = capturesIn done := by
  have faithful := isFaithful_afterCalls dialect hash capacity calls
  refine ⟨fun files one => reports_queryFiles keeps faithful one s, ?_, ?_⟩
  · intro paths language files collected
    rw [runQuery_eq collected]
    exact reports_queryFiles keeps faithful (namesOne_of_collect collected) s
  · intro done s' queried paths
    have single := isOneLine_of_queried words queried paths
    exact ⟨single, (count_newline_textOf single).trans (length_linesOf format done)⟩

/-- An engine for which every text is one node, and every query a pattern that captures it. -/
def wholeTextEngine : Engine Unit :=
  { Engine.absent with
    compile := fun _ _ => pure (.ok ⟨[Bytes.ofText "it"], [0], [[.one]]⟩)
    parse := fun request =>
      let source := request.read 0 ⟨0, 0⟩
      let range : Range := ⟨0, source.length, ⟨0, 0⟩, pointAt source source.length⟩
      let root := Node.mk ⟨0, "document", true, false, false, range, none⟩ []
      pure ⟨some ⟨root, "(document)", false⟩, [], false⟩
    run := fun request => pure ⟨[(⟨0, 0, [⟨0, request.root⟩]⟩, none)], false⟩ }

/-- Two files of one grammar. -/
def twoFileSession : Session where
  registry := { grammars := [⟨"json", ⟨"json"⟩, ["json"]⟩], extensions := [("json", "json")] }
  operationLimit := none
  files := ⟨⟨"/home"⟩, .directory
    [("a.json", .file (Bytes.ofText "[1,\n2]")), ("b.json", .file (Bytes.ofText "[]"))]⟩

/-- One of two files is accepted, and its text of two lines is shown on one. -/
theorem runQuery_prints_captures_of_two_files :
    let query := Bytes.ofText "((document) @it (#not-eq? @it \"[]\"))"
    let printed :=
      ((runQuery wholeTextEngine twoFileSession (afterCalls .standard (fun _ => 0) 1 [])
        [⟨"a.json"⟩, ⟨"b.json"⟩] query none .text).run ()).1
    wholeTextEngine.KeepsNoQueries Eq ∧ wholeTextEngine.NamesOnOneLine ∧
      (∃ files, twoFileSession.collect [⟨"a.json"⟩, ⟨"b.json"⟩] none = .ok files ∧
        Reports .standard wholeTextEngine twoFileSession query .text () files printed) ∧
      printed =
        (⟨["a.json:1:1 @it [1,\\n2]"], ["1 accepted, 1 rejected by predicates"]⟩, none) := by
  intro query printed
  have keeps : wholeTextEngine.KeepsNoQueries Eq := by
    refine ⟨eq_equivalence, fun _ _ => ⟨_, fun _ => ⟨rfl, rfl⟩⟩, fun _ => ?_, fun _ => ?_⟩
    · exact Agree.pure rfl
    · exact Agree.pure rfl
  have words : wholeTextEngine.NamesOnOneLine := by
    intro language text s shape answered
    cases answered
    decide +kernel
  have reports := (runQuery_prints_captures .standard wholeTextEngine Eq keeps words twoFileSession
    query .text () (fun _ => 0) 1 []).2.1 [⟨"a.json"⟩, ⟨"b.json"⟩] none _ rfl
  exact ⟨keeps, words, ⟨_, rfl, reports⟩, by decide +kernel⟩

end Command

end SyntaxForest
