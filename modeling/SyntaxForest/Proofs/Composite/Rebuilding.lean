import SyntaxForest.Composite.Markdown
import SyntaxForest.Proofs.Composite.Composition
import SyntaxForest.Proofs.Parsing.Agreement

/-!
# Builds and rebuilds

A rebuild hands the trees of an older composite to the engine, each to the parse with its ordinal.
The older document may have had other regions, more of them or fewer; for an engine whose trees and
halts do not depend on the older tree none of this shows. The rebuild fails as the build does, or
gives the same trees of the same regions, and only the marks tell which regions an older tree was at
hand for. A caller who rebuilds again and again, from any of the composites kept and after any edits
of them, so has at all times what builds from scratch would have given.

## Main definitions

* `CompositeTree.unmarked`: a composite without its marks of reuse
* `Composer.Session`, `Composer.Step`: the composites that a caller keeps, and what the caller does

## Main results

* `Composer.agree_compose`: compositions from different older composites
* `Composer.Session.agree_run`: sessions with rebuilds, and with builds in their place
* `Composer.rebuild_agrees_with_build`: a rebuild against a build
-/

namespace SyntaxForest

variable {σ : Type}

/-- The secondary tree without its mark of reuse. -/
def SecondaryTree.unmarked (t : SecondaryTree) : SecondaryTree := { t with isReused := false }

namespace CompositeTree

/-- The composite without its marks of reuse. -/
def unmarked (c : CompositeTree) : CompositeTree :=
  .of c.primary (c.secondaries.map (·.unmarked))

theorem unmarked_edit (engine : Engine σ) (e : TextEdit) (c : CompositeTree) :
    (c.edit engine e).unmarked = c.unmarked.edit engine e := by
  refine eq_of_trees rfl ?_
  show (c.secondaries.map _).map _ = (c.secondaries.map _).map _
  rw [List.map_map, List.map_map]
  rfl

/-- The marks of reuse have no part in what is shown at a node. -/
theorem secondaryTree?_unmarked (c : CompositeTree) (node : Node) :
    c.unmarked.secondaryTree? node = (c.secondaryTree? node).map (·.unmarked) := by
  rw [secondaryTree?_eq_find?, secondaryTree?_eq_find?]
  show (c.secondaries.map _).reverse.find? _ = _
  rw [← List.map_reverse, List.find?_map]
  rfl

end CompositeTree

namespace Composer

section

variable {engine : Engine σ} {alike : σ → σ → Prop} (ignores : engine.IgnoresPrevious alike)
  {source : Bytes} {token : Option CancellationToken}

include ignores

/-- The parses of regions fail alike, or give the same trees, whatever the older trees are. -/
theorem agree_parseRegions (older other : List SecondaryTree) (parser : SyntaxParser)
    (ordinal : Nat) (regions : List Region) :
    Agree alike (fun a b => a.1.map (List.map (·.unmarked)) = b.1.map (List.map (·.unmarked)) ∧
        a.2 = b.2)
      (parseRegions engine source older token parser ordinal regions)
      (parseRegions engine source other token parser ordinal regions) := by
  induction regions generalizing parser ordinal with
  | nil => exact Agree.pure ⟨rfl, rfl⟩
  | cons region rest ih =>
    rw [parseRegions, parseRegions]
    refine Agree.bind (parser.agree_parseRanges ignores _ _ source region.ranges) ?_
    rintro ⟨result, parser'⟩ _ rfl
    -- A region that fails ends both runs. One that does not leaves the same parser to the later
    -- ones.
    cases result with
    | error e => exact Agree.pure ⟨rfl, rfl⟩
    | ok tree =>
      refine Agree.bind (ih parser' (ordinal + 1)) ?_
      rintro ⟨later, parser''⟩ ⟨later', _⟩ ⟨same, rfl⟩
      refine Agree.pure ⟨?_, rfl⟩
      -- The marks of the first region may differ, and are no longer there on either side.
      have first (isReused : Bool) (x : Except ComposeError (List SecondaryTree)) :
          (x.map (⟨tree, region, ordinal, isReused⟩ :: ·)).map (List.map (·.unmarked)) =
            (x.map (List.map (·.unmarked))).map (⟨tree, region, ordinal, false⟩ :: ·) := by
        cases x with
        | error e => rfl
        | ok rest => rfl
      exact (first _ later).trans ((congrArg _ same).trans (first _ later').symm)

/-- Compositions from different older composites, or from none, fail alike or give the same
composite apart from the marks of reuse. -/
theorem agree_compose (c : Composer) (older other : Option CompositeTree) :
    Agree alike (fun a b => a.1.map (·.unmarked) = b.1.map (·.unmarked) ∧ a.2 = b.2)
      (c.compose engine source older token) (c.compose engine source other token) := by
  rw [compose, compose]
  refine Agree.bind (c.primary.agree_parse ignores _ _ source) ?_
  rintro ⟨result, primary⟩ _ rfl
  cases result with
  | error e => exact Agree.pure ⟨rfl, rfl⟩
  | ok tree =>
    refine Agree.bind (MatchCursor.agree_findMatches ignores c.cursor c.anchor tree.root) ?_
    rintro ⟨found, cursor⟩ _ rfl
    -- The regions are now the same, however many the older composites have.
    refine Agree.bind (agree_parseRegions ignores _ _ c.secondary 0 _) ?_
    rintro ⟨result, secondary⟩ ⟨result', _⟩ ⟨same, rfl⟩
    refine Agree.pure ⟨?_, rfl⟩
    have whole (x : Except ComposeError (List SecondaryTree)) :
        (x.map (CompositeTree.of tree)).map (·.unmarked) =
          (x.map (List.map (·.unmarked))).map (CompositeTree.of tree) := by
      cases x with
      | error e => rfl
      | ok secondaries => rfl
    exact (whole result).trans ((congrArg _ same).trans (whole result').symm)

end

/-! ## Sessions -/

/-- A composer with the outcomes of its compositions so far. The caller keeps all of them. -/
structure Session where
  /-- The composer. -/
  composer : Composer
  /-- The outcomes, in order. -/
  outcomes : List (Except ComposeError CompositeTree)

/-- What the caller of a session does. -/
inductive Step where
  /-- Composes a document from scratch. -/
  | build (source : Bytes) (token : Option CancellationToken)
  /-- Composes a document from the outcome with this number, or from scratch when there is no
  composite. -/
  | rebuild (number : Nat) (source : Bytes) (token : Option CancellationToken)
  /-- Edits the composite with this number. -/
  | edit (number : Nat) (e : TextEdit)

/-- The same step, composing from scratch. -/
def Step.fromScratch : Step → Step
  | .rebuild _ source token => .build source token
  | step => step

namespace Session

/-- The composite with a number. -/
def composite? (x : Session) (number : Nat) : Option CompositeTree :=
  x.outcomes[number]?.bind (·.toOption)

/-- One step of a session. -/
def step (engine : Engine σ) (x : Session) : Step → StateM σ Session
  | .build source token => do
    let (outcome, composer) ← x.composer.build engine source token
    return ⟨composer, x.outcomes ++ [outcome]⟩
  | .rebuild number source token => do
    let (outcome, composer) ← match x.composite? number with
      | some previous => x.composer.rebuild engine previous source token
      | none => x.composer.build engine source token
    return ⟨composer, x.outcomes ++ [outcome]⟩
  | .edit number e =>
    return { x with outcomes := x.outcomes.modify number (·.map (·.edit engine e)) }

/-- The steps of a session in turn. -/
def run (engine : Engine σ) (x : Session) : List Step → StateM σ Session
  | [] => pure x
  | first :: rest => do
    let x ← x.step engine first
    x.run engine rest

/-- Two sessions have the same composer and, apart from marks of reuse, the same outcomes. -/
def SameUnmarked (x y : Session) : Prop :=
  x.composer = y.composer ∧
    x.outcomes.map (·.map (·.unmarked)) = y.outcomes.map (·.map (·.unmarked))

/-- An edit of a composite is seen alike with its marks and without them. -/
theorem map_unmarked_modify (engine : Engine σ)
    (outcomes : List (Except ComposeError CompositeTree)) (number : Nat) (e : TextEdit) :
    (outcomes.modify number (·.map (·.edit engine e))).map (·.map (·.unmarked)) =
      (outcomes.map (·.map (·.unmarked))).modify number (·.map (·.edit engine e)) := by
  refine List.ext_getElem? fun i => ?_
  simp only [List.getElem?_map, List.getElem?_modify, Option.map_eq_map, Option.map_map]
  refine congrArg (Option.map · outcomes[i]?) (funext fun outcome => ?_)
  rw [Function.comp_apply, Function.comp_apply]
  split
  next =>
    cases outcome with
    | error reason => rfl
    | ok composite => exact congrArg Except.ok (composite.unmarked_edit engine e)
  next => rfl

/-- A rebuild composes from the composite with the number, if there is one. -/
theorem step_rebuild (engine : Engine σ) (x : Session) (number : Nat) (source : Bytes)
    (token : Option CancellationToken) :
    x.step engine (.rebuild number source token) =
      (x.composer.compose engine source (x.composite? number) token >>= fun composed =>
        pure ⟨composed.2, x.outcomes ++ [composed.1]⟩) := by
  rw [step]
  cases x.composite? number with
  | none => rfl
  | some previous => rfl

variable {engine : Engine σ} {alike : σ → σ → Prop} (ignores : engine.IgnoresPrevious alike)

include ignores

/-- A step and the same step from scratch lead sessions that are the same apart from marks of reuse
to such sessions again. -/
theorem agree_step {x y : Session} (same : x.SameUnmarked y) (step : Step) :
    Agree alike SameUnmarked (x.step engine step) (y.step engine step.fromScratch) := by
  obtain ⟨composer, outcomes⟩ := same
  -- A build, too, is a composition, from no older composite.
  have composes (older other : Option CompositeTree) (source : Bytes)
      (token : Option CancellationToken) :
      Agree alike SameUnmarked
        (x.composer.compose engine source older token >>= fun composed =>
          pure (⟨composed.2, x.outcomes ++ [composed.1]⟩ : Session))
        (y.composer.compose engine source other token >>= fun composed =>
          pure (⟨composed.2, y.outcomes ++ [composed.1]⟩ : Session)) := by
    rw [composer]
    refine Agree.bind (agree_compose ignores y.composer older other) ?_
    rintro ⟨outcome, composer'⟩ ⟨outcome', _⟩ ⟨same, rfl⟩
    refine Agree.pure ⟨rfl, ?_⟩
    rw [List.map_append, List.map_append, outcomes, List.map_singleton, List.map_singleton, same]
  cases step with
  | build source token => exact composes none none source token
  | rebuild number source token =>
    rw [step_rebuild]
    exact composes (x.composite? number) none source token
  | edit number e =>
    refine Agree.pure ⟨composer, ?_⟩
    rw [map_unmarked_modify, map_unmarked_modify, outcomes]

theorem agree_run {x y : Session} (same : x.SameUnmarked y) (steps : List Step) :
    Agree alike SameUnmarked (x.run engine steps) (y.run engine (steps.map Step.fromScratch)) := by
  induction steps generalizing x y with
  | nil => exact Agree.pure same
  | cons first rest ih => exact Agree.bind (agree_step ignores same first) fun _ _ same => ih same

end Session

/-! ## Rebuilds -/

/-- Outcomes that are equal without marks of reuse are the same error, or composites with equal
trees of equal regions, which show equal trees at every node. -/
theorem eq_of_map_unmarked_eq {x y : Except ComposeError CompositeTree}
    (h : x.map (·.unmarked) = y.map (·.unmarked)) :
    (∃ e, x = .error e ∧ y = .error e) ∨
    ∃ a b, x = .ok a ∧ y = .ok b ∧ a.primary = b.primary ∧
      a.secondaries.map (·.tree) = b.secondaries.map (·.tree) ∧
      a.secondaries.map (·.region) = b.secondaries.map (·.region) ∧
      a.secondaries.map (·.ordinal) = b.secondaries.map (·.ordinal) ∧
      ∀ node, (a.secondaryTree? node).map (·.unmarked) =
        (b.secondaryTree? node).map (·.unmarked) := by
  cases x with
  | error e =>
    cases y with
    | error e' =>
      cases h
      exact .inl ⟨e, rfl, rfl⟩
    | ok b => cases h
  | ok a =>
    cases y with
    | error e' => cases h
    | ok b =>
      have same : a.unmarked = b.unmarked := Except.ok.inj h
      have secondaries := congrArg CompositeTree.secondaries same
      -- What is read off the trees without marks is what is read off the trees.
      have parts {α : Type} (f : SecondaryTree → α) (plain : ∀ t, f t.unmarked = f t) :
          a.secondaries.map f = b.secondaries.map f := by
        have read := congrArg (List.map f) secondaries
        simpa only [CompositeTree.unmarked, CompositeTree.secondaries_of, List.map_map,
          Function.comp_def, plain] using read
      refine .inr ⟨a, b, rfl, rfl, ?_, parts _ fun _ => rfl, parts _ fun _ => rfl,
        parts _ fun _ => rfl, fun node => ?_⟩
      · have primary := congrArg CompositeTree.primary same
        exact primary
      · rw [← CompositeTree.secondaryTree?_unmarked, same, CompositeTree.secondaryTree?_unmarked]

/-- **A rebuild agrees with a build**, for an engine whose trees and halts do not depend on the
older tree. From states that are alike, and whatever the older composite is, both fail with one
error or give composites with equal trees of equal regions, which show equal trees at every node;
they leave the same composer, and states that are alike. So does a parser of Markdown documents with
an older document and without one. Over any chain of builds, rebuilds and edits, the outcomes are
those of the chain with a build for each rebuild; and a rebuild leaves all composites that are kept
as they were, the one that it starts from among them. -/
theorem rebuild_agrees_with_build {engine : Engine σ} {alike : σ → σ → Prop}
    (ignores : engine.IgnoresPrevious alike) :
    (∀ (c : Composer) (previous : CompositeTree) (source : Bytes)
      (token : Option CancellationToken) (s t : σ), alike s t →
      ((∃ e, ((c.rebuild engine previous source token).run s).1.1 = .error e ∧
          ((c.build engine source token).run t).1.1 = .error e) ∨
        ∃ a b, ((c.rebuild engine previous source token).run s).1.1 = .ok a ∧
          ((c.build engine source token).run t).1.1 = .ok b ∧ a.primary = b.primary ∧
          a.secondaries.map (·.tree) = b.secondaries.map (·.tree) ∧
          a.secondaries.map (·.region) = b.secondaries.map (·.region) ∧
          a.secondaries.map (·.ordinal) = b.secondaries.map (·.ordinal) ∧
          ∀ node, (a.secondaryTree? node).map (·.unmarked) =
            (b.secondaryTree? node).map (·.unmarked)) ∧
      ((c.rebuild engine previous source token).run s).1.2 =
        ((c.build engine source token).run t).1.2 ∧
      alike ((c.rebuild engine previous source token).run s).2
        ((c.build engine source token).run t).2) ∧
    (∀ (p : MarkdownParser) (previous : CompositeTree) (source : Bytes)
      (token : Option CancellationToken),
      Agree alike (fun a b => a.1.map (·.unmarked) = b.1.map (·.unmarked) ∧ a.2 = b.2)
        (p.parse engine source (some previous) token) (p.parse engine source none token)) ∧
    (∀ (x : Session) (steps : List Step),
      Agree alike Session.SameUnmarked (x.run engine steps)
        (x.run engine (steps.map Step.fromScratch))) ∧
    ∀ (x : Session) (number : Nat) (source : Bytes) (token : Option CancellationToken) (s : σ),
      ∃ outcome, ((x.step engine (.rebuild number source token)).run s).1.outcomes =
        x.outcomes ++ [outcome] := by
  refine ⟨fun c previous source token s t states => ?_, fun p previous source token => ?_,
    fun x steps => Session.agree_run ignores ⟨rfl, rfl⟩ steps, fun x number source token s => ?_⟩
  · obtain ⟨⟨outcome, composer⟩, states'⟩ :=
      agree_compose ignores c (some previous) none s t states
    exact ⟨eq_of_map_unmarked_eq outcome, composer, states'⟩
  · refine Agree.bind (agree_compose ignores p.composer (some previous) none) ?_
    rintro ⟨outcome, composer⟩ ⟨outcome', _⟩ ⟨same, rfl⟩
    exact Agree.pure ⟨same, rfl⟩
  · rw [Session.step_rebuild]
    exact ⟨_, rfl⟩

/-- An engine that parses every text to `document` and every part of a text to `part`, unless the
flag is set. It does not look at the flag when it has an older tree. Queries capture as those of
`repeatingEngine` do. -/
def cancellableEngine (document part : SyntaxTree) : Engine Unit :=
  { repeatingEngine document part with
    parse request :=
      let isStopped := request.token.any (·.isCancelled)
      let tree := if request.ranges = [] then document else part
      let polls := if request.previous.isSome then [] else [⟨isStopped, .zero⟩]
      pure ⟨if isStopped then none else some tree, polls, isStopped⟩ }

theorem cancellableEngine_ignoresPrevious (document part : SyntaxTree) :
    (cancellableEngine document part).IgnoresPrevious (· = ·) where
  parse request older other s t states := by
    refine ⟨?_, states⟩
    -- A halted parse shows the flag in the end, whether it was looked at or not.
    obtain ⟨language, read, ranges, previous, suspended, token, limit⟩ := request
    cases token with
    | none => rfl
    | some token =>
      obtain ⟨isCancelled⟩ := token
      cases isCancelled with
      | false => rfl
      | true => cases older <;> cases other <;> rfl
  run request s t states := ⟨rfl, states⟩

/-- The older composite has one region and the document three. -/
theorem rebuild_agrees_with_build_of_fewer_regions :
    ∃ document part previous rebuilt built,
      (cancellableEngine document part).IgnoresPrevious (· = ·) ∧
      previous.secondaries.length = 1 ∧
      ((plainComposer.rebuild (cancellableEngine document part) previous [] none).run ()).1.1 =
        .ok rebuilt ∧
      ((plainComposer.build (cancellableEngine document part) [] none).run ()).1.1 = .ok built ∧
      rebuilt.secondaries.map (·.isReused) = [true, false, false] ∧
      built.secondaries.map (·.isReused) = [false, false, false] ∧
      rebuilt.secondaries.map (·.region) = built.secondaries.map (·.region) ∧
      (∀ node, (rebuilt.secondaryTree? node).map (·.unmarked) =
        (built.secondaryTree? node).map (·.unmarked)) ∧
      ((plainComposer.rebuild (cancellableEngine document part) previous [] (some ⟨true⟩)).run
        ()).1.1 = .error (.primary .cancelled) := by
  let part : SyntaxTree := ⟨inlineNode 0 0 9 [], "", false⟩
  let first := inlineNode 1 0 4 []
  let second := inlineNode 2 5 9 []
  let document : SyntaxTree := ⟨inlineNode 0 0 9 [first, second], "", false⟩
  let previous : CompositeTree := .of document [secondaryOf none 0 second part]
  let composite (older : Option CompositeTree) : CompositeTree := .of document
    [secondaryOf older 0 first part, secondaryOf older 1 second part,
      secondaryOf older 2 first part]
  have ignores := cancellableEngine_ignoresPrevious document part
  have rebuilds : ((plainComposer.rebuild (cancellableEngine document part) previous [] none).run
      ()).1.1 = .ok (composite (some previous)) := rfl
  have builds : ((plainComposer.build (cancellableEngine document part) [] none).run ()).1.1 =
      .ok (composite none) := rfl
  obtain ⟨⟨e, failed, -⟩ | ⟨a, b, same, same', -, -, regions, -, shown⟩, -, -⟩ :=
    (rebuild_agrees_with_build ignores).1 plainComposer previous [] none () () rfl
  · rw [rebuilds] at failed
    cases failed
  · obtain rfl := Except.ok.inj (rebuilds.symm.trans same)
    obtain rfl := Except.ok.inj (builds.symm.trans same')
    exact ⟨document, part, previous, _, _, ignores, rfl, rebuilds, builds, rfl, rfl, regions, shown,
      rfl⟩

end Composer

end SyntaxForest
