import SyntaxForest.Proofs.Composite.Composition
import SyntaxForest.Proofs.Parsing.Requests
import SyntaxForest.Proofs.Tree.Coverage

/-!
# The ranges of regions

The engine refuses ranges out of order, and takes the empty list of ranges for the whole document.
Neither happens to a region of a tree whose nodes do not end before they start, since its ranges are
the covering ranges of such a node.

## Main definitions

* `Node.IsProper`: a tree of nodes that do not end before they start
* `Engine.CapturesWithin`: an engine that captures nodes of the tree that a query runs over

## Main results

* `Composer.asks_parseRegions`: what the parses of regions ask for
* `Composer.region_ranges_accepted`: no composition fails for the ranges of a region, or parses one
  without ranges
-/

namespace SyntaxForest

variable {σ : Type}

/-- No node of the tree ends before it starts. -/
def Node.IsProper (root : Node) : Prop :=
  ∀ n ∈ root.preorder, n.range.startByte ≤ n.range.endByte

instance (root : Node) : Decidable root.IsProper :=
  inferInstanceAs (Decidable (∀ n ∈ root.preorder, _))

/-- The nodes that the engine captures are nodes of the tree that the query runs over. -/
def Engine.CapturesWithin (engine : Engine σ) : Prop :=
  ∀ request s, ∀ result ∈ ((engine.run request).run s).1.results,
    ∀ capture ∈ result.1.captures, capture.node ∈ request.root.preorder

/-- The engine accepts the covering ranges of the nodes of a proper tree. -/
theorem Node.IsProper.ordered_coveringRanges {root n : Node} (proper : root.IsProper)
    (hn : n ∈ root.preorder) : Range.Ordered n.coveringRanges := by
  refine SyntaxForest.ordered_coveringRanges fun r hr => ?_
  obtain ⟨child, named, rfl⟩ := List.mem_map.mp hr
  exact proper child (child_mem_preorder (List.mem_filter.mp named).1 hn)

/-- A run of a query asks for no parse, and what it captures are nodes of the tree. -/
theorem MatchCursor.asks_findMatches {P : ParseRequest → Prop} {engine : Engine σ}
    (within : engine.CapturesWithin) (cursor : MatchCursor) (q : PatternQuery) (root : Node) :
    Asks P (fun result => ∀ m ∈ result.1, ∀ capture ∈ m.captures, capture.node ∈ root.preorder)
      (cursor.findMatches engine.recording q root) (cursor.findMatches engine q root) := by
  refine Asks.bind (Asks.run engine (cursor.request q root false)
    (fun answer => ∀ result ∈ answer.results, ∀ capture ∈ result.1.captures,
      capture.node ∈ root.preorder) fun s => within _ s) fun answer inside => Asks.pure ?_
  intro m hm
  obtain ⟨result, hresult, rfl⟩ := List.mem_map.mp hm
  exact inside result hresult

namespace Composer

variable (engine : Engine σ) {source : Bytes} {token : Option CancellationToken}

/-- The parses of regions with ranges in order ask for parses with ranges, take up no halted parse
when none was left behind, and fail for other reasons than their ranges. -/
theorem asks_parseRegions {older : List SecondaryTree} {parser : SyntaxParser} {ordinal : Nat}
    {atRest : Prop} (rests : atRest → parser.inner.suspended = none) {regions : List Region}
    (accepted : ∀ r ∈ regions, r.ranges ≠ [] ∧ Range.Ordered r.ranges) :
    Asks (fun r => r.ranges ≠ [] ∧ (atRest → r.suspended = none))
      (fun result => ∀ k index, result.1 ≠ .error (.secondary k (.invalidRanges index)))
      (parseRegions engine.recording source older token parser ordinal regions)
      (parseRegions engine source older token parser ordinal regions) := by
  induction regions generalizing parser ordinal with
  | nil => exact Asks.pure fun k index same => by cases same
  | cons region rest ih =>
    obtain ⟨⟨nonempty, ordered⟩, others⟩ := List.forall_mem_cons.mp accepted
    rw [parseRegions, parseRegions]
    refine Asks.bind (parser.asks_runIn engine fun _ => ⟨nonempty, rests⟩) ?_
    rintro ⟨e | tree, parser'⟩ ⟨stays, refused⟩
    · refine Asks.pure fun k index same => ?_
      cases same
      exact refused ordered index rfl
    · -- The parse that gave a tree left no halted one behind.
      refine Asks.bind (ih (fun isAtRest => stays (rests isAtRest)) others) ?_
      rintro ⟨e | later, parser''⟩ unrefused
      · exact Asks.pure fun k index same => unrefused k index same
      · exact Asks.pure fun k index same => by cases same

variable {engine}

/-- Behind the primary parse, a composition only asks for parses with ranges. -/
theorem asks_composeRegions (within : engine.CapturesWithin) (c : Composer)
    (older : List SecondaryTree) {tree : SyntaxTree} (proper : tree.root.IsProper)
    (primary : SyntaxParser) :
    Asks (fun r => r.ranges ≠ [] ∧ (c.secondary.inner.suspended = none → r.suspended = none))
      (fun result => ∀ k index, result.1 ≠ .error (.secondary k (.invalidRanges index)))
      (c.composeRegions engine.recording source older token tree primary)
      (c.composeRegions engine source older token tree primary) := by
  refine Asks.bind (MatchCursor.asks_findMatches within c.cursor c.anchor tree.root) ?_
  rintro ⟨found, cursor⟩ captured
  -- Each region is that of a node of the tree, so the engine accepts its ranges.
  have accepted : ∀ r ∈ regions c.anchor source found, r.ranges ≠ [] ∧ Range.Ordered r.ranges := by
    intro r hr
    obtain ⟨m, hm, capture, hcapture, rfl⟩ : ∃ m ∈ found.filter (c.anchor.satisfies · source),
        ∃ capture ∈ m.captures, Region.ofNode capture.node = r := by
      simpa only [regions, List.mem_flatMap, List.mem_map] using hr
    refine ⟨coveringRanges_ne_nil _ _, proper.ordered_coveringRanges ?_⟩
    exact captured m (List.mem_filter.mp hm).1 capture hcapture
  refine Asks.bind (asks_parseRegions engine id accepted) ?_
  rintro ⟨e | secondaries, secondary⟩ unrefused
  · refine Asks.pure fun k index same => ?_
    cases same
    exact unrefused k index rfl
  · exact Asks.pure fun k index same => by cases same

/-- **The ranges of a region are accepted.** Covering ranges are never empty, and the engine accepts
them when no child ends before it starts, wherever the children lie. So no composition of a proper
tree, from scratch or from an older composite, fails for the ranges of a region; and behind the
primary parse the engine is only asked for parses with ranges, and for no halted parse when none was
left behind. The record does not change what the composition gives. -/
theorem region_ranges_accepted :
    (∀ anchor children, (∀ child ∈ children, child.startByte ≤ child.endByte) →
      coveringRanges anchor children ≠ [] ∧ Range.Ordered (coveringRanges anchor children)) ∧
    ∀ {σ : Type} (engine : Engine σ) (c : Composer) (source : Bytes)
      (previous : Option CompositeTree) (token : Option CancellationToken) (s : σ),
      engine.CapturesWithin →
      (∀ tree primary s', (c.primary.parse engine source (previous.map (·.primary)) token).run s =
        ((.ok tree, primary), s') → tree.root.IsProper) →
      (∀ k index, ((c.compose engine source previous token).run s).1.1 ≠
        .error (.secondary k (.invalidRanges index))) ∧
      ((c.compose engine.recording source previous token).run (s, [])).1 =
        ((c.compose engine source previous token).run s).1 ∧
      ∃ later, ((c.compose engine.recording source previous token).run (s, [])).2.2 =
          ((c.primary.parse engine.recording source (previous.map (·.primary)) token).run
            (s, [])).2.2 ++ later ∧
        ∀ r ∈ later, r.ranges ≠ [] ∧ (c.secondary.inner.suspended = none → r.suspended = none) := by
  refine ⟨fun anchor children proper => ⟨coveringRanges_ne_nil anchor children,
    SyntaxForest.ordered_coveringRanges proper⟩, ?_⟩
  intro σ engine c source previous token s within proper
  have first : Asks (fun _ => True) _
      (c.primary.parse engine.recording source (previous.map (·.primary)) token)
      (c.primary.parse engine source (previous.map (·.primary)) token) :=
    c.primary.asks_parse engine fun _ => trivial
  -- Of the primary parse only its record counts; what the regions ask for comes behind that.
  obtain ⟨asked, recorded, -, -⟩ := first s []
  rw [compose_eq_bind, compose_eq_bind, StateT.run_bind, StateT.run_bind, recorded]
  generalize parsed : (c.primary.parse engine source (previous.map (·.primary)) token).run s =
    result
  rcases result with ⟨⟨e | tree, primary⟩, s'⟩
  · exact ⟨nofun, rfl, [], (List.append_nil _).symm, by simp⟩
  · obtain ⟨later, run, ranged, unrefused⟩ := asks_composeRegions within c
      ((previous.map (·.secondaries)).getD []) (proper tree primary s' parsed) primary s'
        ([] ++ asked)
    refine ⟨unrefused, congrArg Prod.fst run, later, congrArg (·.2.2) run, ranged⟩

theorem capturesWithin_repeatingEngine (document part : SyntaxTree) :
    (repeatingEngine document part).CapturesWithin := by
  intro request s result hresult capture hcapture
  have named : capture.node ∈ request.root.namedChildren := by
    rcases List.mem_cons.mp hresult with rfl | hresult
    · obtain ⟨n, hn, rfl⟩ := List.mem_map.mp hcapture
      exact hn
    · cases List.mem_singleton.mp hresult
      obtain ⟨n, hn, rfl⟩ := List.mem_map.mp hcapture
      exact List.mem_of_mem_take hn
  exact Node.child_mem_preorder (List.mem_filter.mp named).1 request.root.self_mem_preorder

/-- A document with two nodes. The children of the first are out of order, and one ends
behind it. -/
def unorderedDocument : SyntaxTree where
  root := inlineNode 0 0 9
    [inlineNode 1 0 4 [inlineNode 3 3 6 [], inlineNode 4 1 2 []], inlineNode 2 5 9 []]
  sexp := ""
  hasErrors := false

/-- The children that are out of order leave ranges in order, and the engine is asked for the
document and then for three regions. -/
theorem region_ranges_accepted_of_unordered_children :
    Range.Ordered (coveringRanges (inlineNode 1 0 4 []).range
      [(inlineNode 3 3 6 []).range, (inlineNode 4 1 2 []).range]) ∧
    ∃ engine : Engine Unit, engine.CapturesWithin ∧ unorderedDocument.root.IsProper ∧
      ((plainComposer.compose engine.recording [] none none).run ((), [])).2.2.map (·.ranges) =
        [[], [⟨0, 3, ⟨0, 0⟩, ⟨0, 3⟩⟩], [⟨5, 9, ⟨0, 5⟩, ⟨0, 9⟩⟩], [⟨0, 3, ⟨0, 0⟩, ⟨0, 3⟩⟩]] ∧
      ∃ later,
        ((plainComposer.compose engine.recording [] none none).run ((), [])).2.2 =
          ((plainComposer.primary.parse engine.recording [] none none).run ((), [])).2.2 ++ later ∧
        ∀ r ∈ later, r.ranges ≠ [] ∧ r.suspended = none := by
  have within := capturesWithin_repeatingEngine unorderedDocument unorderedDocument
  have proper : unorderedDocument.root.IsProper := by decide
  refine ⟨(region_ranges_accepted.1 _ _ (by decide)).2, ?_⟩
  obtain ⟨-, -, later, split, ranged⟩ := region_ranges_accepted.2
    (repeatingEngine unorderedDocument unorderedDocument) plainComposer [] none none () within
    fun tree primary s' parsed => by
      cases parsed
      exact proper
  refine ⟨_, within, proper, ?_, later, split, fun r hr => ?_⟩
  · decide +kernel
  · exact ⟨(ranged r hr).1, (ranged r hr).2 rfl⟩

end Composer

end SyntaxForest
