import SyntaxForest.Composite.Composer
import SyntaxForest.Proofs.Composite.Anchoring
import SyntaxForest.Proofs.Query.Filtering

/-!
# What a composition gives

A composition parses the document, finds the anchors and parses the region of each in turn. These
stages are stated here as relations between the states of the engine, apart from the composer that
goes through them: a composition gives a composite exactly when every stage does, and otherwise the
error of the first parse that fails. What the composite holds at an ordinal is what its stage gave
there.

## Main definitions

* `capturedNodes`: the nodes that the satisfied matches capture
* `CompositeTree.olderTree?`: the older tree that the parse of a region starts from
* `Composer.Anchors`: the primary parse and the anchor query
* `Composer.ParsesRegions`: parses of regions in turn
* `LastAt`: the last position of a node in a list

## Main results

* `Composer.compose_outcome`: what a composition gives, when it succeeds and when it fails
-/

namespace SyntaxForest

open Query

variable {σ : Type}

/-! ## Anchors -/

/-- The nodes that are captured by the matches of which all predicates hold, in match order and then
in capture order. -/
def capturedNodes (anchor : PatternQuery) (source : Bytes) (found : List QueryMatch) : List Node :=
  (found.filter fun m : QueryMatch =>
    decide (∀ p ∈ anchor.predicates m.pattern, p.Holds m.captures source)).flatMap
      fun m => m.captures.map (·.node)

/-- There is one region for each captured node. -/
theorem regions_eq_map_capturedNodes (anchor : PatternQuery) (source : Bytes)
    (found : List QueryMatch) :
    Composer.regions anchor source found =
      (capturedNodes anchor source found).map Region.ofNode := by
  have verdict (m : QueryMatch) : anchor.satisfies m source =
      decide (∀ p ∈ anchor.predicates m.pattern, p.Holds m.captures source) := by
    rw [Bool.eq_iff_iff, decide_eq_true_iff, anchor.satisfies_iff_holds]
  rw [Composer.regions, capturedNodes, List.map_flatMap]
  simp only [verdict, List.map_map]
  rfl

/-- The tree of the region with this ordinal in the older composite, if there is one. -/
def CompositeTree.olderTree? (previous : Option CompositeTree) (ordinal : Nat) :
    Option SyntaxTree :=
  (previous.bind (·.secondaries[ordinal]?)).map (·.tree)

theorem CompositeTree.getElem?_secondaries (previous : Option CompositeTree) (ordinal : Nat) :
    ((previous.map (·.secondaries)).getD [])[ordinal]? =
      previous.bind (·.secondaries[ordinal]?) := by
  cases previous <;> rfl

namespace Composer

/-! ## Stages -/

/-- What a composition does when the primary parse has given a tree. -/
def composeRegions (c : Composer) (engine : Engine σ) (source : Bytes) (older : List SecondaryTree)
    (token : Option CancellationToken) (tree : SyntaxTree) (primary : SyntaxParser) :
    StateM σ (Except ComposeError CompositeTree × Composer) := do
  let (found, cursor) ← c.cursor.findMatches engine c.anchor tree.root
  let (result, secondary) ←
    parseRegions engine source older token c.secondary 0 (regions c.anchor source found)
  return (result.map (.of tree), { c with primary, cursor, secondary })

/-- The primary parse comes first. -/
theorem compose_eq_bind (c : Composer) (engine : Engine σ) (source : Bytes)
    (previous : Option CompositeTree) (token : Option CancellationToken) :
    c.compose engine source previous token =
      (c.primary.parse engine source (previous.map (·.primary)) token >>= fun parsed =>
        match parsed.1 with
        | .error e => pure (.error (.primary e), { c with primary := parsed.2 })
        | .ok tree => c.composeRegions engine source ((previous.map (·.secondaries)).getD []) token
            tree parsed.2) := rfl

section Stages

variable (engine : Engine σ) (source : Bytes) (previous : Option CompositeTree)
  (token : Option CancellationToken)

/-- From state `s`, the primary parse gives a tree and the anchor query captures these nodes in it.
The composer and the state are those behind the query. -/
inductive Anchors (c : Composer) (s : σ) : SyntaxTree → List Node → Composer → σ → Prop
  | intro {tree : SyntaxTree} {primary : SyntaxParser} {s₁ s₂ : σ} {found : List QueryMatch}
      {cursor : MatchCursor}
      (parsed : (c.primary.parse engine source (previous.map (·.primary)) token).run s =
        ((.ok tree, primary), s₁))
      (matched : (c.cursor.findMatches engine c.anchor tree.root).run s₁ = ((found, cursor), s₂)) :
      Anchors c s tree (capturedNodes c.anchor source found) { c with primary, cursor } s₂

/-- The parse of the region of a node with an ordinal, which starts from the older composite's tree
with that ordinal. -/
def parseRegion (ordinal : Nat) (node : Node) (parser : SyntaxParser) :
    StateM σ (Except ParseError SyntaxTree × SyntaxParser) :=
  parser.parseRanges engine source (CompositeTree.olderTree? previous ordinal) node.coveringRanges
    token

/-- From a parser and a state, the parses of the regions of nodes give these trees in turn and leave
the other parser and state. The first of the regions has the ordinal. -/
inductive ParsesRegions : Nat → List Node → SyntaxParser × σ → List SyntaxTree →
    SyntaxParser × σ → Prop
  | nil {ordinal : Nat} {stage : SyntaxParser × σ} : ParsesRegions ordinal [] stage [] stage
  | cons {ordinal : Nat} {node : Node} {rest : List Node} {tree : SyntaxTree}
      {trees : List SyntaxTree} {parser parser' : SyntaxParser} {s s' : σ} {last : SyntaxParser × σ}
      (parsed : (parseRegion engine source previous token ordinal node parser).run s =
        ((.ok tree, parser'), s'))
      (later : ParsesRegions (ordinal + 1) rest (parser', s') trees last) :
      ParsesRegions ordinal (node :: rest) (parser, s) (tree :: trees) last

end Stages

section Runs

variable {engine : Engine σ} {source : Bytes} {previous : Option CompositeTree}
  {token : Option CancellationToken}

theorem ParsesRegions.length_eq {ordinal : Nat} {nodes : List Node} {trees : List SyntaxTree}
    {stage last : SyntaxParser × σ}
    (h : ParsesRegions engine source previous token ordinal nodes stage trees last) :
    trees.length = nodes.length := by
  induction h with
  | nil => rfl
  | cons parsed later ih => rw [List.length_cons, List.length_cons, ih]

/-- The secondary tree of a parsed region. -/
def secondaryOf (previous : Option CompositeTree) (ordinal : Nat) (node : Node)
    (tree : SyntaxTree) : SecondaryTree :=
  ⟨tree, Region.ofNode node, ordinal, (CompositeTree.olderTree? previous ordinal).isSome⟩

/-- One region is parsed, and the others behind it when it gives a tree. -/
theorem run_parseRegions_cons (parser : SyntaxParser) (ordinal : Nat) (node : Node)
    (rest : List Node) (s : σ) :
    (parseRegions engine source ((previous.map (·.secondaries)).getD []) token parser ordinal
        ((node :: rest).map Region.ofNode)).run s =
      match (parseRegion engine source previous token ordinal node parser).run s with
      | ((.error e, parser), s) => ((.error (.secondary ordinal e), parser), s)
      | ((.ok tree, parser), s) =>
        match (parseRegions engine source ((previous.map (·.secondaries)).getD []) token parser
            (ordinal + 1) (rest.map Region.ofNode)).run s with
        | ((later, parser), s) =>
          ((later.map (secondaryOf previous ordinal node tree :: ·), parser), s) := by
  have reused : (previous.bind (·.secondaries[ordinal]?)).isSome =
      (CompositeTree.olderTree? previous ordinal).isSome := by
    rw [CompositeTree.olderTree?, Option.isSome_map]
  rw [List.map_cons, parseRegions, CompositeTree.getElem?_secondaries, reused, StateT.run_bind]
  generalize parsed : (parseRegion engine source previous token ordinal node parser).run s = result
  rw [parseRegion, CompositeTree.olderTree?] at parsed
  rw [Region.ofNode, parsed]
  rcases result with ⟨⟨e | tree, parser'⟩, s'⟩
  · rfl
  · rfl

/-- When all regions give trees, the secondary trees are those of the regions in turn. -/
theorem parseRegions_eq_ok {nodes : List Node} {ordinal : Nat} {parser parser' : SyntaxParser}
    {s s' : σ} {secondaries : List SecondaryTree}
    (h : (parseRegions engine source ((previous.map (·.secondaries)).getD []) token parser ordinal
      (nodes.map Region.ofNode)).run s = ((.ok secondaries, parser'), s')) :
    ParsesRegions engine source previous token ordinal nodes (parser, s)
        (secondaries.map (·.tree)) (parser', s') ∧
      ∀ i node, nodes[i]? = some node →
        ∃ tree, secondaries[i]? = some (secondaryOf previous (ordinal + i) node tree) := by
  -- Each parse leaves a parser and a state to the next, so these are general in the induction.
  induction nodes generalizing ordinal parser s secondaries with
  | nil =>
    cases h
    exact ⟨.nil, nofun⟩
  | cons node rest ih =>
    rw [run_parseRegions_cons] at h
    generalize parsed : (parseRegion engine source previous token ordinal node parser).run s =
      first at h
    rcases first with ⟨⟨e | tree, parser₁⟩, s₁⟩
    · cases h
    · dsimp only at h
      generalize later : (parseRegions engine source ((previous.map (·.secondaries)).getD []) token
        parser₁ (ordinal + 1) (rest.map Region.ofNode)).run s₁ = others at h
      rcases others with ⟨⟨e | trees, parser₂⟩, s₂⟩
      · cases h
      · cases h
        obtain ⟨parses, places⟩ := ih later
        refine ⟨.cons parsed parses, fun i node' place => ?_⟩
        cases i with
        | zero =>
          cases place
          exact ⟨tree, rfl⟩
        | succ i =>
          obtain ⟨tree', found⟩ := places i node' place
          refine ⟨tree', ?_⟩
          rw [List.getElem?_cons_succ, found, Nat.add_assoc, Nat.add_comm 1]

/-- Regions that give trees in turn are parsed. -/
theorem ParsesRegions.run_parseRegions_eq {ordinal : Nat} {nodes : List Node}
    {trees : List SyntaxTree} {stage last : SyntaxParser × σ}
    (h : ParsesRegions engine source previous token ordinal nodes stage trees last) :
    ∃ secondaries, (parseRegions engine source ((previous.map (·.secondaries)).getD []) token
      stage.1 ordinal (nodes.map Region.ofNode)).run stage.2 =
        ((.ok secondaries, last.1), last.2) := by
  induction h with
  | nil => exact ⟨[], rfl⟩
  | @cons ordinal node rest tree trees parser parser' s s' last parsed later ih =>
    obtain ⟨secondaries, run⟩ := ih
    refine ⟨secondaryOf previous ordinal node tree :: secondaries, ?_⟩
    rw [run_parseRegions_cons, parsed]
    dsimp only
    rw [run]
    rfl

/-- When not all regions give trees, those ahead of the first that does not have given theirs. -/
theorem parseRegions_eq_error {nodes : List Node} {ordinal : Nat} {parser parser' : SyntaxParser}
    {s s' : σ} {e : ComposeError}
    (h : (parseRegions engine source ((previous.map (·.secondaries)).getD []) token parser ordinal
      (nodes.map Region.ofNode)).run s = ((.error e, parser'), s')) :
    ∃ before node after trees stage reason, nodes = before ++ node :: after ∧
      e = .secondary (ordinal + before.length) reason ∧
      ParsesRegions engine source previous token ordinal before (parser, s) trees stage ∧
      (parseRegion engine source previous token (ordinal + before.length) node
        stage.1).run stage.2 =
        ((.error reason, parser'), s') := by
  induction nodes generalizing ordinal parser s with
  | nil => cases h
  | cons node rest ih =>
    rw [run_parseRegions_cons] at h
    generalize parsed : (parseRegion engine source previous token ordinal node parser).run s =
      first at h
    rcases first with ⟨⟨reason | tree, parser₁⟩, s₁⟩
    · cases h
      exact ⟨[], node, rest, [], (parser, s), reason, rfl, rfl, .nil, parsed⟩
    · dsimp only at h
      generalize later : (parseRegions engine source ((previous.map (·.secondaries)).getD []) token
        parser₁ (ordinal + 1) (rest.map Region.ofNode)).run s₁ = others at h
      rcases others with ⟨⟨e | trees, parser₂⟩, s₂⟩
      · -- The first region gave a tree, and counts among those ahead of the one that fails.
        cases h
        obtain ⟨before, node', after, trees, stage, reason, rfl, rfl, parses, failed⟩ := ih later
        have place : ordinal + 1 + before.length = ordinal + (node :: before).length := by
          rw [List.length_cons]
          omega
        rw [place] at failed ⊢
        exact ⟨node :: before, node', after, tree :: trees, stage, reason, rfl, rfl,
          .cons parsed parses, failed⟩
      · cases h

/-- Behind the anchors, a composition is the parses of the regions. -/
theorem Anchors.run_compose {c c' : Composer} {s s' : σ} {tree : SyntaxTree} {nodes : List Node}
    (h : Anchors engine source previous token c s tree nodes c' s') :
    (c.compose engine source previous token).run s =
      match (parseRegions engine source ((previous.map (·.secondaries)).getD []) token c'.secondary
          0 (nodes.map Region.ofNode)).run s' with
      | ((result, secondary), s) => ((result.map (.of tree), { c' with secondary }), s) := by
  cases h with
  | intro parsed matched =>
    rw [compose_eq_bind, StateT.run_bind, parsed]
    show (c.composeRegions engine source _ token tree _).run _ = _
    rw [composeRegions, StateT.run_bind, matched, ← regions_eq_map_capturedNodes]
    rfl

/-- A composition ends with the primary parse, or it comes to the anchors. -/
theorem compose_cases (c : Composer) (s : σ) :
    (∃ reason primary s',
      (c.primary.parse engine source (previous.map (·.primary)) token).run s =
        ((.error reason, primary), s') ∧
      (c.compose engine source previous token).run s =
        ((.error (.primary reason), { c with primary }), s')) ∨
    ∃ tree nodes c' s', Anchors engine source previous token c s tree nodes c' s' := by
  generalize parsed : (c.primary.parse engine source (previous.map (·.primary)) token).run s =
    first
  rcases first with ⟨⟨reason | tree, primary⟩, s₁⟩
  · refine .inl ⟨reason, primary, s₁, rfl, ?_⟩
    rw [compose_eq_bind, StateT.run_bind, parsed]
    rfl
  · exact .inr ⟨tree, _, _, _, .intro parsed rfl⟩

end Runs

end Composer

/-! ## Lookup by node -/

/-- The last node of the list with this identity stands at position `i`. -/
def LastAt (nodes : List Node) (id i : Nat) : Prop :=
  nodes[i]?.map (·.id) = some id ∧ ∀ j, i < j → nodes[j]?.map (·.id) ≠ some id

/-- Searched from its end, a list shows the last of its members that satisfy the test. -/
theorem find?_reverse_eq_some_iff {α : Type} {l : List α} {p : α → Bool} {a : α} :
    l.reverse.find? p = some a ↔
      ∃ i : Nat, l[i]? = some a ∧ p a = true ∧ ∀ j b, i < j → l[j]? = some b → p b = false := by
  rw [List.find?_eq_some_iff_append]
  -- What the search passes first is what stands behind the member in the list.
  constructor
  · rintro ⟨holds, behind, before, split, none⟩
    have split' : l = before.reverse ++ a :: behind.reverse := by
      rw [← List.reverse_reverse l, split]
      simp
    refine ⟨before.reverse.length, ?_, holds, fun j b after at_j => ?_⟩
    · rw [split', List.getElem?_append_right (Nat.le_refl _), Nat.sub_self,
        List.getElem?_cons_zero]
    · rw [split', List.getElem?_append_right (Nat.le_of_lt after)] at at_j
      obtain ⟨k, hk⟩ := Nat.exists_eq_add_of_lt after
      rw [hk, show before.reverse.length + k + 1 - before.reverse.length = k + 1 by omega,
        List.getElem?_cons_succ] at at_j
      simpa using none b (List.mem_reverse.mp (List.mem_of_getElem? at_j))
  · rintro ⟨i, at_i, holds, none⟩
    obtain ⟨inside, rfl⟩ := List.getElem?_eq_some_iff.mp at_i
    refine ⟨holds, (l.drop (i + 1)).reverse, (l.take i).reverse, ?_, fun b hb => ?_⟩
    · calc l.reverse = (l.take i ++ l[i] :: l.drop (i + 1)).reverse := by
            rw [List.getElem_cons_drop, List.take_append_drop]
        _ = _ := by simp
    · obtain ⟨k, at_k⟩ := List.getElem?_of_mem (List.mem_reverse.mp hb)
      rw [List.getElem?_drop] at at_k
      simp [none (i + 1 + k) b (by omega) at_k]

namespace CompositeTree

variable {c : CompositeTree} {nodes : List Node}
  (anchored : c.secondaries.map (·.region.anchor) = nodes.map (·.id))

include anchored

/-- The tree shown at a node is that of the last region captured there. -/
theorem secondaryTree?_eq_some_iff {n : Node} {t : SecondaryTree} :
    c.secondaryTree? n = some t ↔ ∃ i, LastAt nodes n.id i ∧ c.secondaries[i]? = some t := by
  have same (i : Nat) : nodes[i]?.map (·.id) = c.secondaries[i]?.map (·.region.anchor) := by
    rw [← List.getElem?_map, ← List.getElem?_map, anchored]
  rw [secondaryTree?_eq_find?, find?_reverse_eq_some_iff]
  refine exists_congr fun i => ?_
  simp only [LastAt, same, decide_eq_true_eq, decide_eq_false_iff_not]
  constructor
  · rintro ⟨at_i, here, later⟩
    refine ⟨⟨by rw [at_i, Option.map_some, here], fun j after again => ?_⟩, at_i⟩
    obtain ⟨u, at_j, there⟩ := Option.map_eq_some_iff.mp again
    exact later j u after at_j there
  · rintro ⟨⟨here, later⟩, at_i⟩
    rw [at_i, Option.map_some, Option.some.injEq] at here
    refine ⟨at_i, here, fun j u after at_j there => later j after ?_⟩
    rw [at_j, Option.map_some, there]

/-- No tree is shown at the nodes that are not captured. -/
theorem secondaryTree?_eq_none_iff {n : Node} :
    c.secondaryTree? n = none ↔ ∀ m ∈ nodes, m.id ≠ n.id := by
  have same : (∀ id ∈ c.secondaries.map (·.region.anchor), id ≠ n.id) ↔
      ∀ id ∈ nodes.map (·.id), id ≠ n.id := by rw [anchored]
  rw [List.forall_mem_map, List.forall_mem_map] at same
  rw [secondaryTree?_eq_find?, List.find?_eq_none, ← same]
  simp only [List.mem_reverse, decide_eq_true_eq, ne_eq]

end CompositeTree

/-! ## Compositions -/

namespace Composer

section

variable {engine : Engine σ} {source : Bytes} {previous : Option CompositeTree}
  {token : Option CancellationToken} {c c' : Composer} {s s' : σ}

/-- A composite comes from the anchors and from the parses of all their regions. -/
theorem exists_of_compose_eq_ok {composite : CompositeTree}
    (h : (c.compose engine source previous token).run s = ((.ok composite, c'), s')) :
    ∃ nodes c₁ s₁, Anchors engine source previous token c s composite.primary nodes c₁ s₁ ∧
      ParsesRegions engine source previous token 0 nodes (c₁.secondary, s₁)
        (composite.secondaries.map (·.tree)) (c'.secondary, s') ∧
      ∀ i node, nodes[i]? = some node →
        ∃ tree, composite.secondaries[i]? = some (secondaryOf previous i node tree) := by
  rcases compose_cases c s with ⟨reason, primary, s₁, -, run⟩ | ⟨tree, nodes, c₁, s₁, anchors⟩
  · rw [run] at h
    cases h
  · rw [anchors.run_compose] at h
    generalize parsed : (parseRegions engine source ((previous.map (·.secondaries)).getD []) token
      c₁.secondary 0 (nodes.map Region.ofNode)).run s₁ = regions at h
    rcases regions with ⟨⟨e | secondaries, secondary⟩, s₂⟩
    · cases h
    · cases h
      obtain ⟨parses, places⟩ := parseRegions_eq_ok parsed
      refine ⟨nodes, c₁, s₁, anchors, parses, fun i node place => ?_⟩
      have found := places i node place
      rwa [Nat.zero_add] at found

/-- An error comes from the primary parse, or from the first region that gives no tree. -/
theorem exists_of_compose_eq_error {e : ComposeError}
    (h : (c.compose engine source previous token).run s = ((.error e, c'), s')) :
    (∃ reason, e = .primary reason ∧ c' = { c with primary := c'.primary } ∧
      (c.primary.parse engine source (previous.map (·.primary)) token).run s =
        ((.error reason, c'.primary), s')) ∨
    ∃ tree before node after c₁ s₁ trees stage reason, e = .secondary before.length reason ∧
      Anchors engine source previous token c s tree (before ++ node :: after) c₁ s₁ ∧
      ParsesRegions engine source previous token 0 before (c₁.secondary, s₁) trees stage ∧
      (parseRegion engine source previous token before.length node stage.1).run stage.2 =
        ((.error reason, c'.secondary), s') := by
  rcases compose_cases c s with ⟨reason, primary, s₁, failed, run⟩ |
    ⟨tree, nodes, c₁, s₁, anchors⟩
  · rw [run] at h
    cases h
    exact .inl ⟨reason, rfl, rfl, failed⟩
  · rw [anchors.run_compose] at h
    generalize parsed : (parseRegions engine source ((previous.map (·.secondaries)).getD []) token
      c₁.secondary 0 (nodes.map Region.ofNode)).run s₁ = regions at h
    rcases regions with ⟨⟨e | secondaries, secondary⟩, s₂⟩
    · cases h
      obtain ⟨before, node, after, trees, stage, reason, rfl, rfl, parses, failed⟩ :=
        parseRegions_eq_error parsed
      rw [Nat.zero_add] at failed ⊢
      exact .inr ⟨tree, before, node, after, c₁, s₁, trees, stage, reason, rfl, anchors, parses,
        failed⟩
    · cases h

end

/-- **What a composition gives.** It succeeds exactly when the primary parse and the parse of every
region give trees. The composite then holds one secondary tree for each captured node, in order: the
one at an ordinal has the tree that the parse of that node's region gave, the range and the covering
ranges of the node, and is marked as reused exactly when the older composite has a region with that
ordinal. A node shows the last of the trees captured there, and none when it was not captured. A
composition fails with the error of the primary parse, and asks no more of the engine, or with that
of the first region's parse that fails. -/
theorem compose_outcome (engine : Engine σ) (source : Bytes) (previous : Option CompositeTree)
    (token : Option CancellationToken) (c : Composer) (s : σ) :
    ((∃ composite c' s', (c.compose engine source previous token).run s =
        ((.ok composite, c'), s')) ↔
      ∃ tree nodes c₁ s₁ trees last, Anchors engine source previous token c s tree nodes c₁ s₁ ∧
        ParsesRegions engine source previous token 0 nodes (c₁.secondary, s₁) trees last) ∧
    (∀ composite c' s', (c.compose engine source previous token).run s =
        ((.ok composite, c'), s') →
      ∃ nodes c₁ s₁ trees,
        Anchors engine source previous token c s composite.primary nodes c₁ s₁ ∧
        ParsesRegions engine source previous token 0 nodes (c₁.secondary, s₁) trees
          (c'.secondary, s') ∧
        composite.secondaries.length = nodes.length ∧
        (∀ i node, nodes[i]? = some node → ∃ t, composite.secondaries[i]? = some t ∧
          trees[i]? = some t.tree ∧ t.ordinal = i ∧ t.region.anchorRange = node.range ∧
          t.region.ranges = coveringRanges node.range (node.namedChildren.map Node.range) ∧
          (t.isReused = true ↔ ∃ p, previous = some p ∧ i < p.secondaries.length)) ∧
        (∀ n t, composite.secondaryTree? n = some t ↔
          ∃ i, LastAt nodes n.id i ∧ composite.secondaries[i]? = some t) ∧
        ∀ n, composite.secondaryTree? n = none ↔ ∀ m ∈ nodes, m.id ≠ n.id) ∧
    ∀ e c' s', (c.compose engine source previous token).run s = ((.error e, c'), s') →
      (∃ reason, e = .primary reason ∧ c' = { c with primary := c'.primary } ∧
        (c.primary.parse engine source (previous.map (·.primary)) token).run s =
          ((.error reason, c'.primary), s')) ∨
      ∃ tree before node after c₁ s₁ trees stage reason, e = .secondary before.length reason ∧
        Anchors engine source previous token c s tree (before ++ node :: after) c₁ s₁ ∧
        ParsesRegions engine source previous token 0 before (c₁.secondary, s₁) trees stage ∧
        (parseRegion engine source previous token before.length node stage.1).run stage.2 =
          ((.error reason, c'.secondary), s') := by
  refine ⟨⟨?_, ?_⟩, fun composite c' s' h => ?_, fun e c' s' => exists_of_compose_eq_error⟩
  · rintro ⟨composite, c', s', h⟩
    obtain ⟨nodes, c₁, s₁, anchors, parses, -⟩ := exists_of_compose_eq_ok h
    exact ⟨_, nodes, c₁, s₁, _, _, anchors, parses⟩
  · rintro ⟨tree, nodes, c₁, s₁, trees, last, anchors, parses⟩
    obtain ⟨secondaries, run⟩ := parses.run_parseRegions_eq
    rw [anchors.run_compose, run]
    exact ⟨_, _, _, rfl⟩
  · obtain ⟨nodes, c₁, s₁, anchors, parses, places⟩ := exists_of_compose_eq_ok h
    have length : composite.secondaries.length = nodes.length := by
      rw [← parses.length_eq, List.length_map]
    -- The regions are those of the nodes, position by position.
    have anchored : composite.secondaries.map (·.region.anchor) = nodes.map (·.id) := by
      refine List.ext_getElem? fun i => ?_
      rw [List.getElem?_map, List.getElem?_map]
      cases at_i : nodes[i]? with
      | some node =>
        obtain ⟨tree, found⟩ := places i node at_i
        rw [found]
        rfl
      | none =>
        rw [List.getElem?_eq_none_iff] at at_i
        rw [List.getElem?_eq_none (length ▸ at_i)]
        rfl
    refine ⟨nodes, c₁, s₁, _, anchors, parses, length, fun i node at_i => ?_,
      fun n t => CompositeTree.secondaryTree?_eq_some_iff anchored,
      fun n => CompositeTree.secondaryTree?_eq_none_iff anchored⟩
    obtain ⟨tree, found⟩ := places i node at_i
    refine ⟨_, found, ?_, rfl, rfl, rfl, ?_⟩
    · rw [List.getElem?_map, found]
      rfl
    · cases previous with
      | none => simp [secondaryOf, CompositeTree.olderTree?]
      | some p =>
        simp only [secondaryOf, CompositeTree.olderTree?, Option.bind_some, Option.isSome_map,
          Option.some.injEq, exists_eq_left', isSome_getElem?]

/-- An engine that parses every text to `document` and every part of a text to `part`. A query
captures the named children of the root in one match, and the first of them in one more. -/
def repeatingEngine (document part : SyntaxTree) : Engine Unit :=
  { Engine.absent with
    compile := fun _ _ => pure (.ok default)
    parse := fun request =>
      pure ⟨some (if request.ranges = [] then document else part), [], false⟩
    run := fun request => pure ⟨[(⟨0, 0, request.root.namedChildren.map (⟨0, ·⟩)⟩, none),
      (⟨1, 0, (request.root.namedChildren.take 1).map (⟨0, ·⟩)⟩, none)], false⟩ }

/-- A named node of one line. -/
def inlineNode (id start stop : Nat) (children : List Node) : Node :=
  .mk ⟨id, "inline", true, false, false, ⟨start, stop, ⟨0, start⟩, ⟨0, stop⟩⟩, none⟩ children

/-- The composer of one grammar whose anchor query has one pattern without predicates. -/
def plainComposer : Composer where
  primary := ⟨{ language := some default }, some default, none⟩
  secondary := ⟨{ language := some default }, some default, none⟩
  anchor := ⟨default, [], ⟨[[]], [0], [[.one]]⟩, []⟩

/-- One of two nodes is captured twice, and the older composite has one region. -/
theorem compose_outcome_of_repeated_capture :
    ∃ document part previous composite c',
      (plainComposer.compose (repeatingEngine document part) [] (some previous) none).run () =
        ((.ok composite, c'), ()) ∧
      previous.secondaries.length = 1 ∧ composite.secondaries.map (·.isReused) =
        [true, false, false] ∧
      ∃ nodes : List Node, nodes.map (·.id) = [1, 2, 1] ∧
        composite.secondaries.length = nodes.length ∧
        ∀ n t, composite.secondaryTree? n = some t ↔
          ∃ i, LastAt nodes n.id i ∧ composite.secondaries[i]? = some t := by
  let part : SyntaxTree := ⟨inlineNode 0 0 9 [], "", false⟩
  let first := inlineNode 1 0 4 [inlineNode 3 3 6 [], inlineNode 4 1 2 []]
  let second := inlineNode 2 5 9 []
  let document : SyntaxTree := ⟨inlineNode 0 0 9 [first, second], "", false⟩
  let previous : CompositeTree := .of document [secondaryOf none 0 first part]
  let composite : CompositeTree := .of document [secondaryOf (some previous) 0 first part,
    secondaryOf (some previous) 1 second part, secondaryOf (some previous) 2 first part]
  obtain ⟨c', run⟩ : ∃ c', (plainComposer.compose (repeatingEngine document part) []
      (some previous) none).run () = ((.ok composite, c'), ()) := ⟨_, rfl⟩
  obtain ⟨-, succeeds, -⟩ := compose_outcome (repeatingEngine document part) [] (some previous) none
    plainComposer ()
  obtain ⟨nodes, c₁, s₁, trees, anchors, -, length, -, shown, -⟩ := succeeds composite c' () run
  refine ⟨document, part, previous, composite, c', run, rfl, rfl, nodes, ?_, length, shown⟩
  cases anchors with
  | intro parsed matched =>
    cases parsed
    cases matched
    rfl

end Composer

end SyntaxForest
