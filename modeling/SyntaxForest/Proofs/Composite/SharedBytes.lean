import SyntaxForest.Proofs.Composite.Composition
import SyntaxForest.Proofs.Tree.Nesting

/-!
# Bytes of nested regions

Anchors may lie below each other: a query may capture every named node of a document. Each region
holds what the named children of its anchor leave uncovered, so a region loses the child in which
the next anchor below lies, when that child is named. In a tree whose nodes hold their children, in
order and apart from each other, no byte is then given to two regions.

## Main results

* `Composer.regions_share_no_byte`: the regions of different anchors share no byte
-/

namespace SyntaxForest

namespace Composer

/-- **The regions of different anchors share no byte**, when the tree is nested and all nodes
between two anchors, and the lower one of them, are named. In a tree whose anonymous nodes have no
children all named nodes at once are such anchors. So in every composite of a nested document,
secondary trees that are anchored at different places of this kind were parsed from bytes that they
do not share. -/
theorem regions_share_no_byte :
    (∀ root : Node, root.IsNested → ∀ places : Set (List Nat), root.NamedBetween places →
      ∀ p ∈ places, ∀ q ∈ places, p ≠ q → ∀ n m, root.at? p = some n → root.at? q = some m →
        Range.ShareNoByte n.coveringRanges m.coveringRanges) ∧
    (∀ root : Node, (∀ n ∈ root.preorder, n.isNamed = false → n.children = []) →
      root.NamedBetween {p | ∃ n, root.at? p = some n ∧ n.isNamed = true}) ∧
    ∀ {σ : Type} (engine : Engine σ) (c : Composer) (source : Bytes)
      (previous : Option CompositeTree) (token : Option CancellationToken) (s : σ)
      (composite : CompositeTree) (c' : Composer) (s' : σ),
      (c.compose engine source previous token).run s = ((.ok composite, c'), s') →
      composite.primary.root.IsNested →
      ∃ nodes c₁ s₁, Anchors engine source previous token c s composite.primary nodes c₁ s₁ ∧
        composite.secondaries.length = nodes.length ∧
        ∀ places : List (List Nat), places.map composite.primary.root.at? = nodes.map some →
          composite.primary.root.NamedBetween {p | p ∈ places} →
          ∀ (i j : Nat) (p q : List Nat) (t u : SecondaryTree), places[i]? = some p →
            places[j]? = some q → p ≠ q → composite.secondaries[i]? = some t →
            composite.secondaries[j]? = some u →
            Range.ShareNoByte t.region.ranges u.region.ranges := by
  refine ⟨fun root nested places between p hp q hq ne n m hn hm => ?_,
    fun root leaves => Node.namedBetween_of_leaves leaves, ?_⟩
  · exact nested.shareNoByte hn hm ne (between p hp q hq) (between q hq p hp)
  · intro σ engine c source previous token s composite c' s' composed nested
    obtain ⟨nodes, c₁, s₁, anchors, parses, found⟩ := exists_of_compose_eq_ok composed
    refine ⟨nodes, c₁, s₁, anchors, ?_, fun places located between => ?_⟩
    · rw [← parses.length_eq, List.length_map]
    · -- The region with an ordinal is that of the node at the place with the ordinal.
      have anchored : ∀ (i : Nat) (p : List Nat) (t : SecondaryTree), places[i]? = some p →
          composite.secondaries[i]? = some t → ∃ n, composite.primary.root.at? p = some n ∧
            t.region.ranges = n.coveringRanges := by
        intro i p t hp ht
        have node := congrArg (·[i]?) located
        simp only [List.getElem?_map, hp, Option.map_some] at node
        obtain ⟨n, hn, same⟩ := Option.map_eq_some_iff.mp node.symm
        obtain ⟨tree, shown⟩ := found i n hn
        obtain rfl := Option.some.inj (ht.symm.trans shown)
        exact ⟨n, same.symm, rfl⟩
      intro i j p q t u hp hq ne ht hu
      obtain ⟨n, hn, first⟩ := anchored i p t hp ht
      obtain ⟨m, hm, second⟩ := anchored j q u hq hu
      rw [first, second]
      exact nested.shareNoByte hn hm ne
        (between p (List.mem_of_getElem? hp) q (List.mem_of_getElem? hq))
        (between q (List.mem_of_getElem? hq) p (List.mem_of_getElem? hp))

/-- An engine that parses every text to `document` and every part of a text to `part`. A query
captures all named nodes, each before those below it. -/
def namedEngine (document part : SyntaxTree) : Engine Unit :=
  { repeatingEngine document part with
    run := fun request => pure
      ⟨[(⟨0, 0, (request.root.preorder.filter (·.isNamed)).map (⟨0, ·⟩)⟩, none)], false⟩ }

/-- A document with one named node in another. The second child of the root is anonymous. -/
def nestedDocument : SyntaxTree where
  root := inlineNode 0 0 9 [inlineNode 1 1 6 [inlineNode 2 2 4 []],
    .mk ⟨3, ",", false, false, false, ⟨7, 8, ⟨0, 7⟩, ⟨0, 8⟩⟩, none⟩ []]
  sexp := ""
  hasErrors := false

/-- Three anchors below each other get five stretches of a document, each byte of which goes to one
of them. -/
theorem regions_share_no_byte_of_nested_anchors :
    nestedDocument.root.IsNested ∧
    nestedDocument.root.NamedBetween {p | p ∈ [[], [0], [0, 0]]} ∧
    Range.ShareNoByte nestedDocument.root.coveringRanges
      (inlineNode 1 1 6 [inlineNode 2 2 4 []]).coveringRanges ∧
    ∃ composite c', (plainComposer.compose (namedEngine nestedDocument nestedDocument) [] none
        none).run () = ((.ok composite, c'), ()) ∧
      composite.secondaries.map (fun t => t.region.ranges.map fun r => (r.startByte, r.endByte)) =
        [[(0, 1), (6, 9)], [(1, 2), (4, 6)], [(2, 4)]] ∧
      ∀ t u, composite.secondaries[0]? = some t → composite.secondaries[2]? = some u →
        Range.ShareNoByte t.region.ranges u.region.ranges := by
  have nested : nestedDocument.root.IsNested := by decide
  have leaves : ∀ n ∈ nestedDocument.root.preorder, n.isNamed = false → n.children = [] := by
    decide
  have between : nestedDocument.root.NamedBetween {p | p ∈ [[], [0], [0, 0]]} := by
    have named : ∀ p ∈ [[], [0], [0, 0]], ∃ n, nestedDocument.root.at? p = some n ∧
        n.isNamed = true := by
      simp only [List.forall_mem_cons, List.not_mem_nil, false_imp_iff, implies_true, and_true]
      exact ⟨⟨_, rfl, rfl⟩, ⟨_, rfl, rfl⟩, ⟨_, rfl, rfl⟩⟩
    intro p hp q hq
    exact regions_share_no_byte.2.1 nestedDocument.root leaves p (named p hp) q (named q hq)
  let composite : CompositeTree := .of nestedDocument
    [secondaryOf none 0 nestedDocument.root nestedDocument,
      secondaryOf none 1 (inlineNode 1 1 6 [inlineNode 2 2 4 []]) nestedDocument,
      secondaryOf none 2 (inlineNode 2 2 4 []) nestedDocument]
  obtain ⟨c', run⟩ : ∃ c', (plainComposer.compose (namedEngine nestedDocument nestedDocument) []
      none none).run () = ((.ok composite, c'), ()) := ⟨_, rfl⟩
  obtain ⟨nodes, c₁, s₁, anchors, -, apart⟩ := regions_share_no_byte.2.2
    (namedEngine nestedDocument nestedDocument) plainComposer [] none none () composite c' () run
    nested
  have upper : [] ∈ [[], [0], [0, 0]] := by decide
  have lower : [0] ∈ [[], [0], [0, 0]] := by decide
  have first :=
    regions_share_no_byte.1 nestedDocument.root nested _ between [] upper [0] lower nofun
    nestedDocument.root _ rfl rfl
  refine ⟨nested, between, first, composite, c', run, by decide, fun t u ht hu => ?_⟩
  refine apart [[], [0], [0, 0]] ?_ between 0 2 [] [0, 0] t u rfl rfl nofun ht hu
  cases anchors with
  | intro parsed matched =>
    cases parsed
    cases matched
    rfl

end Composer

end SyntaxForest
