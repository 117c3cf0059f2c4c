import Mathlib.Data.List.Induction
import SyntaxForest.Composite.Tree

/-!
# The index of anchors

Regions are entered in an index one behind the other, each under the node that it is anchored at.
What the index has under a node is therefore the ordinal of the last region there, and looking it up
is the same as searching the regions from their end.

## Main results

* `AnchorIndex.find?_insert`: what an index shows behind one more entry
* `CompositeTree.secondaryTree?_eq_find?`: the tree at a node is the last one that is anchored there
-/

namespace SyntaxForest

namespace AnchorIndex

variable {anchor ordinal : Nat}

/-- An entry shows under its identity, and the others stay. -/
theorem find?_insert (index : AnchorIndex) (anchor ordinal id : Nat) :
    (index.insert anchor ordinal).find? id =
      if id = anchor then some ordinal else index.find? id := by
  rw [insert, find?, List.find?_cons]
  by_cases same : id = anchor
  · rw [if_pos same, decide_eq_true same.symm]
    rfl
  · rw [if_neg same, decide_eq_false (Ne.symm same), find?, List.find?_filter]
    -- No entry has both identities, so those that were taken out are not missed.
    refine congrArg (fun p => (index.entries.find? p).map (·.2)) (funext fun entry => ?_)
    rw [decide_eq_decide]
    simp only [decide_eq_true_eq]
    exact ⟨And.right, fun here => ⟨fun there => same (here ▸ there), here⟩⟩

/-- One more region is entered behind the others. -/
theorem ofRegions_concat (regions : List Region) (region : Region) :
    ofRegions (regions ++ [region]) = (ofRegions regions).insert region.anchor regions.length := by
  rw [ofRegions, List.zipIdx_append, List.foldl_append, Nat.zero_add]
  rfl

/-- The index shows ordinals of the regions that were entered. -/
theorem lt_length_of_find? {regions : List Region}
    (found : (ofRegions regions).find? anchor = some ordinal) : ordinal < regions.length := by
  induction regions using List.reverseRecOn with
  | nil => cases found
  | append_singleton regions region ih =>
    rw [ofRegions_concat, find?_insert] at found
    rw [List.length_append, List.length_singleton]
    split at found
    next =>
      obtain rfl := Option.some.inj found
      exact Nat.lt_succ_self _
    next => exact Nat.lt_succ_of_lt (ih found)

end AnchorIndex

/-- Looking an anchor up in the index of secondary trees shows the last of those with
this anchor. -/
theorem bind_find?_ofRegions (secondaries : List SecondaryTree) (anchor : Nat) :
    ((AnchorIndex.ofRegions (secondaries.map (·.region))).find? anchor).bind (secondaries[·]?) =
      secondaries.reverse.find? (·.region.anchor = anchor) := by
  -- The last tree hides those before it, so the induction is from the end.
  induction secondaries using List.reverseRecOn with
  | nil => rfl
  | append_singleton secondaries last ih =>
    rw [List.map_append, List.map_singleton, AnchorIndex.ofRegions_concat, AnchorIndex.find?_insert,
      List.reverse_append, List.reverse_singleton, List.singleton_append, List.find?_cons,
      List.length_map, ← ih]
    by_cases same : anchor = last.region.anchor
    · rw [if_pos same, decide_eq_true same.symm, Option.bind_some,
        List.getElem?_append_right (Nat.le_refl _), Nat.sub_self]
      rfl
    · rw [if_neg same, decide_eq_false (Ne.symm same)]
      cases found : (AnchorIndex.ofRegions (secondaries.map (·.region))).find? anchor with
      | none => rfl
      | some ordinal =>
        have inside := AnchorIndex.lt_length_of_find? found
        rw [List.length_map] at inside
        exact List.getElem?_append_left inside

/-- **The tree at a node** is the last of the trees that are anchored there. -/
theorem CompositeTree.secondaryTree?_eq_find? (c : CompositeTree) (node : Node) :
    c.secondaryTree? node = c.secondaries.reverse.find? (·.region.anchor = node.id) := by
  rw [secondaryTree?, c.indexed]
  exact bind_find?_ofRegions c.secondaries node.id

end SyntaxForest
