/-
This file proves that heaps neither lose nor invent entries. Adding an entry and
bringing entries into order again only move entries about, and taking the top
out takes out one entry and moves the others about. Nothing here depends on what
ranks below what, so it holds of any comparison, also of one that is no order.
-/

import Telemetry.Sample.Heap

namespace Telemetry.Sample

namespace Tree

variable {Entry : Type}

theorem node_ne_empty {entry : Entry} {left right : Tree Entry} : node entry left right ≠ empty :=
  nofun

theorem toList_map {Image : Type} (change : Entry → Image) (tree : Tree Entry) :
    (tree.map change).toList = tree.toList.map change := by
  induction tree with
  | empty => rfl
  | node entry left right leftEntries rightEntries =>
    simp only [map, toList, leftEntries, rightEntries, List.map_cons, List.map_append]

/-! ### One entry more in a subtree -/

/-- An entry more on the left is an entry more in the whole. -/
theorem perm_cons_of_left {entry new : Entry} {more left : List Entry} (right : List Entry)
    (perm : more.Perm (new :: left)) :
    (entry :: (more ++ right)).Perm (new :: entry :: (left ++ right)) :=
  ((perm.append_right right).cons entry).trans (.swap new entry _)

/-- An entry more on the right is an entry more in the whole. -/
theorem perm_cons_of_right {entry new : Entry} {more right : List Entry} (left : List Entry)
    (perm : more.Perm (new :: right)) :
    (entry :: (left ++ more)).Perm (new :: entry :: (left ++ right)) :=
  (((perm.append_left left).trans List.perm_middle).cons entry).trans (.swap new entry _)

/-- What is taken out and what stays are the entries of the tree. -/
theorem toList_perm_of_takeAt {way : List Side} {tree others : Tree Entry} {taken : Entry}
    (found : takeAt way tree = some (taken, others)) :
    tree.toList.Perm (taken :: others.toList) := by
  fun_induction takeAt way tree generalizing others taken with
  | case1 => cases found
  | case2 way entry left right last rest takes inductionHypothesis =>
    cases found
    exact perm_cons_of_right left.toList (inductionHypothesis takes)
  | case3 way entry left right takes =>
    cases found
    simp only [takeAt_eq_none takes, toList, List.append_nil]
    exact .refl _
  | case4 way entry left right _ last rest takes inductionHypothesis =>
    cases found
    exact perm_cons_of_left right.toList (inductionHypothesis takes)
  | case5 way entry left right _ takes =>
    cases found
    simp only [takeAt_eq_none takes, toList, List.nil_append]
    exact .refl _

section Order

variable (below : Entry → Entry → Bool)

theorem toList_overLeft_perm (entry : Entry) (left right : Tree Entry) :
    (overLeft below entry left right).toList.Perm (entry :: (left.toList ++ right.toList)) := by
  unfold overLeft
  split
  · split
    · exact .swap entry _ _
    · exact .refl _
  · exact .refl _

theorem toList_overRight_perm (entry : Entry) (left right : Tree Entry) :
    (overRight below entry left right).toList.Perm (entry :: (left.toList ++ right.toList)) := by
  unfold overRight
  split
  · rename_i top first second
    split
    · exact (perm_cons_of_right left.toList (.refl _)).trans
        (List.perm_middle.symm.cons entry)
    · exact .refl _
  · exact .refl _

theorem toList_insertAt_perm (new : Entry) (way : List Side) (tree : Tree Entry) :
    (insertAt below new way tree).toList.Perm (new :: tree.toList) := by
  fun_induction insertAt below new way tree with
  | case1 => exact .refl _
  | case2 way entry left right inductionHypothesis =>
    exact (toList_overRight_perm below entry _ _).trans
      (perm_cons_of_right left.toList inductionHypothesis)
  | case3 way entry left right _ inductionHypothesis =>
    exact (toList_overLeft_perm below entry _ _).trans
      (perm_cons_of_left right.toList inductionHypothesis)

/-! ### Another entry at the top -/

/-- The entries under the top of a tree. -/
def underTop : Tree Entry → List Entry
  | empty => []
  | node _ left right => left.toList ++ right.toList

theorem toList_replaceTop_perm (new : Entry) (tree : Tree Entry) (nonempty : tree ≠ empty) :
    (replaceTop below new tree).toList.Perm (new :: tree.underTop) := by
  fun_induction replaceTop below new tree with
  | case1 => exact absurd rfl nonempty
  | case2 => exact .refl _
  | case3 _ first one two inductionHypothesis =>
    exact (toList_overLeft_perm below first _ _).trans
      (perm_cons_of_left [] (inductionHypothesis node_ne_empty))
  | case4 _ second three four inductionHypothesis =>
    exact (toList_overRight_perm below second _ _).trans
      (perm_cons_of_right [] (inductionHypothesis node_ne_empty))
  | case5 _ first one two second three four _ inductionHypothesis =>
    exact (toList_overLeft_perm below first _ _).trans
      (perm_cons_of_left _ (inductionHypothesis node_ne_empty))
  | case6 _ first one two second three four _ inductionHypothesis =>
    refine (toList_overRight_perm below second _ _).trans ?_
    exact (perm_cons_of_right _ (inductionHypothesis node_ne_empty)).trans
      (List.perm_middle.symm.cons new)

theorem toList_sinkTop_perm (new : Entry) (tree : Tree Entry) (nonempty : tree ≠ empty) :
    (sinkTop below new tree).toList.Perm (new :: tree.underTop) := by
  fun_induction sinkTop below new tree with
  | case1 => exact absurd rfl nonempty
  | case3 _ first one two _ inductionHypothesis =>
    exact perm_cons_of_left [] (inductionHypothesis node_ne_empty)
  | case5 _ second three four _ inductionHypothesis =>
    exact perm_cons_of_right [] (inductionHypothesis node_ne_empty)
  | case7 _ first one two second three four _ _ inductionHypothesis =>
    exact perm_cons_of_left _ (inductionHypothesis node_ne_empty)
  | case9 _ first one two second three four _ _ inductionHypothesis =>
    exact (perm_cons_of_right _ (inductionHypothesis node_ne_empty)).trans
      (List.perm_middle.symm.cons new)
  | case2 | case4 | case6 | case8 | case10 => exact .refl _

theorem toList_settle_perm (tree : Tree Entry) : (tree.settle below).toList.Perm tree.toList := by
  induction tree with
  | empty => exact .refl _
  | node entry left right leftPerm rightPerm =>
    have sunk := toList_sinkTop_perm below entry
      (node entry (left.settle below) (right.settle below)) node_ne_empty
    exact sunk.trans ((leftPerm.append rightPerm).cons entry)

end Order

end Tree

namespace Heap

variable {Entry : Type} (below : Entry → Entry → Bool)

theorem toList_push_perm (heap : Heap Entry) (entry : Entry) :
    (heap.push below entry).toList.Perm (entry :: heap.toList) :=
  Tree.toList_insertAt_perm below entry _ _

/-- Taking the top out of a heap that is not empty takes one entry out. -/
theorem exists_perm_pop (heap : Heap Entry) (nonempty : heap.toList ≠ []) :
    ∃ gone, heap.toList.Perm (gone :: (heap.pop below).toList) := by
  unfold pop
  split
  · rename_i found
    exact absurd (congrArg Tree.toList (Tree.takeAt_eq_none found)) nonempty
  · rename_i last others found
    have taken := Tree.toList_perm_of_takeAt found
    cases others with
    | empty => exact ⟨last, taken⟩
    | node top left right =>
      -- the last entry takes the place of the top, which leaves
      refine ⟨top, taken.trans ((List.Perm.swap top last _).trans ?_)⟩
      have replaced := Tree.toList_replaceTop_perm below last (.node top left right)
        Tree.node_ne_empty
      exact replaced.symm.cons top

theorem toList_map_perm {Image : Type} (ranks : Image → Image → Bool) (change : Entry → Image)
    (heap : Heap Entry) : (heap.map ranks change).toList.Perm (heap.toList.map change) :=
  (Tree.toList_settle_perm ranks _).trans (.of_eq (Tree.toList_map change heap.tree))

end Heap

end Telemetry.Sample
