/-
This file proves that heaps stay in order. In a tree in order no entry ranks
below one above it. Adding an entry and taking the top out keep the order, so the
entry that leaves a heap is one of lowest rank, and bringing a tree in order into
order again changes nothing. A change of the entries that keeps what ranks below
what can be made before or after any of this.
-/

import Mathlib.Data.List.Basic
import Telemetry.Proofs.Sample.Heap

namespace Telemetry.Sample

variable {Entry : Type}

/-- Whether a comparison ranks entries: of two entries at most one ranks below the other, and what
does not rank below an entry does not rank below those that this one does not rank below. -/
structure Ranks (below : Entry → Entry → Bool) : Prop where
  asymm {first second : Entry} : below first second → ¬ below second first
  trans {first second third : Entry} :
    ¬ below second first → ¬ below third second → ¬ below third first

namespace Tree

/-- Whether no entry ranks below one above it. -/
inductive IsOrdered (below : Entry → Entry → Bool) : Tree Entry → Prop
  | nothing : IsOrdered below empty
  | topped {entry : Entry} {left right : Tree Entry}
      (overLeft : ∀ other ∈ left.toList, ¬ below other entry)
      (overRight : ∀ other ∈ right.toList, ¬ below other entry)
      (orderedLeft : IsOrdered below left) (orderedRight : IsOrdered below right) :
      IsOrdered below (node entry left right)

section Order

variable {below : Entry → Entry → Bool}

theorem isOrdered_single (entry : Entry) : (node entry empty empty).IsOrdered below :=
  .topped (List.forall_mem_nil _) (List.forall_mem_nil _) .nothing .nothing

/-- No entry under the top of a tree in order ranks below the top. -/
theorem IsOrdered.not_below_top {top other : Entry} {left right : Tree Entry}
    (ordered : (node top left right).IsOrdered below)
    (member : other ∈ left.toList ++ right.toList) : ¬ below other top := by
  cases ordered with
  | topped overLeft overRight _ _ =>
    rcases List.mem_append.1 member with inLeft | inRight
    · exact overLeft other inLeft
    · exact overRight other inRight

variable (ranks : Ranks below)

include ranks

/-- No entry of a tree in order ranks below what its top does not rank below. -/
theorem IsOrdered.not_below_of_top {top other entry : Entry} {left right : Tree Entry}
    (ordered : (node top left right).IsOrdered below) (notLower : ¬ below top entry)
    (member : other ∈ (node top left right).toList) : ¬ below other entry := by
  rcases List.mem_cons.1 member with rfl | under
  · exact notLower
  · exact ranks.trans notLower (ordered.not_below_top under)

/-! ### An entry over two trees -/

/-- An entry over two trees is in order once it has changed places with the top of the left one, if
that is the only entry that ranks below it. -/
theorem IsOrdered.overLeft {entry : Entry} {left right : Tree Entry}
    (orderedLeft : left.IsOrdered below) (orderedRight : right.IsOrdered below)
    (underLeft : ∀ other ∈ left.underTop, ¬ below other entry)
    (overRight : ∀ other ∈ right.toList, ¬ below other entry) :
    (Tree.overLeft below entry left right).IsOrdered below := by
  cases left with
  | empty => exact .topped (List.forall_mem_nil _) overRight .nothing orderedRight
  | node top first second =>
    rw [Tree.overLeft]
    split
    · rename_i lower
      have higher : ¬ below entry top := ranks.asymm lower
      have overBoth : ∀ other ∈ (node entry first second).toList, ¬ below other top := by
        rintro other (_ | ⟨_, under⟩)
        · exact higher
        · exact orderedLeft.not_below_top under
      cases orderedLeft with
      | topped _ _ orderedFirst orderedSecond =>
        refine .topped overBoth (fun other member => ranks.trans higher (overRight other member))
          (.topped ?_ ?_ orderedFirst orderedSecond) orderedRight
        · exact fun other member => underLeft other (List.mem_append_left _ member)
        · exact fun other member => underLeft other (List.mem_append_right _ member)
    · rename_i notLower
      exact .topped (fun other => orderedLeft.not_below_of_top ranks notLower) overRight orderedLeft
        orderedRight

/-- An entry over two trees is in order once it has changed places with the top of the right one,
if that is the only entry that ranks below it. -/
theorem IsOrdered.overRight {entry : Entry} {left right : Tree Entry}
    (orderedLeft : left.IsOrdered below) (orderedRight : right.IsOrdered below)
    (overLeft : ∀ other ∈ left.toList, ¬ below other entry)
    (underRight : ∀ other ∈ right.underTop, ¬ below other entry) :
    (Tree.overRight below entry left right).IsOrdered below := by
  cases right with
  | empty => exact .topped overLeft (List.forall_mem_nil _) orderedLeft .nothing
  | node top first second =>
    rw [Tree.overRight]
    split
    · rename_i lower
      have higher : ¬ below entry top := ranks.asymm lower
      have overBoth : ∀ other ∈ (node entry first second).toList, ¬ below other top := by
        rintro other (_ | ⟨_, under⟩)
        · exact higher
        · exact orderedRight.not_below_top under
      cases orderedRight with
      | topped _ _ orderedFirst orderedSecond =>
        refine .topped (fun other member => ranks.trans higher (overLeft other member)) overBoth
          orderedLeft (.topped ?_ ?_ orderedFirst orderedSecond)
        · exact fun other member => underRight other (List.mem_append_left _ member)
        · exact fun other member => underRight other (List.mem_append_right _ member)
    · rename_i notLower
      exact .topped overLeft (fun other => orderedRight.not_below_of_top ranks notLower) orderedLeft
        orderedRight

/-- Of a tree that one entry has come into, only the top can rank below what none of the others
ranks below: if another entry did, the new entry would be that one and the top. -/
theorem IsOrdered.not_below_of_mem_underTop {grown : Tree Entry} {new entry : Entry}
    {others : List Entry} (ordered : grown.IsOrdered below)
    (perm : grown.toList.Perm (new :: others)) (notLower : ∀ other ∈ others, ¬ below other entry) :
    ∀ other ∈ grown.underTop, ¬ below other entry := by
  intro other member
  cases grown with
  | empty => cases member
  | node top left right =>
    rcases List.mem_cons.1 (perm.subset List.mem_cons_self) with rfl | old
    · exact notLower other (perm.cons_inv.subset member)
    · exact ranks.trans (notLower top old) (ordered.not_below_top member)

/-! ### Entries that come and go -/

theorem IsOrdered.insertAt {tree : Tree Entry} (ordered : tree.IsOrdered below) (new : Entry)
    (way : List Side) : (Tree.insertAt below new way tree).IsOrdered below := by
  fun_induction Tree.insertAt below new way tree with
  | case1 => exact isOrdered_single new
  | case2 way entry left right inductionHypothesis =>
    cases ordered with
    | topped overLeft overRight orderedLeft orderedRight =>
      have grown := inductionHypothesis orderedRight
      exact orderedLeft.overRight ranks grown overLeft
        (grown.not_below_of_mem_underTop ranks (toList_insertAt_perm below new way right) overRight)
  | case3 way entry left right _ inductionHypothesis =>
    cases ordered with
    | topped overLeft overRight orderedLeft orderedRight =>
      have grown := inductionHypothesis orderedLeft
      exact grown.overLeft ranks orderedRight
        (grown.not_below_of_mem_underTop ranks (toList_insertAt_perm below new way.tail left)
          overLeft) overRight

omit ranks in
theorem IsOrdered.takeAt {way : List Side} {tree others : Tree Entry} {taken : Entry}
    (ordered : tree.IsOrdered below) (found : Tree.takeAt way tree = some (taken, others)) :
    others.IsOrdered below := by
  fun_induction Tree.takeAt way tree generalizing others taken with
  | case1 => cases found
  | case2 way entry left right last rest takes inductionHypothesis =>
    cases found
    cases ordered with
    | topped overLeft overRight orderedLeft orderedRight =>
      have fewer := (toList_perm_of_takeAt takes).symm.subset
      exact .topped overLeft (fun other member => overRight other (fewer (.tail _ member)))
        orderedLeft (inductionHypothesis orderedRight takes)
  | case3 =>
    cases found
    cases ordered with
    | topped _ _ orderedLeft _ => exact orderedLeft
  | case4 way entry left right _ last rest takes inductionHypothesis =>
    cases found
    cases ordered with
    | topped overLeft overRight orderedLeft orderedRight =>
      have fewer := (toList_perm_of_takeAt takes).symm.subset
      exact .topped (fun other member => overLeft other (fewer (.tail _ member))) overRight
        (inductionHypothesis orderedLeft takes) orderedRight
  | case5 =>
    cases found
    cases ordered with
    | topped _ _ _ orderedRight => exact orderedRight

/-- What takes the place of the top goes to the bottom and rises, as a new entry does. -/
theorem IsOrdered.replaceTop {tree : Tree Entry} (ordered : tree.IsOrdered below) (new : Entry) :
    (Tree.replaceTop below new tree).IsOrdered below := by
  have under {top : Entry} {left right : Tree Entry}
      (sunk : (Tree.replaceTop below new (node top left right)).IsOrdered below)
      (subtree : (node top left right).IsOrdered below) :
      ∀ other ∈ (Tree.replaceTop below new (node top left right)).underTop, ¬ below other top :=
    sunk.not_below_of_mem_underTop ranks (toList_replaceTop_perm below new _ node_ne_empty)
      fun _ => subtree.not_below_top
  fun_induction Tree.replaceTop below new tree with
  | case1 => exact .nothing
  | case2 => exact isOrdered_single new
  | case3 _ first one two inductionHypothesis =>
    cases ordered with
    | topped _ _ orderedFirst _ =>
      have sunk := inductionHypothesis orderedFirst
      exact sunk.overLeft ranks .nothing (under sunk orderedFirst) (List.forall_mem_nil _)
  | case4 _ second three four inductionHypothesis =>
    cases ordered with
    | topped _ _ _ orderedSecond =>
      have sunk := inductionHypothesis orderedSecond
      exact IsOrdered.nothing.overRight ranks sunk (List.forall_mem_nil _)
        (under sunk orderedSecond)
  | case5 _ first one two second three four lower inductionHypothesis =>
    cases ordered with
    | topped _ _ orderedFirst orderedSecond =>
      have sunk := inductionHypothesis orderedFirst
      exact sunk.overLeft ranks orderedSecond (under sunk orderedFirst)
        fun _ => orderedSecond.not_below_of_top ranks (ranks.asymm lower)
  | case6 _ first one two second three four notLower inductionHypothesis =>
    cases ordered with
    | topped _ _ orderedFirst orderedSecond =>
      have sunk := inductionHypothesis orderedSecond
      exact orderedFirst.overRight ranks sunk
        (fun _ => orderedFirst.not_below_of_top ranks notLower) (under sunk orderedSecond)

/-! ### Bringing into order again -/

omit ranks in
theorem IsOrdered.sinkTop_eq {entry : Entry} {left right : Tree Entry}
    (ordered : (node entry left right).IsOrdered below) :
    sinkTop below entry (node entry left right) = node entry left right := by
  cases ordered with
  | topped overLeft overRight _ _ =>
    cases left with
    | empty =>
      cases right with
      | empty => rfl
      | node second three four => rw [sinkTop, if_neg (overRight second List.mem_cons_self)]
    | node first one two =>
      have leftStays := overLeft first List.mem_cons_self
      cases right with
      | empty => rw [sinkTop, if_neg leftStays]
      | node second three four =>
        rw [sinkTop, if_neg leftStays, if_neg (overRight second List.mem_cons_self), ite_self]

omit ranks in
theorem IsOrdered.settle_eq {tree : Tree Entry} (ordered : tree.IsOrdered below) :
    tree.settle below = tree := by
  induction ordered with
  | nothing => rfl
  | topped overLeft overRight orderedLeft orderedRight leftStays rightStays =>
    rw [settle, leftStays, rightStays]
    exact (IsOrdered.topped overLeft overRight orderedLeft orderedRight).sinkTop_eq

end Order

/-! ### Changes that keep the ranks -/

theorem map_map {Image Further : Type} (change : Entry → Image) (further : Image → Further)
    (tree : Tree Entry) : (tree.map change).map further = tree.map (further ∘ change) := by
  induction tree with
  | empty => rfl
  | node entry left right leftMap rightMap => simp only [map, leftMap, rightMap, Function.comp]

section Change

variable {Image : Type} {below : Entry → Entry → Bool} {belowImage : Image → Image → Bool}
  {change : Entry → Image}
  (keeps : ∀ first second, belowImage (change first) (change second) = below first second)

include keeps

theorem IsOrdered.map {tree : Tree Entry} (ordered : tree.IsOrdered below) :
    (tree.map change).IsOrdered belowImage := by
  have beneath {entry : Entry} {branch : Tree Entry}
      (overBranch : ∀ other ∈ branch.toList, ¬ below other entry) :
      ∀ other ∈ (branch.map change).toList, ¬ belowImage other (change entry) := by
    intro image member
    rw [toList_map] at member
    obtain ⟨other, old, rfl⟩ := List.mem_map.1 member
    rw [keeps]
    exact overBranch other old
  induction ordered with
  | nothing => exact .nothing
  | topped overLeft overRight _ _ left right =>
    exact .topped (beneath overLeft) (beneath overRight) left right

theorem overLeft_map (entry : Entry) (left right : Tree Entry) :
    overLeft belowImage (change entry) (left.map change) (right.map change) =
      (overLeft below entry left right).map change := by
  cases left with
  | empty => rfl
  | node top first second =>
    simp only [map, overLeft, keeps]
    split <;> rfl

theorem overRight_map (entry : Entry) (left right : Tree Entry) :
    overRight belowImage (change entry) (left.map change) (right.map change) =
      (overRight below entry left right).map change := by
  cases right with
  | empty => rfl
  | node top first second =>
    simp only [map, overRight, keeps]
    split <;> rfl

theorem insertAt_map (new : Entry) (way : List Side) (tree : Tree Entry) :
    insertAt belowImage (change new) way (tree.map change) =
      (insertAt below new way tree).map change := by
  fun_induction insertAt below new way tree with
  | case1 => rfl
  | case2 way entry left right inductionHypothesis =>
    rw [map, insertAt, inductionHypothesis, overRight_map keeps]
  | case3 way entry left right notRight inductionHypothesis =>
    rw [map, insertAt, inductionHypothesis, overLeft_map keeps]
    exact notRight

theorem replaceTop_map (new : Entry) (tree : Tree Entry) :
    replaceTop belowImage (change new) (tree.map change) =
      (replaceTop below new tree).map change := by
  fun_induction replaceTop below new tree with
  | case1 | case2 => rfl
  | case3 _ first one two inductionHypothesis =>
    rw [← overLeft_map keeps, ← inductionHypothesis]
    rfl
  | case4 _ second three four inductionHypothesis =>
    rw [← overRight_map keeps, ← inductionHypothesis]
    rfl
  | case5 _ first one two second three four lower inductionHypothesis =>
    rw [← overLeft_map keeps, ← inductionHypothesis]
    simp only [map, replaceTop, keeps, lower, if_true]
  | case6 _ first one two second three four notLower inductionHypothesis =>
    rw [← overRight_map keeps, ← inductionHypothesis]
    simp only [map, replaceTop, keeps, notLower, Bool.false_eq_true, if_false]

omit keeps in
theorem takeAt_map (way : List Side) (tree : Tree Entry) :
    takeAt way (tree.map change) = (takeAt way tree).map (Prod.map change (map change)) := by
  fun_induction takeAt way tree with
  | case1 => rfl
  | case2 way entry left right taken others takes inductionHypothesis =>
    rw [map, takeAt, inductionHypothesis, takes]
    rfl
  | case3 way entry left right takes inductionHypothesis =>
    rw [map, takeAt, inductionHypothesis, takes]
    rfl
  | case4 way entry left right notRight taken others takes inductionHypothesis =>
    rw [map, takeAt, inductionHypothesis, takes]
    · rfl
    · exact notRight
  | case5 way entry left right notRight takes inductionHypothesis =>
    rw [map, takeAt, inductionHypothesis, takes]
    · rfl
    · exact notRight

end Change

/-! ### The shape of a heap -/

theorem eq_empty_of_size_eq_zero {tree : Tree Entry} (zero : tree.size = 0) : tree = empty := by
  cases tree with
  | empty => rfl
  | node => cases zero

/-- The subtree on one side of the top. -/
def branch (side : Side) : Tree Entry → Tree Entry
  | empty => empty
  | node _ left right => match side with | .left => left | .right => right

section Shape

variable (below : Entry → Entry → Bool)

theorem size_branch_overLeft (entry : Entry) (left right : Tree Entry) (side : Side) :
    ((overLeft below entry left right).branch side).size =
      ((node entry left right).branch side).size := by
  cases left with
  | empty => rfl
  | node top first second =>
    rw [overLeft]
    cases side <;> split <;> rfl

theorem size_branch_overRight (entry : Entry) (left right : Tree Entry) (side : Side) :
    ((overRight below entry left right).branch side).size =
      ((node entry left right).branch side).size := by
  cases right with
  | empty => rfl
  | node top first second =>
    rw [overRight]
    cases side <;> split <;> rfl

/-- An entry more goes to the side to which its way turns first. -/
theorem size_branch_insertAt (new top : Entry) (left right : Tree Entry) (turn side : Side)
    (way : List Side) :
    ((insertAt below new (turn :: way) (node top left right)).branch side).size =
      ((node top left right).branch side).size + if turn = side then 1 else 0 := by
  cases turn with
  | left =>
    rw [insertAt, size_branch_overLeft]
    · cases side with
      | left => exact size_insertAt below new way left
      | right => rfl
    · nofun
  | right =>
    rw [insertAt, size_branch_overRight]
    cases side with
    | left => rfl
    | right => exact size_insertAt below new way right

theorem size_branch_replaceTop (new : Entry) (tree : Tree Entry) (side : Side) :
    ((replaceTop below new tree).branch side).size = (tree.branch side).size := by
  fun_cases replaceTop below new tree with
  | case1 | case2 => rfl
  | case3 _ first one two =>
    rw [size_branch_overLeft]
    cases side with
    | left => exact size_replaceTop below new _
    | right => rfl
  | case4 _ second three four =>
    rw [size_branch_overRight]
    cases side with
    | left => rfl
    | right => exact size_replaceTop below new _
  | case5 _ first one two second three four =>
    rw [size_branch_overLeft]
    cases side with
    | left => exact size_replaceTop below new _
    | right => rfl
  | case6 _ first one two second three four =>
    rw [size_branch_overRight]
    cases side with
    | left => rfl
    | right => exact size_replaceTop below new _

end Shape

/-- Where there is an entry on the side to which a way turns first, one of that side is taken out,
and the top stays. -/
theorem exists_takeAt_cons {turn : Side} (way : List Side) {top : Entry} {left right : Tree Entry}
    (positive : 0 < ((node top left right).branch turn).size) :
    ∃ taken first second, takeAt (turn :: way) (node top left right) =
        some (taken, node top first second) ∧
      ∀ side, ((node top first second).branch side).size + (if turn = side then 1 else 0) =
        ((node top left right).branch side).size := by
  have taken (branch : Tree Entry) (positive : 0 < branch.size) :
      ∃ taken others, takeAt way branch = some (taken, others) := by
    cases found : takeAt way branch with
    | none =>
      rw [takeAt_eq_none found] at positive
      cases positive
    | some pair => exact ⟨pair.1, pair.2, rfl⟩
  cases turn with
  | left =>
    obtain ⟨last, others, found⟩ := taken left positive
    refine ⟨last, others, right, ?_, fun side => ?_⟩
    · rw [takeAt, List.tail_cons, found]
      nofun
    · cases side with
      | left => exact size_of_takeAt found
      | right => rfl
  | right =>
    obtain ⟨last, others, found⟩ := taken right positive
    refine ⟨last, left, others, ?_, fun side => ?_⟩
    · rw [takeAt, found]
    · cases side with
      | left => rfl
      | right => exact size_of_takeAt found

end Tree

theorem wayTo_zero : wayTo 0 = [] := by
  rw [wayTo, if_pos rfl]

theorem wayTo_ne_nil {place : Nat} (under : 0 < place) : wayTo place ≠ [] := by
  rw [wayTo, if_neg (Nat.ne_of_gt under)]
  exact List.append_ne_nil_of_right_ne_nil _ (List.cons_ne_nil _ [])

/-- How many of the places before a given one lie on one side of the top. -/
def placesOn (side : Side) (count : Nat) : Nat :=
  (List.range count).countP fun place => (wayTo place).head? = some side

theorem placesOn_succ (side : Side) (count : Nat) :
    placesOn side (count + 1) =
      placesOn side count + if (wayTo count).head? = some side then 1 else 0 := by
  rw [placesOn, List.range_succ, List.countP_append, List.countP_singleton]
  congr 1
  exact if_congr decide_eq_true_iff rfl rfl

namespace Heap

/-- Whether no entry ranks below one above it and each side of the top has as many entries as there
are places on it. -/
structure IsOrdered (below : Entry → Entry → Bool) (heap : Heap Entry) : Prop where
  tree : heap.tree.IsOrdered below
  filled (side : Side) : (heap.tree.branch side).size = placesOn side heap.size

variable {below : Entry → Entry → Bool} {heap : Heap Entry}

theorem isOrdered_empty : (empty : Heap Entry).IsOrdered below :=
  ⟨.nothing, fun _ => rfl⟩

theorem IsOrdered.push (ranks : Ranks below) (ordered : heap.IsOrdered below) (entry : Entry) :
    (heap.push below entry).IsOrdered below where
  tree := ordered.tree.insertAt ranks entry _
  filled side := by
    have filled := ordered.filled side
    have added := placesOn_succ side heap.size
    rw [← filled] at added
    refine Eq.trans ?_ added.symm
    show ((heap.tree.insertAt below entry (wayTo heap.size)).branch side).size = _
    rw [← heap.size_tree]
    cases heap.tree with
    | empty =>
      rw [Tree.size, wayTo_zero]
      cases side <;> rfl
    | node top left right =>
      obtain ⟨turn, way, split⟩ := List.exists_cons_of_ne_nil (wayTo_ne_nil (Nat.succ_pos _))
      rw [Tree.size, split, Tree.size_branch_insertAt, List.head?_cons]
      simp only [Option.some.injEq]

variable (below) in
theorem pop_eq {last : Entry} {others : Tree Entry}
    (found : heap.tree.takeAt (wayTo (heap.size - 1)) = some (last, others)) :
    (heap.pop below).size = heap.size - 1 ∧
      (heap.pop below).tree = others.replaceTop below last := by
  unfold pop
  split
  · rename_i absent
    rw [found] at absent
    cases absent
  · rename_i same
    rw [found] at same
    cases same
    exact ⟨rfl, rfl⟩

theorem pop_of_none (absent : heap.tree.takeAt (wayTo (heap.size - 1)) = none) :
    heap.pop below = heap := by
  unfold pop
  split
  · rfl
  · rename_i found
    rw [absent] at found
    cases found

/-- The top of a heap in order is taken out. -/
theorem IsOrdered.exists_takeAt (ordered : heap.IsOrdered below) {top : Entry}
    {left right : Tree Entry} (tree : heap.tree = .node top left right) :
    ∃ last others, heap.tree.takeAt (wayTo (heap.size - 1)) = some (last, others) ∧
      (∀ side, (others.branch side).size = placesOn side (heap.size - 1)) ∧
      (left.toList ++ right.toList).Perm (others.replaceTop below last).toList := by
  have size : heap.size = left.size + right.size + 1 := by
    rw [← heap.size_tree, tree]
    rfl
  have filled := ordered.filled
  rw [tree, size] at filled
  rw [tree, size, Nat.add_sub_cancel]
  rcases Nat.eq_zero_or_pos (left.size + right.size) with alone | under
  · obtain ⟨leftSize, rightSize⟩ := Nat.add_eq_zero_iff.1 alone
    obtain rfl := Tree.eq_empty_of_size_eq_zero leftSize
    obtain rfl := Tree.eq_empty_of_size_eq_zero rightSize
    rw [alone, wayTo_zero]
    exact ⟨top, .empty, rfl, fun _ => rfl, .nil⟩
  · obtain ⟨turn, way, split⟩ := List.exists_cons_of_ne_nil (wayTo_ne_nil under)
    -- the last place lies on the side to which its way turns, so there is an entry on that side
    have counted (side : Side) : placesOn side (left.size + right.size + 1) =
        placesOn side (left.size + right.size) + if turn = side then 1 else 0 := by
      rw [placesOn_succ, split, List.head?_cons]
      simp only [Option.some.injEq]
    have positive : 0 < ((Tree.node top left right).branch turn).size := by
      rw [filled, counted, if_pos rfl]
      exact Nat.succ_pos _
    obtain ⟨last, first, second, found, sizes⟩ := Tree.exists_takeAt_cons way positive
    rw [← split] at found
    refine ⟨last, _, found, fun side => ?_, ?_⟩
    · have oneLess := sizes side
      rw [filled, counted] at oneLess
      exact Nat.add_right_cancel oneLess
    · have taken := (Tree.toList_perm_of_takeAt found).trans (.swap top last _)
      have replaced := Tree.toList_replaceTop_perm below last (.node top first second)
        Tree.node_ne_empty
      exact taken.cons_inv.trans replaced.symm

/-- Of a heap in order an entry of lowest rank leaves, and the others are in order. -/
theorem IsOrdered.pop (ranks : Ranks below) (ordered : heap.IsOrdered below)
    (nonempty : heap.toList ≠ []) :
    (heap.pop below).IsOrdered below ∧
      ∃ gone, heap.toList.Perm (gone :: (heap.pop below).toList) ∧
        ∀ other ∈ (heap.pop below).toList, ¬ below other gone := by
  cases tree : heap.tree with
  | empty => exact absurd (congrArg Tree.toList tree) nonempty
  | node top left right =>
    obtain ⟨last, others, found, filled, stays⟩ := ordered.exists_takeAt tree
    obtain ⟨size, rest⟩ := pop_eq below found
    have orderedTree := ordered.tree
    refine ⟨⟨?_, fun side => ?_⟩, top, ?_, fun other member => ?_⟩
    · rw [rest]
      exact (orderedTree.takeAt found).replaceTop ranks last
    · rw [rest, size, Tree.size_branch_replaceTop, filled]
    · rw [toList, tree, toList, rest]
      exact stays.cons top
    · rw [toList, rest] at member
      rw [tree] at orderedTree
      exact orderedTree.not_below_top (stays.symm.subset member)

/-! ### Heaps that differ by a change of the entries -/

/-- Whether a heap has the entries of another one, changed, in the same places. -/
def IsImage {Image : Type} (change : Entry → Image) (heap : Heap Entry) (image : Heap Image) :
    Prop :=
  image.tree = heap.tree.map change

namespace IsImage

variable {Image : Type} {belowImage : Image → Image → Bool} {change : Entry → Image}
  {image : Heap Image}

theorem size (isImage : IsImage change heap image) : image.size = heap.size := by
  rw [← image.size_tree, isImage, Tree.size_map, heap.size_tree]

theorem toList (isImage : IsImage change heap image) : image.toList = heap.toList.map change := by
  rw [Heap.toList, isImage, Tree.toList_map]
  rfl

theorem trans {Further : Type} {further : Image → Further} {last : Heap Further}
    (isImage : IsImage change heap image) (next : IsImage further image last) :
    IsImage (further ∘ change) heap last := by
  rw [IsImage, next, isImage, Tree.map_map]

variable (keeps : ∀ first second, belowImage (change first) (change second) = below first second)

include keeps

theorem isOrdered_tree (isImage : IsImage change heap image)
    (ordered : heap.tree.IsOrdered below) : image.tree.IsOrdered belowImage := by
  rw [isImage]
  exact ordered.map keeps

theorem push (isImage : IsImage change heap image) (entry : Entry) :
    IsImage change (heap.push below entry) (image.push belowImage (change entry)) := by
  show image.tree.insertAt belowImage (change entry) (wayTo image.size) = _
  rw [isImage.size, isImage, Tree.insertAt_map keeps]
  rfl

theorem pop (isImage : IsImage change heap image) :
    IsImage change (heap.pop below) (image.pop belowImage) := by
  have same : image.tree.takeAt (wayTo (image.size - 1)) =
      (heap.tree.takeAt (wayTo (heap.size - 1))).map (Prod.map change (Tree.map change)) := by
    rw [isImage.size, isImage, Tree.takeAt_map]
  cases found : heap.tree.takeAt (wayTo (heap.size - 1)) with
  | none =>
    rw [found] at same
    rw [pop_of_none found, pop_of_none same]
    exact isImage
  | some pair =>
    rw [found] at same
    rw [IsImage, (pop_eq belowImage same).2, (pop_eq below found).2, Tree.replaceTop_map keeps]

end IsImage

/-- Changing the entries of a heap in order keeps them in place if it keeps their ranks. -/
theorem isImage_map {Image : Type} {belowImage : Image → Image → Bool} {change : Entry → Image}
    (ordered : heap.tree.IsOrdered below)
    (keeps : ∀ first second, belowImage (change first) (change second) = below first second) :
    IsImage change heap (heap.map belowImage change) :=
  (ordered.map keeps).settle_eq

end Heap

end Telemetry.Sample
