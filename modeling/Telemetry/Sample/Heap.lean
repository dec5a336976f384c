/-
This file holds heaps, from which an entry of lowest rank can be taken without a
search. A heap is a binary tree that is filled level by level, each level from
the left, and in which no entry ranks below the one above it. A new entry starts
at the first free place and rises while it ranks below the entry above. When the
entry at the top leaves, the last entry goes to the bottom along the lower of
two neighbours, of equal ones the right one, and rises from there. Which of
several entries of one rank leaves first follows from these rules alone. What
ranks below what is given from outside.
-/

namespace Telemetry.Sample

/-- A binary tree with an entry at every node. -/
inductive Tree (Entry : Type)
  | empty
  | node (entry : Entry) (left right : Tree Entry)
deriving Repr

/-- One of the two ways down from a node. -/
inductive Side
  | left
  | right
deriving DecidableEq, Repr

/-- The way from the top to a place. Places are counted from zero, level by level and from the
left, so that the places under one are twice as far on. -/
def wayTo (place : Nat) : List Side :=
  if place = 0 then []
  else wayTo ((place - 1) / 2) ++ [if place % 2 = 1 then .left else .right]
termination_by place
decreasing_by omega

namespace Tree

section Shape

variable {Entry : Type}

/-- How many entries the tree has. -/
def size : Tree Entry → Nat
  | empty => 0
  | node _ left right => left.size + right.size + 1

/-- The entries, those above before those below. -/
def toList : Tree Entry → List Entry
  | empty => []
  | node entry left right => entry :: (left.toList ++ right.toList)

/-- The tree with every entry changed. -/
def map {Image : Type} (change : Entry → Image) : Tree Entry → Tree Image
  | empty => empty
  | node entry left right => node (change entry) (left.map change) (right.map change)

/-- Take out the entry at the end of a way, if there is any entry. -/
def takeAt : List Side → Tree Entry → Option (Entry × Tree Entry)
  | _, empty => none
  | .right :: way, node entry left right =>
    match takeAt way right with
    | some (taken, others) => some (taken, node entry left others)
    | none => some (entry, left)
  | way, node entry left right =>
    match takeAt way.tail left with
    | some (taken, others) => some (taken, node entry others right)
    | none => some (entry, right)

theorem length_toList (tree : Tree Entry) : tree.toList.length = tree.size := by
  induction tree with
  | empty => rfl
  | node entry left right leftLength rightLength => simp [toList, size, leftLength, rightLength]

theorem size_map {Image : Type} (change : Entry → Image) (tree : Tree Entry) :
    (tree.map change).size = tree.size := by
  induction tree with
  | empty => rfl
  | node entry left right leftSize rightSize => simp [map, size, leftSize, rightSize]

theorem takeAt_eq_none {way : List Side} {tree : Tree Entry} (nothing : takeAt way tree = none) :
    tree = empty := by
  fun_induction takeAt way tree with
  | case1 => rfl
  | case2 | case3 | case4 | case5 => simp at nothing

theorem size_of_takeAt {way : List Side} {tree others : Tree Entry} {taken : Entry}
    (found : takeAt way tree = some (taken, others)) : others.size + 1 = tree.size := by
  fun_induction takeAt way tree generalizing others taken with
  | case1 => simp at found
  | case2 way entry left right first rest takes inductionHypothesis =>
    simp only [Option.some.injEq, Prod.mk.injEq] at found
    obtain ⟨rfl, rfl⟩ := found
    have oneLess := inductionHypothesis takes
    simp only [size]
    omega
  | case3 way entry left right takes =>
    simp only [Option.some.injEq, Prod.mk.injEq] at found
    obtain ⟨rfl, rfl⟩ := found
    simp [takeAt_eq_none takes, size]
  | case4 way entry left right _ first rest takes inductionHypothesis =>
    simp only [Option.some.injEq, Prod.mk.injEq] at found
    obtain ⟨rfl, rfl⟩ := found
    have oneLess := inductionHypothesis takes
    simp only [size]
    omega
  | case5 way entry left right _ takes =>
    simp only [Option.some.injEq, Prod.mk.injEq] at found
    obtain ⟨rfl, rfl⟩ := found
    simp [takeAt_eq_none takes, size]

end Shape

section Order

variable {Entry : Type} (below : Entry → Entry → Bool)

/-- An entry above two trees. If the top of the left one ranks below the entry, the two change
places. -/
def overLeft (entry : Entry) (left right : Tree Entry) : Tree Entry :=
  match left with
  | node top first second =>
    if below top entry then node top (node entry first second) right else node entry left right
  | empty => node entry empty right

/-- An entry above two trees. If the top of the right one ranks below the entry, the two change
places. -/
def overRight (entry : Entry) (left right : Tree Entry) : Tree Entry :=
  match right with
  | node top first second =>
    if below top entry then node top left (node entry first second) else node entry left right
  | empty => node entry left empty

/-- Put an entry at the end of a way and let it rise. -/
def insertAt (new : Entry) : List Side → Tree Entry → Tree Entry
  | _, empty => node new empty empty
  | .right :: way, node entry left right => overRight below entry left (insertAt new way right)
  | way, node entry left right => overLeft below entry (insertAt new way.tail left) right

/-- Put an entry in place of the top: it goes to the bottom, where the entries that it passes move
up, and rises from there. -/
def replaceTop (new : Entry) : Tree Entry → Tree Entry
  | empty => empty
  | node _ empty empty => node new empty empty
  | node _ (node first one two) empty =>
    overLeft below first (replaceTop new (node first one two)) empty
  | node _ empty (node second three four) =>
    overRight below second empty (replaceTop new (node second three four))
  | node _ (node first one two) (node second three four) =>
    if below first second then
      overLeft below first (replaceTop new (node first one two)) (node second three four)
    else overRight below second (node first one two) (replaceTop new (node second three four))

/-- Put an entry in place of the top and let it sink while the lower of the entries under it ranks
below it. -/
def sinkTop (new : Entry) : Tree Entry → Tree Entry
  | empty => empty
  | node _ empty empty => node new empty empty
  | node _ (node first one two) empty =>
    if below first new then node first (sinkTop new (node first one two)) empty
    else node new (node first one two) empty
  | node _ empty (node second three four) =>
    if below second new then node second empty (sinkTop new (node second three four))
    else node new empty (node second three four)
  | node _ (node first one two) (node second three four) =>
    if below first second then
      if below first new then
        node first (sinkTop new (node first one two)) (node second three four)
      else node new (node first one two) (node second three four)
    else if below second new then
      node second (node first one two) (sinkTop new (node second three four))
    else node new (node first one two) (node second three four)

/-- Bring the entries of a tree into order, from the bottom up. -/
def settle : Tree Entry → Tree Entry
  | empty => empty
  | node entry left right => sinkTop below entry (node entry left.settle right.settle)

theorem size_overLeft (entry : Entry) (left right : Tree Entry) :
    (overLeft below entry left right).size = left.size + right.size + 1 := by
  cases left with
  | empty => rfl
  | node top first second => grind [overLeft, size]

theorem size_overRight (entry : Entry) (left right : Tree Entry) :
    (overRight below entry left right).size = left.size + right.size + 1 := by
  cases right with
  | empty => rfl
  | node top first second => grind [overRight, size]

theorem size_insertAt (new : Entry) (way : List Side) (tree : Tree Entry) :
    (insertAt below new way tree).size = tree.size + 1 := by
  fun_induction insertAt below new way tree <;>
    grind [size, size_overLeft, size_overRight]

theorem size_replaceTop (new : Entry) (tree : Tree Entry) :
    (replaceTop below new tree).size = tree.size := by
  fun_induction replaceTop below new tree <;>
    grind [size, size_overLeft, size_overRight]

theorem size_sinkTop (new : Entry) (tree : Tree Entry) :
    (sinkTop below new tree).size = tree.size := by
  fun_induction sinkTop below new tree <;> grind [size]

theorem size_settle (tree : Tree Entry) : (tree.settle below).size = tree.size := by
  fun_induction settle below tree <;> grind [size, size_sinkTop]

end Order

end Tree

/-- A tree filled level by level, with the number of its entries. -/
structure Heap (Entry : Type) where
  size : Nat
  tree : Tree Entry
  size_tree : tree.size = size
deriving Repr

namespace Heap

variable {Entry : Type}

/-- The heap without entries. -/
def empty : Heap Entry :=
  ⟨0, .empty, rfl⟩

/-- The entries. -/
def toList (heap : Heap Entry) : List Entry :=
  heap.tree.toList

theorem length_toList (heap : Heap Entry) : heap.toList.length = heap.size := by
  rw [toList, Tree.length_toList, heap.size_tree]

/-- Add an entry. -/
def push (below : Entry → Entry → Bool) (heap : Heap Entry) (entry : Entry) : Heap Entry where
  size := heap.size + 1
  tree := heap.tree.insertAt below entry (wayTo heap.size)
  size_tree := by rw [Tree.size_insertAt, heap.size_tree]

/-- The heap without the entry at its top. -/
def pop (below : Entry → Entry → Bool) (heap : Heap Entry) : Heap Entry :=
  match found : heap.tree.takeAt (wayTo (heap.size - 1)) with
  | none => heap
  | some (last, others) => {
      size := heap.size - 1
      tree := others.replaceTop below last
      size_tree := by
        have oneLess := Tree.size_of_takeAt found
        rw [heap.size_tree] at oneLess
        rw [Tree.size_replaceTop]
        omega }

/-- The heap of the changed entries. They are brought into order again, as their ranks may have
changed. -/
def map {Image : Type} (below : Image → Image → Bool) (change : Entry → Image)
    (heap : Heap Entry) : Heap Image where
  size := heap.size
  tree := (heap.tree.map change).settle below
  size_tree := by rw [Tree.size_settle, Tree.size_map, heap.size_tree]

end Heap

end Telemetry.Sample
