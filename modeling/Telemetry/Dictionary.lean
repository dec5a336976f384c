/-
This file holds finite maps from texts to values that are kept in the order of
their keys. The order is that of code points. Because the entries of a
dictionary always ascend, two dictionaries with the same entries are equal and
whatever walks through one meets the keys in one order, however they came in.
-/

namespace Telemetry

/-- A finite map whose entries ascend strictly by key. -/
structure Dictionary (Value : Type) where
  entries : List (String × Value)
  ascending : entries.Pairwise fun first second => first.1 < second.1

namespace Dictionary

variable {Value : Type}

/-! ### Entries in order -/

/-- Put a value under a key into ascending entries, in place of an earlier value. -/
def insertEntry (key : String) (value : Value) : List (String × Value) → List (String × Value)
  | [] => [(key, value)]
  | entry :: rest =>
    if key < entry.1 then (key, value) :: entry :: rest
    else if key = entry.1 then (key, value) :: rest
    else entry :: insertEntry key value rest

theorem fst_of_mem_insertEntry {key : String} {value : Value} {entries : List (String × Value)}
    {entry : String × Value} (member : entry ∈ insertEntry key value entries) :
    entry.1 = key ∨ entry ∈ entries := by
  induction entries with
  | nil => simp_all [insertEntry]
  | cons head rest inductionHypothesis =>
    unfold insertEntry at member
    split at member
    · simp only [List.mem_cons] at member ⊢
      rcases member with rfl | member
      · exact .inl rfl
      · exact .inr member
    · split at member
      · simp only [List.mem_cons] at member ⊢
        rcases member with rfl | member
        · exact .inl rfl
        · exact .inr (.inr member)
      · simp only [List.mem_cons] at member ⊢
        rcases member with rfl | member
        · exact .inr (.inl rfl)
        · exact (inductionHypothesis member).imp_right .inr

theorem insertEntry_ascending (key : String) (value : Value) {entries : List (String × Value)}
    (ascending : entries.Pairwise fun first second => first.1 < second.1) :
    (insertEntry key value entries).Pairwise fun first second => first.1 < second.1 := by
  induction entries with
  | nil => simp [insertEntry]
  | cons head rest inductionHypothesis =>
    obtain ⟨below, ascendingRest⟩ := List.pairwise_cons.1 ascending
    unfold insertEntry
    split
    · rename_i smaller
      refine List.pairwise_cons.2 ⟨fun entry member => ?_, ascending⟩
      rcases List.mem_cons.1 member with rfl | member
      · exact smaller
      · exact String.lt_trans smaller (below entry member)
    · split
      · rename_i same
        exact List.pairwise_cons.2 ⟨fun entry member => same ▸ below entry member, ascendingRest⟩
      · rename_i notSmaller different
        refine List.pairwise_cons.2
          ⟨fun entry member => ?_, inductionHypothesis ascendingRest⟩
        rcases fst_of_mem_insertEntry member with same | member
        · have atMost : head.1 ≤ key := String.not_lt.1 notSmaller
          rw [same]
          refine Decidable.byContradiction fun notBelow => different ?_
          exact String.le_antisymm (String.not_lt.1 notBelow) atMost
        · exact below entry member

/-! ### Operations -/

/-- The dictionary without entries. -/
def empty : Dictionary Value :=
  ⟨[], .nil⟩

instance : Inhabited (Dictionary Value) :=
  ⟨empty⟩

/-- The value under a key. -/
def find? (dictionary : Dictionary Value) (key : String) : Option Value :=
  (dictionary.entries.find? fun entry => entry.1 = key).map (·.2)

/-- Whether there is a value under the key. -/
def contains (dictionary : Dictionary Value) (key : String) : Bool :=
  dictionary.entries.any fun entry => entry.1 = key

/-- Put a value under a key, in place of an earlier value. -/
def insert (dictionary : Dictionary Value) (key : String) (value : Value) : Dictionary Value :=
  ⟨insertEntry key value dictionary.entries, insertEntry_ascending key value dictionary.ascending⟩

/-- Put a value under a key that has none; a key that has a value keeps it. -/
def insertIfNew (dictionary : Dictionary Value) (key : String) (value : Value) :
    Dictionary Value :=
  if dictionary.contains key then dictionary else dictionary.insert key value

/-- Take the key out. -/
def erase (dictionary : Dictionary Value) (key : String) : Dictionary Value :=
  ⟨dictionary.entries.filter fun entry => entry.1 ≠ key, dictionary.ascending.filter _⟩

/-- The keys, ascending. -/
def keys (dictionary : Dictionary Value) : List String :=
  dictionary.entries.map (·.1)

/-- The values in the order of their keys. -/
def values (dictionary : Dictionary Value) : List Value :=
  dictionary.entries.map (·.2)

/-- How many entries there are. -/
def size (dictionary : Dictionary Value) : Nat :=
  dictionary.entries.length

/-- The dictionary of the given entries; of two with one key the later counts. -/
def ofList (entries : List (String × Value)) : Dictionary Value :=
  entries.foldl (fun dictionary entry => dictionary.insert entry.1 entry.2) empty

theorem ext {first second : Dictionary Value} (same : first.entries = second.entries) :
    first = second := by
  cases first
  cases second
  simp_all

/-! ### What a look-up finds -/

@[simp] theorem find?_empty (key : String) : (empty : Dictionary Value).find? key = none :=
  rfl

theorem find?_insertEntry (key : String) (value : Value) (entries : List (String × Value))
    (wanted : String) :
    ((insertEntry key value entries).find? fun entry => entry.1 = wanted).map (·.2) =
      if wanted = key then some value
      else (entries.find? fun entry => entry.1 = wanted).map (·.2) := by
  induction entries with
  | nil =>
    by_cases same : key = wanted
    · simp [insertEntry, same]
    · simp [insertEntry, same, Ne.symm same]
  | cons head rest inductionHypothesis =>
    by_cases found : wanted = key
    · subst found
      unfold insertEntry
      split
      · simp
      · split
        · simp
        · rename_i different
          simpa [Ne.symm different] using inductionHypothesis
    · simp only [found, if_false] at inductionHypothesis ⊢
      unfold insertEntry
      split
      · simp [Ne.symm found]
      · split
        · rename_i same
          simp [← same, Ne.symm found]
        · by_cases first : head.1 = wanted
          · simp [first]
          · simpa [first] using inductionHypothesis

/-- After a value is put under a key, the key has that value and the others have theirs. -/
@[simp] theorem find?_insert (dictionary : Dictionary Value) (key : String) (value : Value)
    (wanted : String) :
    (dictionary.insert key value).find? wanted =
      if wanted = key then some value else dictionary.find? wanted :=
  find?_insertEntry key value dictionary.entries wanted

/-- After a key is taken out, it has no value and the others have theirs. -/
@[simp] theorem find?_erase (dictionary : Dictionary Value) (key wanted : String) :
    (dictionary.erase key).find? wanted =
      if wanted = key then none else dictionary.find? wanted := by
  unfold find? erase
  rw [List.find?_filter]
  by_cases same : wanted = key
  · subst same
    simp only [if_true, Option.map_eq_none_iff, List.find?_eq_none]
    simp
  · rw [if_neg same]
    congr 2
    funext entry
    by_cases found : entry.1 = wanted
    · simp [found, same]
    · simp [found]

/-- A key has a value exactly if a look-up finds one. -/
theorem contains_eq_isSome (dictionary : Dictionary Value) (key : String) :
    dictionary.contains key = (dictionary.find? key).isSome := by
  rw [Bool.eq_iff_iff]
  simp only [contains, find?, Option.isSome_map, List.any_eq_true, List.find?_isSome]

/-- The entries are exactly what look-ups find. -/
theorem mem_entries_iff {dictionary : Dictionary Value} {key : String} {value : Value} :
    (key, value) ∈ dictionary.entries ↔ dictionary.find? key = some value := by
  unfold find?
  obtain ⟨entries, ascending⟩ := dictionary
  induction entries with
  | nil => simp
  | cons head rest inductionHypothesis =>
    obtain ⟨below, ascendingRest⟩ := List.pairwise_cons.1 ascending
    have restIff := inductionHypothesis ascendingRest
    simp only [List.mem_cons] at restIff ⊢
    by_cases same : head.1 = key
    · have fresh : (key, value) ∉ rest := fun member =>
        String.lt_irrefl key (by simpa [same] using below _ member)
      simp only [List.find?_cons, same, decide_true, Option.map_some, Option.some.injEq, fresh,
        or_false]
      constructor
      · intro equal
        rw [← equal]
      · intro equal
        rw [← same, ← equal]
    · have different : (key, value) ≠ head := fun equal => same (by rw [← equal])
      simp only [List.find?_cons, same, decide_false, different, false_or]
      exact restIff

end Dictionary

end Telemetry
