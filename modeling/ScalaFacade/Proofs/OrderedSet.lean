import Mathlib.Data.List.Induction
import Mathlib.Data.List.Nodup
import ScalaFacade.OrderedSet

/-! # First occurrences

The entries of an ordered set are the values that were put in, each at its first occurrence. On
lists that is `eraseDups`, and the facts about collected texts are facts about that function: what
one more value at the end changes (`eraseDups_concat`), that a later copy changes nothing, and that
the order of the values matters for the order of the entries only.

A set can also be built in many steps. What one step does to the values put in so far is a plain
function on lists (`Operation.record`), and after any run the set is coherent and has the first
occurrences of these values as its entries (`represents_run`).

A set is a list and a test, and insertion only asks the test. `Represents` holds both sides
together: the test agrees with the entries, and the entries are first occurrences. One operation
keeps it, so every run does. Among the operations is one that takes the entries out, selects from
them in any way and makes a new set, which covers filtering, reversing and whatever else is done
between two sets.
-/

set_option autoImplicit false

namespace ScalaFacade.OrderedSet

variable {α : Type} [DecidableEq α]

/-- Of the values that are put in, those that are new are added, each at its first occurrence. -/
theorem entries_extend_eq {set : OrderedSet α} (h : set.Coherent) (values : List α) :
    (set.extend values).entries = set.entries ++ (values.removeAll set.entries).eraseDups := by
  induction values generalizing set with
  | nil => exact (List.append_nil _).symm
  | cons a values ih =>
    rw [show set.extend (a :: values) = (set.insert a).extend values from rfl, ih (h.insert a),
      List.cons_removeAll, entries_insert h]
    by_cases present : a ∈ set.entries
    · simp [present]
    · have fewer : values.removeAll (set.entries ++ [a]) =
          (values.removeAll set.entries).filter fun b => !b == a := by
        simp only [List.removeAll, List.filter_filter]
        refine List.filter_congr fun b _ => ?_
        by_cases here : b = a <;> simp [here]
      simp [present, fewer, List.eraseDups_cons]

/-- A set made from a list has its first occurrences. -/
theorem entries_ofList_eq (values : List α) : (ofList values).entries = values.eraseDups := by
  rw [ofList, entries_extend_eq coherent_empty]
  simp [empty]

/-- First occurrences are distinct. This comes from the invariant of sets. -/
theorem nodup_eraseDups (values : List α) : values.eraseDups.Nodup := by
  rw [← entries_ofList_eq]
  exact (coherent_ofList values).nodup

theorem entries_filter (values : List α) (p : α → Bool) :
    ((ofList values).filter p).entries = values.eraseDups.filter p := by
  rw [filter, entries_ofList_eq values]
  exact entries_ofList ((nodup_eraseDups values).filter p)

end ScalaFacade.OrderedSet

namespace ScalaFacade

open OrderedSet

variable {α : Type} [DecidableEq α]

/-- One more value at the end is added if it is new. -/
theorem eraseDups_concat (values : List α) (a : α) :
    (values ++ [a]).eraseDups =
      if a ∈ values then values.eraseDups else values.eraseDups ++ [a] := by
  rw [List.eraseDups_append]
  by_cases present : a ∈ values <;> simp [List.removeAll, present, List.eraseDups_cons]

/-- A later copy changes nothing. -/
theorem eraseDups_append_cons {before : List α} {a : α} (h : a ∈ before) (after : List α) :
    (before ++ a :: after).eraseDups = (before ++ after).eraseDups := by
  rw [List.eraseDups_append, List.eraseDups_append, List.cons_removeAll]
  simp [h]

/-- In another order there are the same entries in another order. -/
theorem perm_eraseDups {values values' : List α} (h : values.Perm values') :
    values.eraseDups.Perm values'.eraseDups := by
  rw [List.perm_ext_iff_of_nodup (nodup_eraseDups values) (nodup_eraseDups values')]
  intro a
  rw [List.mem_eraseDups, List.mem_eraseDups, h.mem_iff]

/-- Filtering before and after is the same: a value that is kept has its first occurrence among
those kept. -/
theorem filter_eraseDups (p : α → Bool) (values : List α) :
    values.eraseDups.filter p = (values.filter p).eraseDups := by
  induction values using List.reverseRecOn with
  | nil => rfl
  | append_singleton values a ih =>
    rw [eraseDups_concat, List.filter_append]
    cases kept : p a with
    | false =>
      have none : [a].filter p = [] := by simp [kept]
      rw [none, List.append_nil, ← ih]
      split
      · rfl
      · rw [List.filter_append, none, List.append_nil]
    | true =>
      have one : [a].filter p = [a] := by simp [kept]
      have same : a ∈ values.filter p ↔ a ∈ values := by simp [kept]
      rw [one, eraseDups_concat, ← ih]
      simp only [same]
      split
      · rfl
      · rw [List.filter_append, one]

/-- Values that are all the same are one. -/
theorem eraseDups_eq_singleton {values : List α} {a : α} (some : values ≠ [])
    (same : ∀ b ∈ values, b = a) : values.eraseDups = [a] := by
  obtain ⟨first, others, rfl⟩ := List.exists_cons_of_ne_nil some
  have head : first = a := same first List.mem_cons_self
  have rest : others.filter (fun b => !b == a) = [] := by
    rw [List.filter_eq_nil_iff]
    intro b member
    simp [same b (List.mem_cons_of_mem first member)]
  rw [head, List.eraseDups_cons, rest, List.eraseDups_nil]

namespace OrderedSet

/-! ## Runs

Any sequence of operations, each on the set that the one before has left. -/

/-- What can be done with a set. -/
inductive Operation (α : Type) where
  /-- A new set is made from a list. -/
  | collect (values : List α)
  | insert (a : α)
  | extend (values : List α)
  /-- The entries are taken out, and what is selected of them is made into a new set. -/
  | recollect (select : List α → List α)

/-- The set after an operation. -/
def perform (set : OrderedSet α) : Operation α → OrderedSet α
  | .collect values => ofList values
  | .insert a => (set.insertIfNew a).2
  | .extend values => set.extend values
  | .recollect select => ofList (select set.entries)

/-- The set after operations on an empty one. -/
def run (operations : List (Operation α)) : OrderedSet α := operations.foldl perform empty

/-- The values that have been put into a set since it was made, if those before the operation were
`put`. -/
def Operation.record (put : List α) : Operation α → List α
  | .collect values => values
  | .insert a => put ++ [a]
  | .extend values => put ++ values
  | .recollect select => select put.eraseDups

/-- The values that a run has put into its last set. -/
def recorded (operations : List (Operation α)) : List α := operations.foldl Operation.record []

/-- A set that holds the given values, each at its first occurrence. -/
structure Represents (set : OrderedSet α) (values : List α) : Prop where
  coherent : set.Coherent
  entries : set.entries = values.eraseDups

theorem represents_ofList (values : List α) : (ofList values).Represents values :=
  ⟨coherent_ofList values, entries_ofList_eq values⟩

/-- Values that are there already change neither side. -/
theorem Represents.extend {set : OrderedSet α} {put : List α} (h : set.Represents put)
    (values : List α) : (set.extend values).Represents (put ++ values) := by
  refine ⟨h.coherent.extend values, ?_⟩
  have unseen : values.removeAll put.eraseDups = values.removeAll put := by
    refine List.filter_congr fun a _ => ?_
    simp [List.mem_eraseDups]
  rw [entries_extend_eq h.coherent, h.entries, unseen, List.eraseDups_append]

/-- **One operation.** Insertion is extension by one value. The other two make a new set: collecting
forgets what was there, and recollecting goes on from the entries, which are the first occurrences
of what had been put in. -/
theorem Represents.perform {set : OrderedSet α} {put : List α} (h : set.Represents put)
    (operation : Operation α) : (set.perform operation).Represents (operation.record put) := by
  cases operation with
  | collect values => exact represents_ofList values
  | insert a => exact h.extend [a]
  | extend values => exact h.extend values
  | recollect select =>
    have taken := represents_ofList (select set.entries)
    rw [h.entries] at taken
    rwa [OrderedSet.perform, h.entries]

theorem Represents.performAll {set : OrderedSet α} {put : List α} (h : set.Represents put)
    (operations : List (Operation α)) :
    (operations.foldl OrderedSet.perform set).Represents
      (operations.foldl Operation.record put) := by
  induction operations generalizing set put with
  | nil => exact h
  | cons operation operations ih => exact ih (h.perform operation)

theorem represents_run (operations : List (Operation α)) :
    (run operations).Represents (recorded operations) :=
  (represents_ofList []).performAll operations

/-- Lists that are put in one after the other are put in as one. -/
theorem Represents.extendAll {set : OrderedSet α} {put : List α} (h : set.Represents put)
    (lists : List (List α)) :
    (lists.foldl OrderedSet.extend set).Represents (put ++ lists.flatten) := by
  induction lists generalizing set put with
  | nil => simpa using h
  | cons values lists ih => simpa using ih (h.extend values)

/-- A value is inserted exactly if it is not there, and nothing changes if it is. -/
theorem Coherent.insertIfNew {set : OrderedSet α} (h : set.Coherent) (a : α) :
    ((set.insertIfNew a).1 = true ↔ a ∉ set.entries)
      ∧ (a ∈ set.entries → (set.insertIfNew a).2 = set) := by
  rw [← h.seen_iff]
  cases present : set.seen a with
  | true => simp [OrderedSet.insertIfNew, present]
  | false => simp [OrderedSet.insertIfNew, present]

/-- A coherent set is determined by its entries, the test included. -/
theorem Coherent.ofList_entries {set : OrderedSet α} (h : set.Coherent) :
    ofList set.entries = set :=
  (coherent_ofList set.entries).ext h (entries_ofList h.nodup)

theorem Coherent.entries_reversed {set : OrderedSet α} (h : set.Coherent) :
    set.reversed.entries = set.entries.reverse :=
  entries_ofList (List.nodup_reverse.2 h.nodup)

/-- **A set through any run.** Whatever is done with sets, no entry is there twice, the test knows
exactly the entries, and the entries are the values put in, each at its first occurrence. Insertion
reports the values that were absent and leaves the set alone for others. Collecting the entries
again gives the same set, and in reverse order it gives them in reverse order. -/
theorem run_first_occurrences (operations : List (Operation α)) :
    (run operations).entries.Nodup
      ∧ (∀ a, (run operations).seen a = true ↔ a ∈ (run operations).entries)
      ∧ (run operations).entries = (recorded operations).eraseDups
      ∧ (∀ (first : List α) (lists : List (List α)),
          (lists.foldl extend (ofList first)).entries = (first ++ lists.flatten).eraseDups)
      ∧ (∀ a, (((run operations).insertIfNew a).1 = true ↔ a ∉ (run operations).entries)
          ∧ (a ∈ (run operations).entries →
            ((run operations).insertIfNew a).2 = run operations))
      ∧ ofList (run operations).entries = run operations
      ∧ (run operations).reversed.entries = (run operations).entries.reverse := by
  have reached := represents_run operations
  have coherent := reached.coherent
  refine ⟨coherent.nodup, coherent.seen_iff, reached.entries, ?_, coherent.insertIfNew,
    coherent.ofList_entries, coherent.entries_reversed⟩
  intro first lists
  exact ((represents_ofList first).extendAll lists).entries

end OrderedSet

end ScalaFacade
