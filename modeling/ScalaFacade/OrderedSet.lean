/-! # Ordered sets

A set that remembers the order in which its entries were first inserted. The lines and types of a
facade are collected in such sets, so that each appears once, at its first place in the document.

A set is kept twice: as the list of its entries, and as a test for what is in it, which is all that
an insertion looks at. The two agree for every set that comes from the operations (`Coherent`), so
the view of a set is the list of its entries.
-/

set_option autoImplicit false

namespace ScalaFacade

/-- A set with its entries in the order of their first insertion. -/
structure OrderedSet (α : Type) where
  entries : List α
  /-- Which values are in the set. -/
  seen : α → Bool

namespace OrderedSet

variable {α : Type} [DecidableEq α]

/-- The set without entries. -/
def empty : OrderedSet α := ⟨[], fun _ => false⟩

/-- Whether a value is in the set. -/
def contains (set : OrderedSet α) (a : α) : Bool := set.seen a

/-- Inserts a value behind all others and says whether it was new. A value that is already there
changes nothing. -/
def insertIfNew (set : OrderedSet α) (a : α) : Bool × OrderedSet α :=
  if set.seen a then (false, set)
  else (true, ⟨set.entries ++ [a], fun b => decide (b = a) || set.seen b⟩)

/-- Inserts a value, unless it is already there. -/
def insert (set : OrderedSet α) (a : α) : OrderedSet α := (set.insertIfNew a).2

/-- Inserts the values of a list one after the other. -/
def extend (set : OrderedSet α) (values : List α) : OrderedSet α := values.foldl insert set

/-- The set of the values of a list. -/
def ofList (values : List α) : OrderedSet α := empty.extend values

/-- The number of entries. -/
def size (set : OrderedSet α) : Nat := set.entries.length

/-- Whether the set has no entries. -/
def isEmpty (set : OrderedSet α) : Bool := set.entries.isEmpty

/-- The set of the entries that satisfy `p`. -/
def filter (set : OrderedSet α) (p : α → Bool) : OrderedSet α := ofList (set.entries.filter p)

/-- The set of the same values, inserted in the reverse order. -/
def reversed (set : OrderedSet α) : OrderedSet α := ofList set.entries.reverse

/-- The entries of a set of texts, joined. -/
def join (set : OrderedSet String) (separator : String) : String :=
  separator.intercalate set.entries

/-! ## The two representations -/

/-- No value is entered twice, and the values that have been seen are the entries. -/
structure Coherent (set : OrderedSet α) : Prop where
  nodup : set.entries.Nodup
  seen_iff : ∀ a, set.seen a = true ↔ a ∈ set.entries

omit [DecidableEq α] in
theorem coherent_empty : (empty : OrderedSet α).Coherent where
  nodup := List.nodup_nil
  seen_iff a := by simp [empty]

theorem insert_of_seen {set : OrderedSet α} {a : α} (h : set.seen a = true) :
    set.insert a = set := by
  simp [insert, insertIfNew, h]

theorem insert_of_not_seen {set : OrderedSet α} {a : α} (h : set.seen a = false) :
    set.insert a = ⟨set.entries ++ [a], fun b => decide (b = a) || set.seen b⟩ := by
  simp [insert, insertIfNew, h]

omit [DecidableEq α] in
theorem Coherent.absent {set : OrderedSet α} (h : set.Coherent) {a : α} (new : set.seen a = false) :
    a ∉ set.entries := by
  rw [← h.seen_iff, new]
  exact Bool.false_ne_true

theorem Coherent.insert {set : OrderedSet α} (h : set.Coherent) (a : α) :
    (set.insert a).Coherent := by
  cases present : set.seen a with
  | true => rwa [insert_of_seen present]
  | false =>
    rw [insert_of_not_seen present]
    constructor
    · refine List.nodup_append.2 ⟨h.nodup, by simp, fun x hx y hy => ?_⟩
      rw [List.mem_singleton.1 hy]
      rintro rfl
      exact h.absent present hx
    · intro b
      simp [h.seen_iff b, or_comm]

theorem Coherent.extend {set : OrderedSet α} (h : set.Coherent) (values : List α) :
    (set.extend values).Coherent := by
  induction values generalizing set with
  | nil => exact h
  | cons a values ih => exact ih (h.insert a)

theorem coherent_ofList (values : List α) : (ofList values).Coherent :=
  coherent_empty.extend values

theorem coherent_filter (set : OrderedSet α) (p : α → Bool) : (set.filter p).Coherent :=
  coherent_ofList _

omit [DecidableEq α] in
/-- Sets with the same entries are the same. -/
theorem Coherent.ext {set other : OrderedSet α} (h : set.Coherent) (h' : other.Coherent)
    (same : set.entries = other.entries) : set = other := by
  have tests : set.seen = other.seen := by
    funext a
    rw [Bool.eq_iff_iff, h.seen_iff, h'.seen_iff, same]
  cases set
  cases other
  cases same
  cases tests
  rfl

/-! ## The entries after an operation -/

theorem contains_ofList {values : List α} {a : α} :
    (ofList values).contains a = true ↔ a ∈ (ofList values).entries :=
  (coherent_ofList values).seen_iff a

theorem entries_insert {set : OrderedSet α} (h : set.Coherent) (a : α) :
    (set.insert a).entries = if a ∈ set.entries then set.entries else set.entries ++ [a] := by
  cases present : set.seen a with
  | true => rw [insert_of_seen present, if_pos ((h.seen_iff a).1 present)]
  | false => rw [insert_of_not_seen present, if_neg (h.absent present)]

theorem mem_insert {set : OrderedSet α} (h : set.Coherent) {a b : α} :
    b ∈ (set.insert a).entries ↔ b ∈ set.entries ∨ b = a := by
  rw [entries_insert h]
  split
  · rename_i present
    constructor
    · exact Or.inl
    · rintro (there | rfl)
      · exact there
      · exact present
  · simp

theorem mem_extend {set : OrderedSet α} (h : set.Coherent) {values : List α} {b : α} :
    b ∈ (set.extend values).entries ↔ b ∈ set.entries ∨ b ∈ values := by
  induction values generalizing set with
  | nil => simp [extend]
  | cons a values ih =>
    rw [show set.extend (a :: values) = (set.insert a).extend values from rfl, ih (h.insert a),
      mem_insert h, List.mem_cons, or_assoc]

@[simp] theorem mem_ofList {values : List α} {b : α} :
    b ∈ (ofList values).entries ↔ b ∈ values := by
  rw [ofList, mem_extend coherent_empty]
  simp [empty]

theorem entries_extend {set : OrderedSet α} (h : set.Coherent) {values : List α}
    (distinct : (set.entries ++ values).Nodup) :
    (set.extend values).entries = set.entries ++ values := by
  induction values generalizing set with
  | nil => simp [extend]
  | cons a values ih =>
    have new : a ∉ set.entries := fun present =>
      (List.nodup_append.1 distinct).2.2 a present a List.mem_cons_self rfl
    have inserted : (set.insert a).entries = set.entries ++ [a] := by
      rw [entries_insert h, if_neg new]
    have split : set.entries ++ a :: values = (set.insert a).entries ++ values := by
      simp [inserted]
    rw [split] at distinct ⊢
    exact ih (h.insert a) distinct

/-- Values that are all different are entered as they are. -/
theorem entries_ofList {values : List α} (h : values.Nodup) : (ofList values).entries = values := by
  rw [ofList, entries_extend coherent_empty (by simpa [empty] using h)]
  rfl

end OrderedSet

end ScalaFacade
