import Mathlib.Data.List.Forall2
import Mathlib.Data.List.Perm.Basic
import ScalaFacade.Proofs.Json.Meaning

/-! # The order of entries

What a value means does not depend on the order of the entries of any object in it:

> if `v` and `w` differ in the order of entries somewhere inside, every format makes the same of
> both (`Reordered.accept?_eq`).

No format tells them apart, because it looks at an object only through what is found under each name
(`valuesOf`, `without`), and these do not see the order.

The induction is not over the place at which the order differs. A format may look at a part of a
value in ways of its own (the kind of a node, the null of an option, the empty content of a word),
and each of them would have to be carried through every layer. Instead, two values are `Alike` if
nothing that a format ever asks tells them apart, and what holds of *one layer* is enough: arrays of
alike elements are alike, and so are objects whose entries are alike up to their order
(`Layered.alike`). The induction over formats is done for that one layer, and the induction over
places only has to wrap it.

Duplicates are not exempt. An object with two entries under a name means nothing for a format that
looks for that name, in either order; for one that does not, both entries are ignored.
-/

set_option autoImplicit false

namespace ScalaFacade.Json

/-- Values that differ in the order of the entries of one object in them, anywhere inside. Several
objects, or the same one twice, are dealt with by going step by step. -/
inductive Reordered : Value → Value → Prop where
  | here {entries others : List (String × Value)} (order : entries.Perm others) :
      Reordered (.object entries) (.object others)
  | element {v w : Value} (before after : List Value) (inside : Reordered v w) :
      Reordered (.array (before ++ v :: after)) (.array (before ++ w :: after))
  | entry {v w : Value} (before after : List (String × Value)) (key : String)
      (inside : Reordered v w) :
      Reordered (.object (before ++ (key, v) :: after)) (.object (before ++ (key, w) :: after))

/-- No format tells two values apart, neither as a whole nor as a part of another value. The last
three fields are what formats ask of a part besides its meaning: whether it gives a kind, whether it
is null, and whether it is the empty content that a word may have. -/
structure Alike (v w : Value) : Prop where
  accept {α : Type} (format : Format α) (direct : Bool) :
    format.accept? direct v = format.accept? direct w
  kind (direct : Bool) : kindOf? direct v = kindOf? direct w
  null : v = .null ↔ w = .null
  blank : v = .object [] ↔ w = .object []

theorem Alike.refl (v : Value) : Alike v v := ⟨fun _ _ => rfl, fun _ => rfl, .rfl, .rfl⟩

/-- Lists of values that are alike up to their order. -/
def AlikeValues (vs ws : List Value) : Prop := ∃ us, List.Forall₂ Alike vs us ∧ us.Perm ws

/-- Entries that are alike up to their order. -/
def AlikeEntries (entries others : List (String × Value)) : Prop :=
  ∃ middle, List.Forall₂ (fun e f => e.1 = f.1 ∧ Alike e.2 f.2) entries middle ∧
    middle.Perm others

section

variable {entries others : List (String × Value)}

theorem AlikeEntries.length_eq (h : AlikeEntries entries others) : entries.length = others.length := by
  obtain ⟨middle, same, order⟩ := h
  rw [same.length_eq, order.length_eq]

/-- Under each name the same values are found, up to order and likeness. The likeness is followed
entry by entry; the order is left to the library's lemma about filtered permutations. -/
theorem AlikeEntries.valuesOf (h : AlikeEntries entries others) (name : String) :
    AlikeValues (valuesOf name entries) (valuesOf name others) := by
  obtain ⟨middle, same, order⟩ := h
  refine ⟨Json.valuesOf name middle, ?_, (order.filter _).map _⟩
  clear order
  induction same with
  | nil => exact .nil
  | @cons e f entries middle here _ ih =>
    by_cases key : e.1 = name
    · rw [valuesOf_cons_of_eq key, valuesOf_cons_of_eq (here.1 ▸ key)]
      exact .cons here.2 ih
    · rw [valuesOf_cons_of_ne key, valuesOf_cons_of_ne (here.1 ▸ key)]
      exact ih

theorem AlikeEntries.without (h : AlikeEntries entries others) (name : String) :
    AlikeEntries (without name entries) (without name others) := by
  obtain ⟨middle, same, order⟩ := h
  refine ⟨Json.without name middle, ?_, order.filter _⟩
  clear order
  induction same with
  | nil => exact .nil
  | @cons e f entries middle here _ ih =>
    by_cases key : e.1 = name
    · rw [without_cons_of_eq key, without_cons_of_eq (here.1 ▸ key)]
      exact ih
    · rw [without_cons_of_ne key, without_cons_of_ne (here.1 ▸ key)]
      exact .cons here ih

end

/-- The number of values is the same, and where there is one it is alike. Look-ups distinguish none,
one and several, and of several they ask nothing more. -/
theorem AlikeValues.cases {vs ws : List Value} (h : AlikeValues vs ws) :
    (vs = [] ∧ ws = []) ∨ (∃ v w, vs = [v] ∧ ws = [w] ∧ Alike v w) ∨
      ((∃ v v' rest, vs = v :: v' :: rest) ∧ ∃ w w' rest, ws = w :: w' :: rest) := by
  obtain ⟨us, same, order⟩ := h
  cases same with
  | nil => exact .inl ⟨rfl, order.nil_eq.symm⟩
  | @cons v u vs us here rest =>
    cases rest with
    | nil => exact .inr (.inl ⟨v, u, rfl, List.perm_singleton.1 order.symm, here⟩)
    | cons =>
      have length := order.length_eq
      match ws with
      | w :: w' :: ws => exact .inr (.inr ⟨⟨_, _, _, rfl⟩, w, w', ws, rfl⟩)
      | [] => simp at length
      | [_] => simp at length

/-! ## One layer

Values whose parts are alike are alike. The proof is an induction over formats in which no
hypothesis about the parts is needed but their likeness, so that formats of any nesting are
covered. -/

/-- Arrays of alike elements, or objects of alike entries. -/
inductive Layered : Value → Value → Prop where
  | array {vs ws : List Value} (elements : List.Forall₂ Alike vs ws) :
      Layered (.array vs) (.array ws)
  | object {entries others : List (String × Value)} (inside : AlikeEntries entries others) :
      Layered (.object entries) (.object others)

theorem wordOf?_other {α : Type} (direct : Bool) (ofWord : String → α) (word : String) {v : Value}
    (null : v ≠ .null) (blank : v ≠ .object []) :
    wordOf? direct ofWord (.object [(word, v)]) = none := by
  cases v with
  | null => exact absurd rfl null
  | object entries =>
    cases entries with
    | nil => exact absurd rfl blank
    | cons => rfl
  | _ => rfl

/-- A word depends on the only entry of an object, on its key and on whether its value is empty.
This is where `Alike.null` and `Alike.blank` are needed. -/
theorem wordOf?_alike {α : Type} (direct : Bool) (ofWord : String → α)
    {entries others : List (String × Value)} (h : AlikeEntries entries others) :
    wordOf? direct ofWord (.object entries) = wordOf? direct ofWord (.object others) := by
  obtain ⟨middle, same, order⟩ := h
  cases same with
  | nil => rw [← order.nil_eq]
  | @cons e f entries middle here rest =>
    cases rest with
    | nil =>
      obtain ⟨word, v⟩ := e
      obtain ⟨word', w⟩ := f
      obtain ⟨rfl, alike⟩ := here
      rw [List.perm_singleton.1 order.symm]
      change Alike v w at alike
      by_cases null : v = .null
      · rw [alike.null.1 null, null]
      · by_cases blank : v = .object []
        · rw [alike.blank.1 blank, blank]
        · rw [wordOf?_other direct ofWord word null blank,
            wordOf?_other direct ofWord word (mt alike.null.2 null) (mt alike.blank.2 blank)]
    | cons =>
      have length := order.length_eq
      match others with
      | entry :: entry' :: others => rw [wordOf?_several _ _ (by simp), wordOf?_several _ _ (by simp)]
      | [] => simp at length
      | [_] => simp at length

theorem mapM_alike {α : Type} (format : Format α) (direct : Bool) {vs ws : List Value}
    (h : List.Forall₂ Alike vs ws) :
    (vs.mapM fun v => format.accept? direct v) = ws.mapM fun w => format.accept? direct w := by
  induction h with
  | nil => rfl
  | cons here _ ih => rw [List.mapM_cons, List.mapM_cons, here.accept, ih]

/-- A record looks each field up and removes its entries before it looks for the next; what is left
is alike again, so the induction is over the fields. -/
theorem Fields.gather?_alike {π σ : Type} (fields : Fields π σ) (direct : Bool)
    {entries others : List (String × Value)} (h : AlikeEntries entries others) :
    fields.gather? direct entries = fields.gather? direct others := by
  cases fields with
  | done => rfl
  | field name format presence rest =>
    simp only [Fields.gather?]
    rw [rest.gather?_alike direct (h.without name)]
    obtain ⟨none, none'⟩ | ⟨v, w, one, one', alike⟩ |
      ⟨⟨_, _, _, many⟩, _, _, _, many'⟩ := (h.valuesOf name).cases
    · rw [none, none']
    · rw [one, one']
      simp only [alike.accept]
    · rw [many, many']

/-- Only the fields are compared and not the elements that are left over, which are alike but need
not be equal. A record only asks for their number. -/
theorem Fields.inOrder?_alike {π σ : Type} (fields : Fields π σ) (direct : Bool) {vs ws : List Value}
    (h : List.Forall₂ Alike vs ws) :
    (fields.inOrder? direct vs).map Prod.fst = (fields.inOrder? direct ws).map Prod.fst := by
  cases fields with
  | done => rfl
  | field name format presence rest =>
    cases h with
    | nil => rfl
    | @cons v w vs ws here others =>
      simp only [Fields.inOrder?, here.accept]
      cases format.accept? direct w with
      | none => rfl
      | some a =>
        have pair := congrArg (Option.map fun found => (a, found)) (rest.inOrder?_alike direct others)
        rw [Option.map_map, Option.map_map] at pair
        simp only [Option.bind_some, Option.map_map]
        exact pair

mutual

/-- **One layer of likeness is likeness for every format.** The cases follow the format. Formats for
scalars refuse both values, a list compares elements, a record looks its fields up, a node its
kind. -/
theorem Format.accept?_layered {α : Type} (format : Format α) (direct : Bool) {v w : Value}
    (h : Layered v w) : format.accept? direct v = format.accept? direct w := by
  match format with
  | .string | .boolean | .natural => cases h <;> rfl
  | .word ofWord =>
    cases h with
    | array => rfl
    | object inside => exact wordOf?_alike direct ofWord inside
  | .convert f inner => rw [Format.accept?, Format.accept?, inner.accept?_layered direct h]
  | .option inner =>
    have below := inner.accept?_layered direct h
    cases h <;> exact congrArg (Option.map some) below
  | .list inner =>
    cases h with
    | array elements => exact mapM_alike inner direct elements
    | object => rfl
  | .bare a =>
    cases h with
    | array elements => cases elements <;> rfl
    | object => rfl
  | .record name fields make =>
    cases h with
    | array elements =>
      have values := congrArg (Option.map make) (fields.inOrder?_alike direct elements)
      rw [Option.map_map, Option.map_map] at values
      rw [Format.accept?_record_array, Format.accept?_record_array, elements.length_eq]
      split
      · exact values
      · rfl
    | object inside => exact congrArg (Option.map make) (fields.gather?_alike direct inside)
  | .node name variants other =>
    cases h with
    | array elements =>
      cases elements with
      | nil => rfl
      | @cons v w vs ws here others =>
        simp only [Format.accept?, here.kind]
        congr 1
        funext tag
        exact variants.accept?_layered other tag (.array others)
    | object inside =>
      simp only [Format.accept?, tagged?]
      -- No kind, one kind or several; with one, its entries are taken out and the rest is alike.
      obtain ⟨none, none'⟩ | ⟨v, w, one, one', alike⟩ | ⟨⟨_, _, _, many⟩, _, _, _, many'⟩ :=
        (inside.valuesOf tagName).cases
      · rw [none, none']
      · rw [one, one']
        simp only [alike.kind]
        cases kindOf? direct w with
        | none => rfl
        | some tag => exact variants.accept?_layered other tag (.object (inside.without tagName))
      · rw [many, many']
termination_by structural format

theorem Variants.accept?_layered {α : Type} (variants : Variants α) (other : α) (tag : Tag)
    {v w : Value} (h : Layered v w) :
    variants.accept? other tag v = variants.accept? other tag w := by
  match variants with
  | .done =>
    cases h with
    | array elements => cases elements <;> rfl
    | object => rfl
  | .variant kinds format rest =>
    cases tag with
    | name kind =>
      simp only [Variants.accept?]
      rw [format.accept?_layered false h, rest.accept?_layered other (.name kind) h]
    | index n =>
      cases n with
      | zero => exact format.accept?_layered false h
      | succ n => exact rest.accept?_layered other (.index n) h
termination_by structural variants

end

theorem Layered.alike {v w : Value} (h : Layered v w) : Alike v w where
  accept format direct := format.accept?_layered direct h
  kind direct := by cases h <;> rfl
  null := by cases h <;> simp
  blank := by
    cases h with
    | array => simp
    | object inside =>
      have length := inside.length_eq
      rw [Value.object.injEq, Value.object.injEq, ← List.length_eq_zero_iff, length,
        List.length_eq_zero_iff]

/-! ## All layers

A place that is reordered is wrapped in layers, and each layer keeps likeness. -/

theorem forall₂_alike_refl (vs : List Value) : List.Forall₂ Alike vs vs :=
  List.forall₂_same.2 fun v _ => .refl v

/-- Each constructor is one layer: the reordered object itself, or an array or object around it
whose other parts are the same on both sides. -/
theorem Reordered.alike {v w : Value} (h : Reordered v w) : Alike v w := by
  have same (entries : List (String × Value)) :
      List.Forall₂ (fun e f : String × Value => e.1 = f.1 ∧ Alike e.2 f.2) entries entries :=
    List.forall₂_same.2 fun e _ => ⟨rfl, .refl e.2⟩
  induction h with
  | here order => exact (Layered.object ⟨_, same _, order⟩).alike
  | element before after _ ih =>
    exact (Layered.array
      (List.rel_append (forall₂_alike_refl before) (.cons ih (forall₂_alike_refl after)))).alike
  | @entry v w before after key _ ih =>
    have inside : AlikeEntries (before ++ (key, v) :: after) (before ++ (key, w) :: after) :=
      ⟨before ++ (key, w) :: after,
        List.rel_append (same before) (.cons ⟨rfl, ih⟩ (same after)), .refl _⟩
    exact (Layered.object inside).alike

/-- **The order of entries means nothing**, to any format and at any place in a value. Of what makes
two values alike this is the part that is of use outside; the rest was for the induction. -/
theorem Reordered.accept?_eq {v w : Value} (h : Reordered v w) {α : Type} (format : Format α)
    (direct : Bool) : format.accept? direct v = format.accept? direct w :=
  h.alike.accept format direct

end ScalaFacade.Json
