import ScalaFacade.Proofs.Json.Meaning
import ScalaFacade.Proofs.Json.Undoing

/-! # Places in a value

To say that an unknown key in some object changes nothing, or that an unknown kind is kept as such,
one has to say where in a document that object stands and what the rest of the document makes of it.
A place is where a part of a value stands, together with the format that the part is decoded by:

* `hole.At format path plug` says that `plug` puts a part at the place `path` of a value of
  `format`, where it is decoded by `hole`.
* `hole.Builds format path build` says that `build` puts what the part means at the place `path` of
  what the value means.

The two run in parallel, one over values and one over meanings, with the same path. They are tied
together by `Format.At.meaning`:

> what a value means depends on the object at a place only through what that object means there.

Either the rest of the value is at fault already, and nothing that is put at the place will mend it,
or the meaning of the whole has that of the object at the same place. So a change that does not
alter the meaning of the object does not alter that of the whole, and one that does alters it there
and nowhere else.

The second half is about the object itself. What it means does not depend on entries that nobody
looks for (`Format.Ignores.accept?_insert`): in a record those under other keys than its fields, in
a node those under other keys than `kind` and the fields of its kind. Which keys these are may
depend on the entries that are there, so `Format.Ignores` is a relation with the entries in it and
not a list of names.

Only objects are put at a place. A place whose part is a string or a number could be stated in the
same way, but an entry can only be added to an object.
-/

set_option autoImplicit false

namespace ScalaFacade.Json

/-! ## Where the parts of a value are

Relations between formats and functions. They follow the ways in which `Format.accept?` goes from a
value to its parts, one constructor for each; a record has two, since it may be written as an object
or as an array, and so has a node. -/

/-- A step from a value to a part of it. -/
inductive Step where
  | item (index : Nat)
  | field (name : String)

/-- The fields hold one of this name and format. Of two fields of one name only the first counts, as
it does when entries are looked up. -/
inductive Fields.Has {β : Type} (inner : Format β) :
    {π σ : Type} → Fields π σ → (name : String) → Prop where
  | here {π σ : Type} {name : String} {presence : Presence β} {others : Fields π σ} :
      Fields.Has inner (.field name inner presence others) name
  | there {α π σ : Type} {name key : String} {format : Format α} {presence : Presence α}
      {others : Fields π σ} (other : name ≠ key) (rest : others.Has inner key) :
      Fields.Has inner (.field name format presence others) key

/-- The field after so many others has this name and format. -/
inductive Fields.HasAfter {β : Type} (inner : Format β) :
    {π σ : Type} → Fields π σ → (index : Nat) → (name : String) → Prop where
  | here {π σ : Type} {name : String} {presence : Presence β} {others : Fields π σ} :
      Fields.HasAfter inner (.field name inner presence others) 0 name
  | there {α π σ : Type} {name key : String} {index : Nat} {format : Format α}
      {presence : Presence α} {others : Fields π σ} (rest : others.HasAfter inner index key) :
      Fields.HasAfter inner (.field name format presence others) (index + 1) key

/-- `put` makes a value the one of the field of this name, next to some values of the others. -/
inductive Fields.Puts {β : Type} (inner : Format β) :
    {π σ : Type} → Fields π σ → (name : String) → (put : β → σ) → Prop where
  | here {π σ : Type} {name : String} {presence : Presence β} {others : Fields π σ} (rest : σ) :
      Fields.Puts inner (.field name inner presence others) name fun b => (b, rest)
  | there {α π σ : Type} {name key : String} {format : Format α} {presence : Presence α}
      {others : Fields π σ} {put : β → σ} (a : α) (rest : others.Puts inner key put) :
      Fields.Puts inner (.field name format presence others) key fun b => (a, put b)

/-- The format of a kind, however it is given: by one of its names or by its position in the
list. -/
def Variants.content? {α : Type} : Variants α → Tag → Option (Format α)
  | .done, _ => none
  | .variant kinds format others, tag =>
    match tag with
    | .name kind => if kind ∈ kinds then some format else others.content? (.name kind)
    | .index 0 => some format
    | .index (n + 1) => others.content? (.index n)

/-- `plug` puts a part that is decoded by `hole` at a place of a value of the format. The values
next to the place are arbitrary; they may be at fault. For a node, the entry `kind` has to be there
whatever is put at the place, which is why it is stated for all `x`: with the kind, the format
inside would change. -/
inductive Format.At {β : Type} (hole : Format β) :
    {α : Type} → Format α → (path : List Step) → (plug : Value → Value) → Prop where
  | here : Format.At hole hole [] id
  | convert {α γ : Type} {f : α → γ} {inner : Format α} {path : List Step} {plug : Value → Value}
      (inside : Format.At hole inner path plug) : Format.At hole (.convert f inner) path plug
  | option {α : Type} {inner : Format α} {path : List Step} {plug : Value → Value}
      (inside : Format.At hole inner path plug) : Format.At hole (.option inner) path plug
  | element {α : Type} {inner : Format α} {path : List Step} {plug : Value → Value}
      (before after : List Value) (inside : Format.At hole inner path plug) :
      Format.At hole (.list inner) (.item before.length :: path) fun x =>
        .array (before ++ plug x :: after)
  | entry {α γ π σ : Type} {name key : String} {fields : Fields π σ} {make : σ → α}
      {inner : Format γ} {path : List Step} {plug : Value → Value}
      (before after : List (String × Value)) (field : fields.Has inner key)
      (inside : Format.At hole inner path plug) :
      Format.At hole (.record name fields make) (.field key :: path) fun x =>
        .object (before ++ (key, plug x) :: after)
  | item {α γ π σ : Type} {name key : String} {fields : Fields π σ} {make : σ → α}
      {inner : Format γ} {path : List Step} {plug : Value → Value} (before after : List Value)
      (field : fields.HasAfter inner before.length key) (inside : Format.At hole inner path plug) :
      Format.At hole (.record name fields make) (.field key :: path) fun x =>
        .array (before ++ plug x :: after)
  | content {α : Type} {name : String} {variants : Variants α} {other : α} {tag : Tag}
      {inner : Format α} {path : List Step} {entries others : Value → List (String × Value)}
      (known : variants.content? tag = some inner)
      (tagged : ∀ x, tagged? false (entries x) = some (tag, others x))
      (inside : Format.At hole inner path fun x => .object (others x)) :
      Format.At hole (.node name variants other) path fun x => .object (entries x)
  | items {α : Type} {name : String} {variants : Variants α} {other : α} {kind : Value} {tag : Tag}
      {inner : Format α} {path : List Step} {elements : Value → List Value}
      (known : variants.content? tag = some inner) (tagged : kindOf? false kind = some tag)
      (inside : Format.At hole inner path fun x => .array (elements x)) :
      Format.At hole (.node name variants other) path fun x => .array (kind :: elements x)

/-- `build` puts a value of `hole` at a place of a value of the format, next to some other values. -/
inductive Format.Builds {β : Type} (hole : Format β) :
    {α : Type} → Format α → (path : List Step) → (build : β → α) → Prop where
  | here : Format.Builds hole hole [] fun b => b
  | convert {α γ : Type} {f : α → γ} {inner : Format α} {path : List Step} {build : β → α}
      (inside : Format.Builds hole inner path build) :
      Format.Builds hole (.convert f inner) path fun b => f (build b)
  | option {α : Type} {inner : Format α} {path : List Step} {build : β → α}
      (inside : Format.Builds hole inner path build) :
      Format.Builds hole (.option inner) path fun b => some (build b)
  | element {α : Type} {inner : Format α} {path : List Step} {build : β → α} (before after : List α)
      (inside : Format.Builds hole inner path build) :
      Format.Builds hole (.list inner) (.item before.length :: path) fun b =>
        before ++ build b :: after
  | field {α γ π σ : Type} {name key : String} {fields : Fields π σ} {make : σ → α}
      {inner : Format γ} {path : List Step} {put : γ → σ} {build : β → γ}
      (field : fields.Puts inner key put) (inside : Format.Builds hole inner path build) :
      Format.Builds hole (.record name fields make) (.field key :: path) fun b =>
        make (put (build b))
  | content {α : Type} {name : String} {variants : Variants α} {other : α} {tag : Tag}
      {inner : Format α} {path : List Step} {build : β → α}
      (known : variants.content? tag = some inner) (inside : Format.Builds hole inner path build) :
      Format.Builds hole (.node name variants other) path build

/-! ## One more entry

What look-ups by name make of an entry in the middle of others. -/

section

variable {key name : String} {v : Value} {before after : List (String × Value)}

theorem valuesOf_insert_eq :
    valuesOf key (before ++ (key, v) :: after) = valuesOf key before ++ v :: valuesOf key after := by
  simp [valuesOf]

theorem without_insert_eq :
    without key (before ++ (key, v) :: after) = without key (before ++ after) := by
  simp [without]

theorem valuesOf_insert_ne (h : key ≠ name) :
    valuesOf name (before ++ (key, v) :: after) = valuesOf name (before ++ after) := by
  simp [valuesOf, h]

theorem without_insert_ne (h : key ≠ name) :
    without name (before ++ (key, v) :: after) =
      without name before ++ (key, v) :: without name after := by
  simp [without, h]

end

/-! ## What a place contributes -/

/-- The meaning of a whole depends on the object at a place through its meaning there, which is put
into the whole in one of the ways that `way` allows. The first alternative is that the whole means
nothing, whatever the object is.

`direct` is found along the way: it is that of the whole down to the first node, and `false`
below. -/
def Depends {α β : Type} (hole : Format β) (way : (β → α) → Prop)
    (whole : List (String × Value) → Option α) : Prop :=
  (∀ entries, whole entries = none) ∨
    ∃ (direct : Bool) (build : β → α), way build ∧ ∀ entries,
      whole entries = (hole.accept? direct (.object entries)).map build

section

variable {α β γ δ : Type} {hole : Format β} {way : (β → α) → Prop} {result : (β → δ) → Prop}
  {whole : List (String × Value) → Option α}

theorem Depends.congr {other : List (String × Value) → Option α} (h : Depends hole way whole)
    (same : ∀ entries, other entries = whole entries) : Depends hole way other := by
  rwa [funext same]

theorem Depends.weaken {other : (β → α) → Prop} (h : Depends hole way whole)
    (keeps : ∀ build, way build → other build) : Depends hole other whole :=
  h.imp id fun ⟨direct, build, allowed, same⟩ => ⟨direct, build, keeps build allowed, same⟩

theorem Depends.map (h : Depends hole way whole) (f : α → δ)
    (keeps : ∀ build, way build → result fun b => f (build b)) :
    Depends hole result fun entries => (whole entries).map f := by
  obtain failed | ⟨direct, build, allowed, same⟩ := h
  · exact .inl fun entries => congrArg (Option.map f) (failed entries)
  · refine .inr ⟨direct, fun b => f (build b), keeps build allowed, fun entries => ?_⟩
    simp only [same, Option.map_map]
    rfl

/-- What comes before the place does not depend on it. It may be at fault, and then so is the
whole. -/
theorem Depends.after (h : Depends hole way whole) (first : Option γ) (f : γ → α → δ)
    (keeps : ∀ c build, way build → result fun b => f c (build b)) :
    Depends hole result fun entries => first.bind fun c => (whole entries).map (f c) := by
  cases first with
  | none => exact .inl fun _ => rfl
  | some c => exact h.map (f c) (keeps c)

/-- What comes behind the place does not depend on it. -/
theorem Depends.before (h : Depends hole way whole) (last : Option γ) (f : α → γ → δ)
    (keeps : ∀ c build, way build → result fun b => f (build b) c) :
    Depends hole result fun entries => (whole entries).bind fun a => last.map (f a) := by
  cases last with
  | none => exact .inl fun entries => by simp
  | some c =>
    refine (h.map (fun a => f a c) (keeps c)).congr fun entries => ?_
    cases whole entries <;> rfl

/-- An element of a list. The elements before and behind it are accepted or refused on their own,
and the position of the place in the result is that in the value. -/
theorem Depends.mapM {accept : Value → Option α} {plug : Value → Value}
    (h : Depends hole way fun entries => accept (plug (.object entries))) (before after : List Value) :
    Depends hole
      (fun build => ∃ (front back : List α) (inner : β → α), front.length = before.length ∧
        way inner ∧ build = fun b => front ++ inner b :: back)
      fun entries => (before ++ plug (.object entries) :: after).mapM accept := by
  -- Over the elements before the place, each of which goes in front of what is known for the rest.
  induction before with
  | nil =>
    refine (h.before (after.mapM accept) List.cons ?_).congr fun entries => ?_
    · intro back inner allowed
      exact ⟨[], back, inner, rfl, allowed, rfl⟩
    · rw [List.nil_append, List.mapM_cons]
      cases accept (plug (.object entries)) <;> cases after.mapM accept <;> rfl
  | cons v before ih =>
    refine (ih.after (accept v) List.cons ?_).congr fun entries => ?_
    · rintro a _ ⟨front, back, inner, length, allowed, rfl⟩
      exact ⟨a :: front, back, inner, congrArg (· + 1) length, allowed, rfl⟩
    · rw [List.cons_append, List.mapM_cons]
      cases accept v <;> cases (before ++ plug (.object entries) :: after).mapM accept <;> rfl

end

/-- A field is put among some values of the other fields. -/
def Fields.PutsBy {β γ π σ : Type} (fields : Fields π σ) (inner : Format γ) (key : String)
    (way : (β → γ) → Prop) (build : β → σ) : Prop :=
  ∃ (put : γ → σ) (value : β → γ), fields.Puts inner key put ∧ way value ∧
    build = fun b => put (value b)

section

variable {β γ : Type} {hole : Format β} {inner : Format γ} {way : (β → γ) → Prop} {direct : Bool}
  {plug : Value → Value}

/-- A field of an object. Going from field to field, entries under other names are removed around
the place, so the statement is for any entries before and behind it. -/
theorem Fields.Has.depends {π σ : Type} {fields : Fields π σ} {key : String}
    (h : fields.Has inner key)
    (inside : Depends hole way fun entries => inner.accept? direct (plug (.object entries)))
    (before after : List (String × Value)) :
    Depends hole (fields.PutsBy inner key way) fun entries =>
      fields.gather? direct (before ++ (key, plug (.object entries)) :: after) := by
  induction h generalizing before after with
  | @here π σ name presence others =>
    simp only [Fields.gather?, valuesOf_insert_eq, without_insert_eq]
    -- A second entry under the name of the field is a fault, whatever is put at the place.
    cases valuesOf name before with
    | cons _ more => cases more <;> exact .inl fun _ => rfl
    | nil =>
      cases valuesOf name after with
      | cons => exact .inl fun _ => rfl
      | nil =>
        refine inside.before (others.gather? direct (without name (before ++ after))) Prod.mk ?_
        intro rest value allowed
        exact ⟨_, value, .here rest, allowed, rfl⟩
  | @there α π σ name key format presence others other rest ih =>
    simp only [Fields.gather?, valuesOf_insert_ne other.symm, without_insert_ne other.symm]
    refine (ih (without name before) (without name after)).after _ Prod.mk ?_
    rintro a _ ⟨put, value, there, allowed, rfl⟩
    exact ⟨_, value, .there a there, allowed, rfl⟩

/-- A field of an array. -/
theorem Fields.HasAfter.depends {π σ : Type} {fields : Fields π σ} {index : Nat} {key : String}
    (h : fields.HasAfter inner index key)
    (inside : Depends hole way fun entries => inner.accept? direct (plug (.object entries)))
    (before after : List Value) (length : before.length = index) :
    Depends hole (fields.PutsBy inner key way) fun entries =>
      (fields.inOrder? direct (before ++ plug (.object entries) :: after)).map Prod.fst := by
  induction h generalizing before with
  | @here π σ name presence others =>
    cases List.length_eq_zero_iff.1 length
    refine (inside.before ((others.inOrder? direct after).map Prod.fst) Prod.mk ?_).congr
      fun entries => ?_
    · intro rest value allowed
      exact ⟨_, value, .here rest, allowed, rfl⟩
    · simp only [List.nil_append, Fields.inOrder?]
      cases inner.accept? direct (plug (.object entries)) <;>
        cases others.inOrder? direct after <;> rfl
  | @there α π σ name key index format presence others rest ih =>
    cases before with
    | nil => cases length
    | cons v before =>
      refine ((ih before (Nat.succ.inj length)).after (format.accept? direct v) Prod.mk ?_).congr
        fun entries => ?_
      · rintro a _ ⟨put, value, there, allowed, rfl⟩
        exact ⟨_, value, .there a there, allowed, rfl⟩
      · simp only [List.cons_append, Fields.inOrder?]
        cases format.accept? direct v <;>
          cases others.inOrder? direct (before ++ plug (.object entries) :: after) <;> rfl

end

/-- Whether a kind is given by its position. -/
def Tag.isIndex : Tag → Bool
  | .name _ => false
  | .index _ => true

/-- A text that is read directly cannot give the kind of a node by its position. Apart from that,
the kind is the same for both ways of reading. -/
theorem kindOf?_of_tag {v : Value} {tag : Tag} (h : kindOf? false v = some tag) (direct : Bool) :
    kindOf? direct v = if direct && tag.isIndex then none else some tag := by
  cases v with
  | string kind =>
    cases h
    simp [kindOf?, Tag.isIndex]
  | number n =>
    cases n with
    | integer i =>
      cases i with
      | ofNat n =>
        cases h
        cases direct <;> rfl
      | negSucc => cases h
    | float => cases h
  | _ => cases h

theorem tagged?_of_tag {entries others : List (String × Value)} {tag : Tag}
    (h : tagged? false entries = some (tag, others)) (direct : Bool) :
    tagged? direct entries = if direct && tag.isIndex then none else some (tag, others) := by
  unfold tagged? at h ⊢
  split at h
  · obtain ⟨found, kind, same⟩ := Option.map_eq_some_iff.1 h
    cases same
    rw [kindOf?_of_tag kind]
    split <;> rfl
  · cases h

/-- The content of a node is decoded by the format of its kind, and by none if the kind is unknown:
then it only matters whether the content is an array with something in it. -/
theorem Variants.accept?_eq_elim {α : Type} (variants : Variants α) (other : α) (tag : Tag)
    (v : Value) :
    variants.accept? other tag v =
      (variants.content? tag).elim (bareOf? other v) fun inner => inner.accept? false v := by
  match variants, tag with
  | .done, _ => rfl
  | .variant kinds format others, .name kind =>
    simp only [Variants.accept?, Variants.content?]
    split
    · rfl
    · exact others.accept?_eq_elim other (.name kind) v
  | .variant kinds format others, .index 0 => rfl
  | .variant kinds format others, .index (n + 1) => exact others.accept?_eq_elim other (.index n) v

theorem Variants.accept?_known {α : Type} {variants : Variants α} {tag : Tag} {inner : Format α}
    (known : variants.content? tag = some inner) (other : α) (v : Value) :
    variants.accept? other tag v = inner.accept? false v := by
  rw [accept?_eq_elim, known, Option.elim_some]

theorem Variants.accept?_unknown {α : Type} {variants : Variants α} {tag : Tag}
    (unknown : variants.content? tag = none) (other : α) (v : Value) :
    variants.accept? other tag v = bareOf? other v := by
  rw [accept?_eq_elim, unknown, Option.elim_none]

theorem Variants.content?_name_eq_none {α : Type} {variants : Variants α} {kind : String}
    (unknown : kind ∉ variants.kinds) : variants.content? (.name kind) = none := by
  match variants with
  | .done => rfl
  | .variant kinds format others =>
    rw [Variants.kinds, List.mem_append, not_or] at unknown
    rw [Variants.content?, if_neg unknown.1]
    exact content?_name_eq_none unknown.2

section

variable {α β : Type} {hole : Format β} {format : Format α} {path : List Step}
  {plug : Value → Value}

theorem Format.At.plug_ne_null (h : hole.At format path plug) (entries : List (String × Value)) :
    plug (.object entries) ≠ .null := by
  induction h with
  | here => exact nofun
  | convert _ ih | option _ ih => exact ih
  | _ => exact nofun

/-- **What a value means depends on the object at a place only through what that means there.** By
induction on the place, from the object outwards; each case adds the values next to the place, which
do not depend on it. -/
theorem Format.At.meaning (h : hole.At format path plug) (direct : Bool) :
    Depends hole (hole.Builds format path) fun entries =>
      format.accept? direct (plug (.object entries)) := by
  induction h generalizing direct with
  | here => exact .inr ⟨direct, fun b => b, .here, fun _ => Option.map_id_apply.symm⟩
  | convert inside ih => exact (ih direct).map _ fun _ => .convert
  | option inside ih =>
    exact ((ih direct).map some fun _ => .option).congr fun entries =>
      Format.accept?_option _ direct (inside.plug_ne_null entries)
  | element before after inside ih =>
    refine ((ih direct).mapM before after).weaken ?_
    rintro _ ⟨front, back, value, length, built, rfl⟩
    rw [← length]
    exact .element front back built
  | entry before after field inside ih =>
    refine (field.depends (ih direct) before after).map _ ?_
    rintro _ ⟨put, value, there, built, rfl⟩
    exact .field there built
  | @item α γ π σ name key fields make inner path plug before after field inside ih =>
    simp only [Format.accept?_record_array, List.length_append, List.length_cons]
    -- An array that is too long for its record is refused whatever stands at the place.
    split
    · refine ((field.depends (ih direct) before after rfl).map make ?_).congr fun entries => ?_
      · rintro _ ⟨put, value, there, built, rfl⟩
        exact .field there built
      · rw [Option.map_map]
        rfl
    · exact .inl fun _ => rfl
  | @content α name variants other tag inner path entries others known tagged inside ih =>
    -- A kind that is given by its position is refused in a text that is read directly. Otherwise
    -- the content is decoded, never read directly.
    simp only [Format.accept?, tagged?_of_tag (tagged _)]
    split
    · exact .inl fun _ => rfl
    · exact ((ih false).weaken fun _ => .content known).congr fun entries =>
        Variants.accept?_known known other _
  | @items α name variants other kind tag inner path elements known tagged inside ih =>
    simp only [Format.accept?, kindOf?_of_tag tagged]
    split
    · exact .inl fun _ => rfl
    · exact ((ih false).weaken fun _ => .content known).congr fun entries =>
        Variants.accept?_known known other _

end

/-! ## What nobody looks for

Which keys are looked for in an object. In a record they are those of its fields, in a node also
`kind`; the fields are then those of the format that the kind selects. -/

/-- An object with these entries is decoded without looking for the key. Nodes have three cases,
because without a kind, or with an unknown one, nothing else is looked for at all. -/
inductive Format.Ignores (key : String) :
    {α : Type} → Format α → (entries : List (String × Value)) → Prop where
  | record {α π σ : Type} {name : String} {fields : Fields π σ} {make : σ → α}
      {entries : List (String × Value)} (other : key ∉ fields.names) :
      Format.Ignores key (.record name fields make) entries
  | convert {α γ : Type} {f : α → γ} {inner : Format α} {entries : List (String × Value)}
      (inside : Format.Ignores key inner entries) : Format.Ignores key (.convert f inner) entries
  | bare {α : Type} {a : α} {entries : List (String × Value)} :
      Format.Ignores key (.bare a) entries
  | known {α : Type} {name : String} {variants : Variants α} {other : α} {tag : Tag}
      {inner : Format α} {entries others : List (String × Value)} (apart : key ≠ tagName)
      (tagged : tagged? false entries = some (tag, others))
      (found : variants.content? tag = some inner) (inside : Format.Ignores key inner others) :
      Format.Ignores key (.node name variants other) entries
  | unknown {α : Type} {name : String} {variants : Variants α} {other : α} {tag : Tag}
      {entries others : List (String × Value)} (apart : key ≠ tagName)
      (tagged : tagged? false entries = some (tag, others))
      (missing : variants.content? tag = none) :
      Format.Ignores key (.node name variants other) entries
  | untagged {α : Type} {name : String} {variants : Variants α} {other : α}
      {entries : List (String × Value)} (apart : key ≠ tagName)
      (untagged : tagged? false entries = none) :
      Format.Ignores key (.node name variants other) entries

section

variable {key : String} {before after : List (String × Value)}

theorem without_append (name : String) :
    without name (before ++ after) = without name before ++ without name after :=
  List.filter_append ..

theorem Fields.gather?_insert {π σ : Type} {fields : Fields π σ} (other : key ∉ fields.names)
    (direct : Bool) (before after : List (String × Value)) (v : Value) :
    fields.gather? direct (before ++ (key, v) :: after) = fields.gather? direct (before ++ after) := by
  match fields with
  | .done => rfl
  | .field name format presence others =>
    rw [Fields.names, List.mem_cons, not_or] at other
    rw [Fields.gather?, Fields.gather?, valuesOf_insert_ne other.1, without_insert_ne other.1,
      others.gather?_insert other.2, without_append]

/-- An entry under another key does not change the kind and turns up among the other entries, at the
same place. -/
theorem tagged?_insert (apart : key ≠ tagName) (direct : Bool) (v : Value) :
    tagged? direct (before ++ (key, v) :: after) =
      (tagged? direct (before ++ after)).map fun found =>
        (found.1, without tagName before ++ (key, v) :: without tagName after) := by
  unfold tagged?
  rw [valuesOf_insert_ne apart, without_insert_ne apart]
  match valuesOf tagName (before ++ after) with
  | [] => rfl
  | [kind] =>
    show Option.map _ _ = Option.map _ (Option.map _ _)
    rw [Option.map_map]
    rfl
  | _ :: _ :: _ => rfl

theorem others_of_tagged? {entries others : List (String × Value)} {direct : Bool} {tag : Tag}
    (h : tagged? direct entries = some (tag, others)) : others = without tagName entries := by
  unfold tagged? at h
  split at h
  · obtain ⟨found, -, same⟩ := Option.map_eq_some_iff.1 h
    cases same
    rfl
  · cases h

theorem tagged?_eq_none {entries : List (String × Value)} (h : tagged? false entries = none)
    (direct : Bool) : tagged? direct entries = none := by
  cases direct with
  | false => exact h
  | true =>
    unfold tagged? at h ⊢
    split at h
    · next v one =>
      rw [Option.map_eq_none_iff] at h ⊢
      unfold kindOf? at h ⊢
      split at h <;> simp_all
    · rfl

/-- **An entry that nobody looks for changes nothing**, whatever its value and wherever it stands
among the others. By induction on the reason why it is not looked for; below a node, the entry
stands among those without the kind. -/
theorem Format.Ignores.accept?_insert {α : Type} {format : Format α}
    (h : format.Ignores key (before ++ after)) (direct : Bool) (v : Value) :
    format.accept? direct (.object (before ++ (key, v) :: after)) =
      format.accept? direct (.object (before ++ after)) := by
  generalize same : before ++ after = entries at h
  induction h generalizing before after direct with
  | record other =>
    rw [Format.accept?, Format.accept?, ← same, Fields.gather?_insert other]
  | convert inside ih => rw [Format.accept?, Format.accept?, ih direct same]
  | bare => rfl
  | @known α name variants other tag inner entries others apart tagged found inside ih =>
    rw [Format.accept?, Format.accept?, tagged?_insert apart, same, tagged?_of_tag tagged]
    split
    · rfl
    · simp only [Option.map_some, Option.bind_some, Variants.accept?_known found]
      apply ih
      rw [← without_append, same, others_of_tagged? tagged]
  | @unknown α name variants other tag entries others apart tagged missing =>
    rw [Format.accept?, Format.accept?, tagged?_insert apart, same, tagged?_of_tag tagged]
    split
    · rfl
    · simp only [Option.map_some, Option.bind_some, Variants.accept?_unknown missing]
      rfl
  | untagged apart untagged =>
    rw [Format.accept?, Format.accept?, tagged?_insert apart, same, tagged?_eq_none untagged]
    rfl

end

/-- An object whose one entry `kind` is a word that is not known stands for what has no word. -/
theorem Format.accept?_unknown {α : Type} {variants : Variants α} {kind : String}
    (unknown : kind ∉ variants.kinds) (name : String) (other : α) {entries : List (String × Value)}
    (one : valuesOf tagName entries = [.string kind]) (direct : Bool) :
    (Format.node name variants other).accept? direct (.object entries) = some other := by
  rw [Format.accept?, tagged?, one]
  exact Variants.accept?_unknown (Variants.content?_name_eq_none unknown) other _

/-- Where the kind is a word it does not matter whether the text is read directly. -/
theorem Format.accept?_direct {α : Type} {kind : String} (name : String) (variants : Variants α)
    (other : α) {entries : List (String × Value)}
    (one : valuesOf tagName entries = [.string kind]) (direct : Bool) :
    (Format.node name variants other).accept? direct (.object entries) =
      (Format.node name variants other).accept? false (.object entries) := by
  rw [Format.accept?, Format.accept?, tagged?, tagged?, one]
  rfl

end ScalaFacade.Json
