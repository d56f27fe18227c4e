import ScalaFacade.Json.Container
import ScalaFacade.Json.Format

/-! # Printed JSON

Compact texts of JSON values, and the fact that they are read back:

> a printed value, with anything behind it, is read as the value, and what stands behind it is left
> (`readValue_text`).

This is one half of what is known about reading, and the one with a printer in it: from the value to
the text and back. It is the ground that canonical texts of documents stand on, and the source of
concrete texts wherever one is needed, since a printed text is known to hold its value without
running the reader. The other half, what can be said of a text that happens to have been read, is
about texts of any spelling and does not use this.

The values are those of `Plain`, which has neither null nor numbers. Documents need neither, and
what is left has a property that the statement rests on: **the end of every printed value can be
seen from the value itself.** So nothing has to be assumed about what follows. A number does not
have that property, since a digit behind it would be read as part of it.

The way there is that of the reader: characters, strings, one round of a container, whole
containers, values. The reader carries two bounds, one on nesting and one on the rounds of a loop.
Both become hypotheses on the value and its text, `depth` and `room`, and both go down along the
value (`Plain.depth_array_le_iff`, `Plain.room_array`).
-/

set_option autoImplicit false

namespace ScalaFacade.Json

/-- A JSON value without null and numbers. It is a type of its own and not a predicate on values, so
that printing is total and induction over it has the cases that occur. -/
inductive Plain where
  | boolean (value : Bool)
  | string (value : String)
  | array (elements : List Plain)
  | object (entries : List (String × Plain))

namespace Plain

mutual

/-- The JSON value that a plain value is. -/
def value : Plain → Value
  | .boolean b => .boolean b
  | .string s => .string s
  | .array elements => .array (elementValues elements)
  | .object entries => .object (entryValues entries)

def elementValues : List Plain → List Value
  | [] => []
  | p :: elements => p.value :: elementValues elements

def entryValues : List (String × Plain) → List (String × Value)
  | [] => []
  | (key, p) :: entries => (key, p.value) :: entryValues entries

end

theorem elementValues_eq_map (elements : List Plain) :
    elementValues elements = elements.map value := by
  induction elements with
  | nil => rfl
  | cons p elements ih => rw [elementValues, ih, List.map_cons]

theorem entryValues_eq_map (entries : List (String × Plain)) :
    entryValues entries = entries.map fun entry => (entry.1, entry.2.value) := by
  induction entries with
  | nil => rfl
  | cons entry entries ih => rw [entryValues, ih, List.map_cons]

/-! ## Nesting

The depth of a value as the reader counts it. The bound on an array is stated as one on its
elements, which is the form in which an induction over the depth uses it. -/

mutual

/-- The number of arrays and objects inside each other. -/
def depth : Plain → Nat
  | .boolean _ | .string _ => 0
  | .array elements => elementsDepth elements + 1
  | .object entries => entriesDepth entries + 1

def elementsDepth : List Plain → Nat
  | [] => 0
  | p :: elements => max p.depth (elementsDepth elements)

def entriesDepth : List (String × Plain) → Nat
  | [] => 0
  | (_, p) :: entries => max p.depth (entriesDepth entries)

end

theorem elementsDepth_le_iff {elements : List Plain} {n : Nat} :
    elementsDepth elements ≤ n ↔ ∀ p ∈ elements, p.depth ≤ n := by
  induction elements with
  | nil => simp [elementsDepth]
  | cons p elements ih => rw [elementsDepth, Nat.max_le, ih, List.forall_mem_cons]

theorem entriesDepth_le_iff {entries : List (String × Plain)} {n : Nat} :
    entriesDepth entries ≤ n ↔ ∀ entry ∈ entries, entry.2.depth ≤ n := by
  induction entries with
  | nil => simp [entriesDepth]
  | cons entry entries ih => rw [entriesDepth, Nat.max_le, ih, List.forall_mem_cons]

theorem depth_array_le_iff {elements : List Plain} {n : Nat} :
    (array elements).depth ≤ n + 1 ↔ ∀ p ∈ elements, p.depth ≤ n := by
  rw [depth, Nat.add_le_add_iff_right, elementsDepth_le_iff]

theorem depth_object_le_iff {entries : List (String × Plain)} {n : Nat} :
    (object entries).depth ≤ n + 1 ↔ ∀ entry ∈ entries, entry.2.depth ≤ n := by
  rw [depth, Nat.add_le_add_iff_right, entriesDepth_le_iff]

/-! ## Nodes and optional entries

Two shapes that documents are printed with: an object that starts with its kind, and an entry that
is left out where there is nothing to say. -/

/-- An object with a tag in front of its entries. -/
def node (kind : String) (entries : List (String × Plain)) : Plain :=
  .object ((tagName, .string kind) :: entries)

theorem depth_node_le_iff {kind : String} {entries : List (String × Plain)} {n : Nat} :
    (node kind entries).depth ≤ n + 1 ↔ ∀ entry ∈ entries, entry.2.depth ≤ n := by
  rw [node, depth_object_le_iff, List.forall_mem_cons]
  simp [depth]

/-- The entry of an optional value. -/
def optional {α : Type} (key : String) (printed : α → Plain) :
    Option α → List (String × Plain)
  | none => []
  | some a => [(key, printed a)]

end Plain

/-! ## Texts

A text is a list of characters, since that is what the reader takes. There is no white space in it,
and a character is only escaped if it has to be. -/

/-- The letter that stands for a character behind a backslash. -/
def shortEscape? (c : Char) : Option Char :=
  if c = '"' then some '"'
  else if c = '\\' then some '\\'
  else if c = '\x08' then some 'b'
  else if c = '\x0c' then some 'f'
  else if c = '\n' then some 'n'
  else if c = '\r' then some 'r'
  else if c = '\t' then some 't'
  else none

/-- A character as it is written in a string. Only control characters, the quote and the backslash
are not written as they are. -/
def escape (c : Char) : List Char :=
  match shortEscape? c with
  | some letter => ['\\', letter]
  | none =>
    if c.toNat < 0x20 then
      ['\\', 'u', '0', '0', Nat.digitChar (c.toNat / 16), Nat.digitChar (c.toNat % 16)]
    else [c]

/-- A string between its quotes. -/
def quoted (s : String) : List Char := '"' :: (s.toList.flatMap escape ++ ['"'])

/-- What stands in front of an element or entry. -/
def separator (first : Bool) : List Char := if first then [] else [',']

namespace Plain

mutual

/-- The text of a plain value, without any white space. -/
def text : Plain → List Char
  | .boolean true => ['t', 'r', 'u', 'e']
  | .boolean false => ['f', 'a', 'l', 's', 'e']
  | .string s => quoted s
  | .array elements => '[' :: (elementsText true elements ++ [']'])
  | .object entries => '{' :: (entriesText true entries ++ ['}'])

def elementsText : (first : Bool) → List Plain → List Char
  | _, [] => []
  | first, p :: elements => separator first ++ (p.text ++ elementsText false elements)

def entriesText : (first : Bool) → List (String × Plain) → List Char
  | _, [] => []
  | first, (key, p) :: entries =>
    separator first ++ (quoted key ++ ':' :: (p.text ++ entriesText false entries))

end

/-- A printed value starts with a character that is neither a blank nor the end of an array. The
reader looks for both before it looks for a value, so that this is all it takes for an element to be
found where it stands. -/
theorem text_head (p : Plain) :
    ∃ c s, p.text = c :: s ∧ isSpace c = false ∧ c ≠ ']' := by
  cases p with
  | boolean b => cases b <;> exact ⟨_, _, rfl, by decide, by decide⟩
  | string s => exact ⟨'"', _, rfl, by decide, by decide⟩
  | array elements => exact ⟨'[', _, rfl, by decide, by decide⟩
  | object entries => exact ⟨'{', _, rfl, by decide, by decide⟩

/-- An array has no more elements than its text has characters: each element has at least one. -/
theorem length_le_elementsText (first : Bool) (elements : List Plain) :
    elements.length ≤ (elementsText first elements).length := by
  induction elements generalizing first with
  | nil => exact Nat.le_refl 0
  | cons p elements ih =>
    obtain ⟨c, s, head, -, -⟩ := p.text_head
    have below := ih false
    simp only [elementsText, head, List.length_append, List.length_cons]
    omega

theorem length_le_entriesText (first : Bool) (entries : List (String × Plain)) :
    entries.length ≤ (entriesText first entries).length := by
  induction entries generalizing first with
  | nil => exact Nat.le_refl 0
  | cons entry entries ih =>
    have below := ih false
    simp only [entriesText, List.length_append, List.length_cons]
    omega

theorem text_length_le_elementsText (first : Bool) {elements : List Plain} {p : Plain}
    (h : p ∈ elements) : p.text.length ≤ (elementsText first elements).length := by
  induction elements generalizing first with
  | nil => cases h
  | cons q elements ih =>
    simp only [elementsText, List.length_append]
    rcases List.mem_cons.1 h with rfl | h
    · omega
    · have below := ih false h
      omega

theorem text_length_le_entriesText (first : Bool) {entries : List (String × Plain)}
    {entry : String × Plain} (h : entry ∈ entries) :
    entry.2.text.length ≤ (entriesText first entries).length := by
  induction entries generalizing first with
  | nil => cases h
  | cons other entries ih =>
    simp only [entriesText, List.length_append, List.length_cons]
    rcases List.mem_cons.1 h with rfl | h
    · omega
    · have below := ih false h
      omega

/-- Room for the text of an array is room for its elements, in number and in length. The number
bounds the rounds of this array, the length is passed on to the elements, which have loops of their
own with the same bound. -/
theorem room_array {elements : List Plain} {bound : Nat}
    (room : (array elements).text.length ≤ bound) :
    elements.length < bound ∧ ∀ p ∈ elements, p.text.length ≤ bound := by
  simp only [text, List.length_cons, List.length_append] at room
  have count := length_le_elementsText true elements
  refine ⟨by omega, fun p hm => ?_⟩
  have inside := text_length_le_elementsText true hm
  omega

/-- Room for the text of an object is room for its entries. -/
theorem room_object {entries : List (String × Plain)} {bound : Nat}
    (room : (object entries).text.length ≤ bound) :
    entries.length < bound ∧ ∀ entry ∈ entries, entry.2.text.length ≤ bound := by
  simp only [text, List.length_cons, List.length_append] at room
  have count := length_le_entriesText true entries
  refine ⟨by omega, fun entry hm => ?_⟩
  have inside := text_length_le_entriesText true hm
  omega

end Plain

/-! ## Reading strings

One character at a time. A string is read into an accumulator that is turned round at the end, so
that the statements carry what has been taken so far. -/

/-- A letter behind a backslash is read as the character it was written for. It is never `u`, which
would announce four digits. -/
theorem simpleEscape?_of_shortEscape? {c letter : Char} (h : shortEscape? c = some letter) :
    simpleEscape? letter = some c ∧ letter ≠ 'u' := by
  unfold shortEscape? at h
  -- One case for each letter; in the last there is none.
  repeat' split at h
  all_goals cases h
  all_goals subst_vars; decide

/-- What is written as it is was no special character of a string. -/
theorem ne_of_shortEscape?_none {c : Char} (h : shortEscape? c = none) : c ≠ '"' ∧ c ≠ '\\' := by
  unfold shortEscape? at h
  repeat' split at h
  all_goals simp_all

theorem readString_short {letter c : Char} (h : simpleEscape? letter = some c) (hu : letter ≠ 'u')
    (taken s : List Char) :
    readString taken ('\\' :: letter :: s) = readString (c :: taken) s := by
  rw [readString.eq_def]
  simp [h, hu]

/-- The control characters that have no letter are written with four digits, of which only the last
two vary. There are few enough of them to be tried. -/
theorem hexQuad?_control :
    ∀ n < 0x20, hexQuad? '0' '0' (Nat.digitChar (n / 16)) (Nat.digitChar (n % 16)) = some n := by
  decide

theorem readString_control {c : Char} (h : c.toNat < 0x20) (taken s : List Char) :
    readString taken ('\\' :: 'u' :: '0' :: '0' :: Nat.digitChar (c.toNat / 16) ::
      Nat.digitChar (c.toNat % 16) :: s) = readString (c :: taken) s := by
  have leading : isLeading c.toNat = false := by
    simp only [isLeading, Bool.and_eq_false_iff, decide_eq_false_iff_not]
    omega
  have trailing : isTrailing c.toNat = false := by
    simp only [isTrailing, Bool.and_eq_false_iff, decide_eq_false_iff_not]
    omega
  rw [readString.eq_def]
  simp [hexQuad?_control c.toNat h, leading, trailing]

/-- **One character is taken from the way it is written**, whichever of the three ways that is: by a
letter, by digits, or as itself. -/
theorem readString_escape (c : Char) (taken s : List Char) :
    readString taken (escape c ++ s) = readString (c :: taken) s := by
  unfold escape
  cases short : shortEscape? c with
  | some letter =>
    obtain ⟨back, hu⟩ := simpleEscape?_of_shortEscape? short
    exact readString_short back hu taken s
  | none =>
    obtain ⟨quote, backslash⟩ := ne_of_shortEscape?_none short
    by_cases control : c.toNat < 0x20
    · rw [if_pos control]
      exact readString_control control taken s
    · rw [if_neg control, List.singleton_append, readString.eq_def]
      simp [quote, backslash, control]

/-- By induction on the characters, with the accumulator free: what has been taken is in front of
what the rest of the string adds. -/
theorem readString_escaped (cs taken rest : List Char) :
    readString taken (cs.flatMap escape ++ '"' :: rest) =
      .ok (String.ofList (taken.reverse ++ cs), rest) := by
  induction cs generalizing taken with
  | nil =>
    rw [List.append_nil, List.flatMap_nil, List.nil_append, readString.eq_def]
    rfl
  | cons c cs ih =>
    rw [List.flatMap_cons, List.append_assoc, readString_escape, ih, List.reverse_cons,
      List.append_assoc, List.singleton_append]

theorem quoted_append (s : String) (rest : List Char) :
    quoted s ++ rest = '"' :: (s.toList.flatMap escape ++ '"' :: rest) := by
  simp [quoted]

/-- A string is read back after its opening quote. -/
theorem readString_quoted (s : String) (rest : List Char) :
    readString [] (s.toList.flatMap escape ++ '"' :: rest) = .ok (s, rest) := by
  rw [readString_escaped, List.reverse_nil, List.nil_append, String.ofList_toList]

/-! ## Reading containers

The loops over elements and entries. Their step is a parameter, as it is in the code: the same
lemmas serve the reader of values and the readers of formats, where an element becomes a tree and
not a value. -/

theorem skipSpace_of_head {c : Char} (h : isSpace c = false) (s : List Char) :
    skipSpace (c :: s) = c :: s := by
  rw [skipSpace, List.dropWhile_cons_of_neg (by simp [h])]

theorem Plain.skipSpace_text (p : Plain) (rest : List Char) :
    skipSpace (p.text ++ rest) = p.text ++ rest := by
  obtain ⟨c, s, head, blank, -⟩ := p.text_head
  rw [head, List.cons_append, skipSpace_of_head blank]

/-- The flag for the first round and the separator that is printed in front of an element go
together, so that a printed element is found in any round. -/
theorem nextElement_text (first : Bool) (p : Plain) (rest : List Char) :
    nextElement first (separator first ++ (p.text ++ rest)) = .ok (some (p.text ++ rest)) := by
  obtain ⟨c, s, head, blank, close⟩ := p.text_head
  have here := skipSpace_of_head blank (s ++ rest)
  cases first with
  | true => simp [nextElement, separator, head, here, close]
  | false =>
    have comma := skipSpace_of_head (c := ',') rfl (c :: (s ++ rest))
    simp [nextElement, separator, head, here, close, comma]

theorem nextKey_text (first : Bool) (key : String) (rest : List Char) :
    nextKey first (separator first ++ (quoted key ++ rest)) = .ok (some (key, rest)) := by
  have here := skipSpace_of_head (c := '"') rfl (key.toList.flatMap escape ++ '"' :: rest)
  rw [quoted_append]
  cases first with
  | true => simp [nextKey, separator, here, readString_quoted, Except.map]
  | false =>
    have comma := skipSpace_of_head (c := ',') rfl
      ('"' :: (key.toList.flatMap escape ++ '"' :: rest))
    simp [nextKey, separator, here, comma, readString_quoted, Except.map]

theorem readColon_colon (rest : List Char) : readColon (':' :: rest) = .ok rest := rfl

/-- One round of an array: an element is read, and the loop goes on behind it. -/
theorem readElements_round {σ : Type} {step : σ → List Char → Outcome σ} {state next : σ} {p : Plain}
    {after : List Char} (h : step state (p.text ++ after) = .ok (next, after)) (bound : Nat)
    (first : Bool) :
    readElements step (bound + 1) first state (separator first ++ (p.text ++ after)) =
      readElements step bound false next after := by
  rw [readElements, nextElement_text]
  simp only [h]

/-- **All elements of an array are read**, each in front of those that have been read before it. The
items may be of any type that is printed and read; nothing is asked of them but that the step reads
one of them in front of any text. -/
theorem readElements_text {ι β : Type} {step : List β → List Char → Outcome (List β)}
    {printed : ι → Plain} (result : ι → β) {items : List ι}
    (h : ∀ item ∈ items, ∀ taken after,
      step taken ((printed item).text ++ after) = .ok (result item :: taken, after))
    {bound : Nat} (room : items.length < bound) (first : Bool) (taken : List β) (rest : List Char) :
    readElements step bound first taken
        (Plain.elementsText first (items.map printed) ++ ']' :: rest) =
      .ok ((items.map result).reverse ++ taken, ']' :: rest) := by
  induction items generalizing bound first taken with
  | nil =>
    -- Also at the end a round is needed, to find the closing bracket; hence the strict bound.
    obtain ⟨bound, rfl⟩ := Nat.exists_eq_succ_of_ne_zero (Nat.ne_zero_of_lt room)
    rfl
  | cons item items ih =>
    obtain ⟨bound, rfl⟩ := Nat.exists_eq_succ_of_ne_zero (Nat.ne_zero_of_lt room)
    have others := fun other hm => h other (List.mem_cons_of_mem item hm)
    rw [List.map_cons, Plain.elementsText, List.append_assoc, List.append_assoc,
      readElements_round (h item List.mem_cons_self _ _), ih others (Nat.lt_of_succ_lt_succ room),
      List.map_cons, List.reverse_cons, List.append_assoc, List.singleton_append]

/-- One round of an object. -/
theorem readEntries_round {σ : Type} {step : σ → String → List Char → Outcome σ} {state next : σ}
    {key : String} {p : Plain} {after : List Char}
    (h : step state key (':' :: (p.text ++ after)) = .ok (next, after)) (bound : Nat)
    (first : Bool) :
    readEntries step (bound + 1) first state
        (separator first ++ (quoted key ++ ':' :: (p.text ++ after))) =
      readEntries step bound false next after := by
  rw [readEntries, nextKey_text]
  simp only [h]

theorem readEntries_end {σ : Type} (step : σ → String → List Char → Outcome σ) (bound : Nat)
    (first : Bool) (state : σ) (rest : List Char) :
    readEntries step (bound + 1) first state ('}' :: rest) = .ok (state, '}' :: rest) := rfl

/-- **All entries of an object are read**, given what becomes of the state at each of them. Unlike
for arrays the step may do anything with the state, since what an entry is depends on its key. -/
theorem readEntries_text {σ : Type} {step : σ → String → List Char → Outcome σ}
    (next : σ → String × Plain → σ) {entries : List (String × Plain)}
    (h : ∀ entry ∈ entries, ∀ state after,
      step state entry.1 (':' :: (entry.2.text ++ after)) = .ok (next state entry, after))
    {bound : Nat} (room : entries.length < bound) (first : Bool) (state : σ) (rest : List Char) :
    readEntries step bound first state (Plain.entriesText first entries ++ '}' :: rest) =
      .ok (entries.foldl next state, '}' :: rest) := by
  induction entries generalizing bound first state with
  | nil =>
    obtain ⟨bound, rfl⟩ := Nat.exists_eq_succ_of_ne_zero (Nat.ne_zero_of_lt room)
    rfl
  | cons entry entries ih =>
    obtain ⟨bound, rfl⟩ := Nat.exists_eq_succ_of_ne_zero (Nat.ne_zero_of_lt room)
    rw [Plain.entriesText, List.append_assoc, List.append_assoc, List.cons_append,
      List.append_assoc, readEntries_round (h entry List.mem_cons_self _ _)]
    exact ih (fun other hm => h other (List.mem_cons_of_mem _ hm)) (Nat.lt_of_succ_lt_succ room) _ _

theorem closingArray_text {α : Type} (a : α) (rest : List Char) :
    closingArray (.ok (a, ']' :: rest)) = .ok (a, rest) := rfl

theorem closingObject_text {α : Type} (a : α) (rest : List Char) :
    closingObject (.ok (a, '}' :: rest)) = .ok (a, rest) := rfl

/-! ## Reading values

The cases of a value, each with the values inside it as a hypothesis, and the induction that closes
them. -/

theorem Plain.array_text_append (elements : List Plain) (rest : List Char) :
    (array elements).text ++ rest = '[' :: (elementsText true elements ++ ']' :: rest) := by
  simp [text]

theorem Plain.object_text_append (entries : List (String × Plain)) (rest : List Char) :
    (object entries).text ++ rest = '{' :: (entriesText true entries ++ '}' :: rest) := by
  simp [text]

/-- What holds no array and no object is read as a scalar. -/
theorem readScalar?_text {p : Plain} (flat : p.depth = 0) (rest : List Char) :
    readScalar? (p.text ++ rest) = some (.ok (p.value, rest)) := by
  cases p with
  | boolean b => cases b <;> rfl
  | string s =>
    rw [Plain.text, quoted_append]
    simp [readScalar?, readString_quoted, Except.map, Plain.value]
  | array elements => simp [Plain.depth] at flat
  | object entries => simp [Plain.depth] at flat

theorem readValue_scalar {bound depth : Nat} {p : Plain} (flat : p.depth = 0) (rest : List Char) :
    readValue bound depth (p.text ++ rest) = .ok (p.value, rest) := by
  rw [readValue, p.skipSpace_text]
  simp only [readScalar?_text flat rest]

theorem readScalar?_openArray (s : List Char) : readScalar? ('[' :: s) = none := rfl

theorem readScalar?_openObject (s : List Char) : readScalar? ('{' :: s) = none := rfl

theorem readValue_array {bound depth : Nat} {elements : List Plain}
    (h : ∀ p ∈ elements, ∀ rest, readValue bound depth (p.text ++ rest) = .ok (p.value, rest))
    (room : elements.length < bound) (rest : List Char) :
    readValue bound (depth + 1) ((Plain.array elements).text ++ rest) =
      .ok ((Plain.array elements).value, rest) := by
  rw [readValue, Plain.skipSpace_text, Plain.array_text_append]
  simp only [readScalar?_openArray, ↓reduceIte]
  rw [← List.map_id elements, readElements_text Plain.value ?_ room]
  · simp [Plain.value, Plain.elementValues_eq_map, closingArray_text, Except.map]
  · intro p hm read after
    simp [h p hm, Except.map]

theorem readValue_object {bound depth : Nat} {entries : List (String × Plain)}
    (h : ∀ entry ∈ entries, ∀ rest,
      readValue bound depth (entry.2.text ++ rest) = .ok (entry.2.value, rest))
    (room : entries.length < bound) (rest : List Char) :
    readValue bound (depth + 1) ((Plain.object entries).text ++ rest) =
      .ok ((Plain.object entries).value, rest) := by
  rw [readValue, Plain.skipSpace_text, Plain.object_text_append]
  simp only [readScalar?_openObject, ↓reduceIte, Char.reduceEq]
  rw [readEntries_text (fun read entry => (entry.1, entry.2.value) :: read) ?_ room]
  · simp [Plain.value, Plain.entryValues_eq_map, closingObject_text, Except.map]
  · intro entry hm read after
    rw [readColon_colon]
    simp [Except.bind, h entry hm, Except.map]

/-- **A printed value is read back.** The depth is at least that of the value, and the bound on the
rounds of a container may be the length of the text. The induction is on the depth and not on the
value: the reader recurses on the depth, and a bound on it is what the elements of an array
inherit. -/
theorem readValue_text {bound depth : Nat} (p : Plain) (nesting : p.depth ≤ depth)
    (room : p.text.length ≤ bound) (rest : List Char) :
    readValue bound depth (p.text ++ rest) = .ok (p.value, rest) := by
  induction depth generalizing p rest with
  | zero => exact readValue_scalar (Nat.le_zero.1 nesting) rest
  | succ depth ih =>
    cases p with
    | boolean b => exact readValue_scalar rfl rest
    | string s => exact readValue_scalar rfl rest
    | array elements =>
      obtain ⟨count, inside⟩ := Plain.room_array room
      have below := Plain.depth_array_le_iff.1 nesting
      exact readValue_array (fun p hm => ih p (below p hm) (inside p hm)) count rest
    | object entries =>
      obtain ⟨count, inside⟩ := Plain.room_object room
      have below := Plain.depth_object_le_iff.1 nesting
      exact readValue_object (fun e hm => ih e.2 (below e hm) (inside e hm)) count rest

end ScalaFacade.Json
