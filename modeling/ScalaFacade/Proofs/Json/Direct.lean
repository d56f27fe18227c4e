import ScalaFacade.Json.Read
import ScalaFacade.Proofs.Json.Meaning
import ScalaFacade.Proofs.Json.Skipping

/-! # Direct reading

A document is not read into a value first. Its text is read directly against a format, so that a
fault is found before anything behind it is looked at, and nothing is built that is not asked for.
This module says that it makes no other difference:

> if a text holds the value `v`, reading it against a format gives what `v` means in that format,
> and fails exactly if `v` means nothing there (`Format.toOption_read`).

So whatever a format does with a text that holds a value depends on that value alone, although the
value is never built. `valueOf?` says which texts hold one: those that are well formed, with numbers
in range and not nested too deeply. Of other texts nothing is said here. A format may accept some of
them, since it does not look into values that it passes over.

Each reader is followed along the elements or entries that are in the text (`Elements`, `Entries`),
and each statement has the form `(reader s).toOption = leaving rest meaning`: the reader gives the
meaning and leaves the text where the value ends, or it fails and the meaning is `none`. Keeping
success and failure in one equation is what lets the statements compose; with an implication for
each, every reader would be opened twice.

The order is scalars, containers, words, nodes, records, and at the end the induction over the
format that ties them together. All bounds on rounds are discharged by the length of the text, which
is carried along as `room`.
-/

set_option autoImplicit false

namespace ScalaFacade.Json

/-- What is read from a text, given what its value means: the meaning together with the text behind
the value, or nothing. Where the meaning is nothing it does not matter where the reader stopped. -/
def leaving {α : Type} (rest : List Char) (meaning : Option α) : Option (α × List Char) :=
  meaning.map fun a => (a, rest)

@[simp]
theorem leaving_none {α : Type} (rest : List Char) : leaving rest (none : Option α) = none := rfl

@[simp]
theorem leaving_some {α : Type} (rest : List Char) (a : α) :
    leaving rest (some a) = some (a, rest) := rfl

theorem leaving_map {α β : Type} (rest : List Char) (f : α → β) (meaning : Option α) :
    leaving rest (meaning.map f) = (leaving rest meaning).map fun (a, s) => (f a, s) := by
  cases meaning <;> rfl

/-- With `eq_error_of_toOption` the way back from options to outcomes, where the code matches on an
outcome and has to be told which one it is. -/
theorem eq_ok_of_toOption {α : Type} {outcome : Outcome α} {rest : List Char} {a : α}
    (h : outcome.toOption = leaving rest (some a)) : outcome = .ok (a, rest) := by
  cases outcome with
  | error => cases h
  | ok result =>
    cases h
    rfl

theorem eq_error_of_toOption {α : Type} {outcome : Outcome α} {rest : List Char}
    (h : outcome.toOption = leaving rest none) : ∃ fault, outcome = .error fault := by
  cases outcome with
  | error fault => exact ⟨fault, rfl⟩
  | ok => cases h

theorem toOption_orStopped {α : Type} (result : Except Cause α) (rest : List Char) :
    (orStopped result rest).toOption = leaving rest result.toOption := by
  cases result <;> rfl

/-- What has been read, decoded further. The object of a record is dealt with in this way: its slots
are read first, and its value is made from them. -/
def andThen {α β : Type} (decode : α → Except Cause β) : Outcome α → Outcome β
  | .error fault => .error fault
  | .ok (a, s) => orStopped (decode a) s

theorem toOption_andThen {α β : Type} (decode : α → Except Cause β) {outcome : Outcome α}
    {rest : List Char} {meaning : Option α} (h : outcome.toOption = leaving rest meaning) :
    (andThen decode outcome).toOption =
      leaving rest (meaning.bind fun a => (decode a).toOption) := by
  cases meaning with
  | none =>
    obtain ⟨fault, rfl⟩ := eq_error_of_toOption h
    rfl
  | some a =>
    rw [eq_ok_of_toOption h]
    exact toOption_orStopped (decode a) rest

/-! ## Scalars

A value that is read directly is recognised by its first character. `Scalar` keeps what the first
character says about the value, no more: which readers refuse it at once depends on that alone. -/

/-- A scalar by its first character. Null and strings are told apart from the rest because options
and words look for them; of the others only what they do not start with is kept. -/
inductive Scalar : List Char → Value → List Char → Prop where
  | null {s rest : List Char} (read : readWord ['u', 'l', 'l'] s = .ok rest) :
      Scalar ('n' :: s) .null rest
  | string {s rest : List Char} {text : String} (read : readString [] s = .ok (text, rest)) :
      Scalar ('"' :: s) (.string text) rest
  | other {c : Char} {s rest : List Char} {v : Value}
      (first : c ≠ 'n' ∧ c ≠ '"' ∧ c ≠ '[' ∧ c ≠ '{')
      (value : (∃ b, v = .boolean b) ∨ ∃ n, v = .number n) : Scalar (c :: s) v rest

theorem scalar_of_readScalar? {s : List Char} {v : Value} {rest : List Char}
    (h : readScalar? s = some (.ok (v, rest))) : Scalar s v rest := by
  cases s with
  | nil => cases h
  | cons c s =>
    have first : c ≠ '[' ∧ c ≠ '{' := by
      constructor <;> (rintro rfl; cases h)
    simp only [readScalar?] at h
    repeat' split at h
    all_goals simp only [Option.some.injEq, reduceCtorEq] at h
    · next letter =>
      subst letter
      obtain ⟨rfl, read⟩ := rest_of_constant h
      exact .null read
    · next null letter =>
      subst letter
      obtain ⟨rfl, -⟩ := rest_of_constant h
      exact .other (by decide) (.inl ⟨true, rfl⟩)
    · next letter =>
      subst letter
      obtain ⟨rfl, -⟩ := rest_of_constant h
      exact .other (by decide) (.inl ⟨false, rfl⟩)
    · next quote =>
      subst quote
      obtain ⟨_, read, same⟩ := map_eq_ok.1 h
      cases same
      exact .string read
    -- The two ways in which a number starts, with the sign and with a digit.
    all_goals
      obtain ⟨⟨n, _⟩, -, same⟩ := map_eq_ok.1 h
      cases same
      exact .other ⟨by assumption, by assumption, first⟩ (.inr ⟨n, rfl⟩)

section

variable {bound depth : Nat} {s rest : List Char} {v : Value}

/-- A scalar is read and decoded; nothing else is. That `decode` refuses arrays and objects is asked
of it, since their reader never gets to see them: it reports a mismatch at the opening bracket. -/
theorem toOption_readPlain (read : readValue bound depth s = .ok (v, rest)) {α : Type}
    {decode : Value → Except Cause α} (expected : Expectation)
    (scalar : v.isScalar = false → (decode v).toOption = none) :
    (readPlain decode expected (skipSpace s)).toOption = leaving rest (decode v).toOption := by
  cases reads_of_readValue read with
  | scalar found =>
    cases start : skipSpace s with
    | nil =>
      rw [start] at found
      cases found
    | cons c t =>
      rw [start] at found
      simp only [readPlain, found]
      cases decode v <;> rfl
  | array opening => 
    rw [opening, scalar rfl]
    rfl
  | object opening =>
    rw [opening, scalar rfl]
    rfl

/-- The string that a value is. -/
def stringOf? : Value → Option String
  | .string s => some s
  | _ => none

theorem toOption_readTag (read : readValue bound depth s = .ok (v, rest)) :
    (readTag s).toOption = leaving rest (stringOf? v) := by
  rw [readTag, toOption_readPlain read]
  · cases v <;> rfl
  · intro scalar
    cases v with
    | string => cases scalar
    | _ => rfl

end

/-! ## Containers

The loops of containers, compared with folds over the values that are in the text. What is read from
an element is a hypothesis (`each`), so that one statement serves lists, nodes and records. -/

section

variable {bound depth : Nat} {first : Bool} {s closing : List Char}

/-- One round of the loop, for any step. The induction of `Elements.toOption_readElements` follows
the relation and not the rounds, so the loop is unrolled by this equation. -/
theorem toOption_readElements_more {σ : Type} {step : σ → List Char → Outcome σ} {before : List Char}
    (next : nextElement first s = .ok (some before)) (rounds : Nat) (state : σ) :
    (readElements step (rounds + 1) first state s).toOption =
      (step state before).toOption.bind fun (state, s) =>
        (readElements step rounds false state s).toOption := by
  rw [readElements, next]
  simp only
  cases step state before <;> rfl

theorem toOption_readEntries_more {σ : Type} {step : σ → String → List Char → Outcome σ}
    {key : String} {colon : List Char} (next : nextKey first s = .ok (some (key, colon)))
    (rounds : Nat) (state : σ) :
    (readEntries step (rounds + 1) first state s).toOption =
      (step state key colon).toOption.bind fun (state, s) =>
        (readEntries step rounds false state s).toOption := by
  rw [readEntries, next]
  simp only
  cases step state key colon <;> rfl

/-- **Everything that is read from the elements of an array is made of what is read from each.**
`room` is a bound on the texts for which the step is known to be right, `rounds` one on the loop.
They are kept apart because both are used up differently: the induction lowers the rounds, while the
room stays that of the whole text. -/
theorem Elements.toOption_readElements {α : Type} {vs : List Value}
    (h : Elements (readValue bound depth) first s vs closing)
    (step : List Char → Outcome α) (meaning : Value → Option α) {room : Nat}
    (each : ∀ {s rest : List Char} {v : Value}, readValue bound depth s = .ok (v, rest) →
      s.length < room → (step s).toOption = leaving rest (meaning v))
    (enough : s.length < room) {rounds : Nat} (round : s.length < rounds) (taken : List α) :
    (readElements (fun taken s => (step s).map fun (a, s) => (a :: taken, s)) rounds first taken
      s).toOption = leaving closing ((vs.mapM meaning).map fun all => all.reverse ++ taken) := by
  induction h generalizing taken rounds with
  | done none =>
    cases rounds with
    | zero => omega
    | succ rounds =>
      rw [readElements, none]
      rfl
  | @more first s before after closing v vs next here others ih =>
    have := length_of_nextElement next
    have := length_of_readValue here
    cases rounds with
    | zero => omega
    | succ rounds =>
      rw [toOption_readElements_more next, toOption_map, each here (by omega), List.mapM_cons]
      -- An element without a meaning ends the loop with a fault, and `mapM` with `none`.
      cases meaning v with
      | none => rfl
      | some a =>
        refine (ih (by omega) (by omega) (a :: taken)).trans ?_
        cases vs.mapM meaning <;> simp

/-- **Everything that is read from the entries of an object is made of what is read from each.** The
step of an object has a state, because a field that has been read must not come again; so the
meaning is a fold, and not a map as for arrays. -/
theorem Entries.toOption_readEntries {σ : Type} {entries : List (String × Value)}
    (h : Entries (readValue bound depth) first s entries closing)
    (step : σ → String → List Char → Outcome σ) (step? : σ → String × Value → Option σ) {room : Nat}
    (each : ∀ {state : σ} {key : String} {colon before rest : List Char} {v : Value},
      readColon colon = .ok before → readValue bound depth before = .ok (v, rest) →
      before.length < room → (step state key colon).toOption = leaving rest (step? state (key, v)))
    (enough : s.length < room) {rounds : Nat} (round : s.length < rounds) (state : σ) :
    (readEntries step rounds first state s).toOption =
      leaving closing (entries.foldlM step? state) := by
  induction h generalizing state rounds with
  | done none =>
    cases rounds with
    | zero => omega
    | succ rounds =>
      rw [readEntries, none]
      rfl
  | @more first s colon before after closing key v entries next marked here others ih =>
    have := length_of_nextKey next
    have := length_of_skipSpace_cons (skipSpace_of_readColon marked)
    have := length_of_readValue here
    cases rounds with
    | zero => omega
    | succ rounds =>
      rw [toOption_readEntries_more next, each marked here (by omega), List.foldlM_cons]
      cases step? state (key, v) with
      | none => rfl
      | some state => exact ih (by omega) (by omega) state

end

/-- Closing an array changes nothing about what was read inside. A fault inside may be given a place
by the closing bracket, but it stays a fault. -/
theorem toOption_closingArray {α : Type} {outcome : Outcome α} {meaning : Option α}
    {closing rest : List Char} (inside : outcome.toOption = leaving closing meaning)
    (closed : endArray closing = .ok rest) :
    (closingArray outcome).toOption = leaving rest meaning := by
  cases meaning with
  | none =>
    obtain ⟨fault, rfl⟩ := eq_error_of_toOption inside
    rfl
  | some a =>
    rw [eq_ok_of_toOption inside, closingArray, closed]
    rfl

theorem toOption_closingObject {α : Type} {outcome : Outcome α} {meaning : Option α}
    {closing rest : List Char} (inside : outcome.toOption = leaving closing meaning)
    (closed : endObject closing = .ok rest) :
    (closingObject outcome).toOption = leaving rest meaning := by
  cases meaning with
  | none =>
    obtain ⟨fault, rfl⟩ := eq_error_of_toOption inside
    rfl
  | some a =>
    rw [eq_ok_of_toOption inside, closingObject, closed]
    rfl

/-! ## Words

A word may be written as the only key of an object with the value null. Its reader looks for exactly
one entry and for the bracket behind it, without going through the loop of objects. -/

section

variable {bound depth : Nat} {s rest : List Char}

/-- Behind the first entry of an object stands its bracket or a comma, and the comma means that
there are more entries. The reader of words, which only looks at that character, is right by
this. -/
theorem Entries.only {entries : List (String × Value)} {closing : List Char}
    (h : Entries (readValue bound depth) false s entries closing)
    (closed : endObject closing = .ok rest) :
    (entries = [] ∧ skipSpace s = '}' :: rest) ∨ entries ≠ [] ∧ ∃ t, skipSpace s = ',' :: t := by
  cases h with
  | done none =>
    have ends := skipSpace_of_endObject closed
    rw [skipSpace_skipSpace] at ends
    exact .inl ⟨rfl, ends⟩
  | more next =>
    obtain ⟨start, -⟩ | ⟨-, t, u, comma, -⟩ := nextKey_some next
    · cases start
    · exact .inr ⟨by simp, t, comma⟩

/-- The empty content that a null is. -/
def unitOf : Value → Except Cause Unit
  | .null => .ok ()
  | v => .error (.invalidType v.found .unit)

theorem toOption_readUnit {v : Value} (read : readValue bound depth s = .ok (v, rest)) :
    (readPlain unitOf .unit (skipSpace s)).toOption = leaving rest (unitOf v).toOption := by
  refine toOption_readPlain read .unit fun scalar => ?_
  cases v with
  | null => cases scalar
  | _ => rfl

/-- A word whose entry has been read, at the end of its object. -/
def wordEnd {α : Type} (a : α) : Outcome Unit → Outcome α
  | .error fault => .error fault
  | .ok ((), s) =>
    match skipSpace s with
    | [] => .error (.before .eofObject [])
    | c :: s => if c = '}' then .ok (a, s) else .error (.before .expectedValue (c :: s))

/-- A word is read from an object along its first entry. -/
theorem toOption_readWordOf_object {α : Type} (ofWord : String → α) {inside colon before : List Char}
    {word : String} (next : nextKey true inside = .ok (some (word, colon)))
    (marked : readColon colon = .ok before) :
    (readWordOf ofWord (depth + 1) ('{' :: inside)).toOption =
      (readPlain unitOf .unit (skipSpace before)).toOption.bind fun (_, s) =>
        match skipSpace s with
        | [] => none
        | c :: s => if c = '}' then some (ofWord word, s) else none := by
  rw [readWordOf, if_neg (by decide), if_pos rfl]
  simp only [nested, next, marked]
  show (wordEnd (ofWord word) (readPlain unitOf .unit (skipSpace before))).toOption = _
  obtain _ | ⟨⟨⟩, s⟩ := readPlain unitOf .unit (skipSpace before)
  · rfl
  · simp only [wordEnd, Except.toOption, Option.bind_some]
    cases skipSpace s with
    | nil => rfl
    | cons c s => by_cases bracket : c = '}' <;> simp [bracket]

theorem wordOf?_single {α : Type} (ofWord : String → α) (word : String) (v : Value) :
    wordOf? true ofWord (.object [(word, v)]) = (unitOf v).toOption.map fun _ => ofWord word := by
  cases v with
  | object entries => cases entries <;> rfl
  | _ => rfl

/-- **A word is read directly as what it means.** The cases are the three ways to read a value; an
object without entries, with one and with several are told apart by the text behind the first
entry. -/
theorem toOption_readWordOf {v : Value} (read : readValue bound depth s = .ok (v, rest)) {α : Type}
    (ofWord : String → α) :
    (readWordOf ofWord depth (skipSpace s)).toOption = leaving rest (wordOf? true ofWord v) := by
  cases reads_of_readValue read with
  | scalar found =>
    have scalar := scalar_of_readScalar? found
    clear found
    generalize skipSpace s = start at scalar
    cases scalar with
    | null => rfl
    | string read =>
      rw [readWordOf, if_pos rfl, read]
      rfl
    | other first value =>
      rw [readWordOf, if_neg first.2.1, if_neg first.2.2.2]
      obtain ⟨b, rfl⟩ | ⟨n, rfl⟩ := value <;> rfl
  | array opening =>
    rw [opening]
    rfl
  | @object depth _ inside closing _ entries opening inner closed =>
    rw [opening]
    cases inner with
    | done none =>
      rw [readWordOf, if_neg (by decide), if_pos rfl]
      simp only [nested, none]
      rfl
    | @more _ _ colon before after _ word v entries next marked here others =>
      rw [toOption_readWordOf_object ofWord next marked, toOption_readUnit here]
      obtain ⟨rfl, bracket⟩ | ⟨filled, t, comma⟩ := others.only closed
      · rw [wordOf?_single]
        cases (unitOf v).toOption with
        | none => rfl
        | some => simp [bracket]
      · rw [wordOf?_several ofWord (word, v) filled]
        cases (unitOf v).toOption with
        | none => rfl
        | some => simp [comma]

end

/-! ## Nodes

A node is read whole before it is decoded, because its kind may come last. Only the kind is read
directly: it has to be a string. All other entries are read as values and decoded afterwards, so
here the theorem about decoding takes over. -/

section

variable {bound depth : Nat} {s closing : List Char}

/-- What one entry adds to what has been gathered of a node's object. -/
def Gathered.take? (read : Gathered) (entry : String × Value) : Option Gathered :=
  (takeKind? stringOf? (read.tag, read.entries) entry).map fun (tag, entries) => { tag, entries }

/-- One entry of a node's object. The entry `kind` is read as a string, any other as a value, which
succeeds because a value is what stands there. -/
theorem Gathered.toOption_readEntry {read : Gathered} {key : String} {colon before rest : List Char}
    {v : Value} (marked : readColon colon = .ok before)
    (here : readValue bound depth before = .ok (v, rest)) :
    (read.readEntry bound depth key colon).toOption = leaving rest (read.take? (key, v)) := by
  simp only [readEntry, take?, takeKind?]
  split
  · split
    · rfl
    · rw [marked]
      show ((readTag before).map _).toOption = _
      rw [toOption_map, toOption_readTag here]
      cases stringOf? v <;> rfl
  · rw [marked]
    show ((readValue bound depth before).map _).toOption = _
    rw [here]
    rfl

theorem Gathered.foldlM_take? (read : Gathered) (entries : List (String × Value)) :
    entries.foldlM take? read =
      (entries.foldlM (takeKind? stringOf?) (read.tag, read.entries)).map fun (tag, entries) =>
        { tag, entries } := by
  induction entries generalizing read with
  | nil => rfl
  | cons entry entries ih =>
    rw [List.foldlM_cons, List.foldlM_cons, take?]
    cases takeKind? stringOf? (read.tag, read.entries) entry with
    | none => rfl
    | some state => exact ih { tag := state.1, entries := state.2 }

/-- The kind and the content of what has been gathered of a node's object. -/
def Gathered.content : Outcome Gathered → Outcome (String × Value)
  | .error fault => .error fault
  | .ok (read, s) =>
    match read.tag with
    | none => .error (.stopped (.missingField tagName) s)
    | some kind => .ok ((kind, .object read.entries.reverse), s)

theorem Gathered.toOption_content (outcome : Outcome Gathered) :
    (Gathered.content outcome).toOption = outcome.toOption.bind fun (read, s) =>
      read.tag.map fun kind => ((kind, .object read.entries.reverse), s) := by
  obtain _ | ⟨⟨_ | _, _⟩, _⟩ := outcome <;> rfl

theorem readNodeObject_eq (s : List Char) :
    readNodeObject bound depth s =
      Gathered.content (readEntries (Gathered.readEntry bound depth) bound true {} s) := rfl

theorem kindOf?_direct (v : Value) : kindOf? true v = (stringOf? v).map .name := by
  cases v with
  | number n =>
    cases n with
    | integer i => cases i <;> rfl
    | float => rfl
  | _ => rfl

/-- The kind of a node that is read directly, and its content. It is `tagged?` with the kind as a
string, in the shape in which the reader hands it on. -/
def spelledTag? (entries : List (String × Value)) : Option (String × Value) :=
  match valuesOf tagName entries with
  | [v] => (stringOf? v).map fun kind => (kind, .object (without tagName entries))
  | _ => none

theorem spelledTag?_bind {α : Type} (variants : Variants α) (other : α)
    (entries : List (String × Value)) :
    ((spelledTag? entries).bind fun (kind, v) => variants.accept? other (.name kind) v) =
      (tagged? true entries).bind fun (tag, others) =>
        variants.accept? other tag (.object others) := by
  unfold spelledTag? tagged?
  match valuesOf tagName entries with
  | [] => rfl
  | [v] =>
    simp only [kindOf?_direct]
    cases stringOf? v <;> rfl
  | _ :: _ :: _ => rfl

/-- The inside of a node's object, from its entries: the loop is a fold with a slot for the kind,
and that fold is known from decoding. -/
theorem Entries.toOption_readNodeObject {entries : List (String × Value)}
    (h : Entries (readValue bound depth) true s entries closing) (room : s.length < bound) :
    (readNodeObject bound depth s).toOption = leaving closing (spelledTag? entries) := by
  have whole := h.toOption_readEntries (Gathered.readEntry bound depth) Gathered.take?
    (fun marked here _ => Gathered.toOption_readEntry marked here) room room {}
  rw [Gathered.foldlM_take?, foldlM_takeKind?, fillSlot?_none] at whole
  rw [readNodeObject_eq, Gathered.toOption_content, whole, spelledTag?]
  match valuesOf tagName entries with
  | [] => rfl
  | [v] => cases string : stringOf? v <;> simp [string]
  | _ :: _ :: _ => rfl

/-- The inside of a node's array: the kind is the first element, and all that follow are its
content. -/
theorem Elements.toOption_readNodeArray {vs : List Value}
    (h : Elements (readValue bound depth) true s vs closing) (room : s.length < bound) :
    (readNodeArray bound depth s).toOption = leaving closing
      (match vs with
      | [] => none
      | v :: vs => (stringOf? v).map fun kind => (kind, .array vs)) := by
  cases h with
  | done none =>
    rw [readNodeArray, none]
    rfl
  | @more _ _ before after _ v vs next here others =>
    have tag := toOption_readTag here
    have := length_of_nextElement next
    have := length_of_readValue here
    have whole := others.toOption_readElements (readValue bound depth) some
      (fun read _ => by rw [read]; rfl) (by omega) (by omega : after.length < bound) []
    -- Elements that are read as values mean themselves, so nothing is refused.
    have all : vs.mapM some = some vs := (List.mapM_pure (f := id)).trans (by simp)
    rw [all, Option.map_some, List.append_nil, leaving_some] at whole
    rw [readNodeArray, next]
    simp only
    cases string : stringOf? v with
    | none =>
      rw [string] at tag
      obtain ⟨fault, failed⟩ := eq_error_of_toOption tag
      rw [failed]
      rfl
    | some kind =>
      rw [string] at tag
      simp only [eq_ok_of_toOption tag, toOption_map, whole]
      simp

end

/-- What a node that is read directly holds besides its kind. -/
def Variants.decodeContent {α : Type} (variants : Variants α) (other : α) :
    Outcome (String × Value) → Outcome α
  | .error fault => .error fault
  | .ok ((kind, v), s) => orStopped (variants.decode other (.name kind) v) s

theorem Variants.toOption_decodeContent {α : Type} (variants : Variants α) (other : α)
    {outcome : Outcome (String × Value)} {rest : List Char} {meaning : Option (String × Value)}
    (h : outcome.toOption = leaving rest meaning) :
    (variants.decodeContent other outcome).toOption =
      leaving rest (meaning.bind fun (kind, v) => variants.accept? other (.name kind) v) := by
  cases meaning with
  | none =>
    obtain ⟨fault, rfl⟩ := eq_error_of_toOption h
    rfl
  | some content =>
    obtain ⟨kind, v⟩ := content
    rw [eq_ok_of_toOption h]
    show _ = leaving rest (variants.accept? other (.name kind) v)
    rw [← variants.toOption_decode]
    exact toOption_orStopped _ rest

/-! ## Records in order

A record that is written as an array stops in the middle of it if there are more elements than
fields. What is left then has to be stated as part of the outcome, which is more than `leaving` can
say. -/

/-- What is read from the first elements of an array, given what they mean; the other elements are
still there, in front of the same closing bracket. Whether the first element is among those left is
not known outside, so the flag is quantified. -/
def LeavesElements {σ : Type} (bound depth : Nat) (closing : List Char) (outcome : Outcome σ) :
    Option (σ × List Value) → Prop
  | none => outcome.toOption = none
  | some (all, others) => ∃ first s, outcome = .ok (all, s) ∧
      Elements (readValue bound depth) first s others closing

section

variable {σ τ : Type} {bound depth : Nat} {closing : List Char} {outcome : Outcome σ}
  {meaning : Option (σ × List Value)}

theorem LeavesElements.map (h : LeavesElements bound depth closing outcome meaning) (f : σ → τ) :
    LeavesElements bound depth closing (outcome.map fun (all, s) => (f all, s))
      (meaning.map fun (all, vs) => (f all, vs)) := by
  cases meaning with
  | none =>
    cases outcome with
    | error => rfl
    | ok => cases h
  | some found =>
    obtain ⟨first, s, rfl, others⟩ := h
    exact ⟨first, s, rfl, others⟩

/-- An array cannot be closed in front of an element: what stands there is either the start of a
first element or the comma in front of a later one, and neither is the bracket. -/
theorem toOption_endArray_of_nextElement {first : Bool} {s before : List Char}
    (next : nextElement first s = .ok (some before)) : (endArray s).toOption = none := by
  have element : ∃ c t, skipSpace s = c :: t ∧ c ≠ ']' := by
    obtain ⟨-, -, found⟩ | ⟨-, t, comma, -⟩ := nextElement_some next
    · exact found
    · exact ⟨',', t, comma, by decide⟩
  obtain ⟨c, t, start, other⟩ := element
  rw [endArray, start]
  simp only [if_neg other]
  split
  · split <;> rfl
  · rfl

/-- An array is closed if no element is left over. -/
theorem LeavesElements.toOption_closingArray
    (h : LeavesElements bound depth closing outcome meaning) {rest : List Char}
    (closed : endArray closing = .ok rest) :
    (closingArray outcome).toOption = leaving rest (match meaning with
      | some (all, []) => some all
      | _ => none) := by
  match meaning with
  | none =>
    cases outcome with
    | error => rfl
    | ok => cases h
  | some (all, []) =>
    obtain ⟨first, s, rfl, others⟩ := h
    cases others with
    | done none =>
      have same : endArray s = endArray (skipSpace s) := by
        rw [endArray, endArray, skipSpace_skipSpace]
      rw [closingArray, same, closed]
      rfl
  | some (all, v :: vs) =>
    obtain ⟨first, s, rfl, others⟩ := h
    cases others with
    | more next =>
      rw [closingArray, toOption_map, toOption_endArray_of_nextElement next]
      rfl

end

/-! ## Formats

Now the formats themselves. Those with a format inside are stated with `Format.ReadsAs` of the inner
one as a hypothesis, so that the mutual induction at the end only has to put them together. -/

theorem readValue_skipSpace (bound depth : Nat) (s : List Char) :
    readValue bound depth (skipSpace s) = readValue bound depth s := by
  rw [readValue, readValue, skipSpace_skipSpace]

section

variable {bound depth : Nat} {s rest : List Char} {v : Value}

/-- What is not an array or object does not start like one. -/
theorem start_of_scalar (found : readScalar? (skipSpace s) = some (.ok (v, rest))) :
    v.isScalar = true ∧ ∃ c t, skipSpace s = c :: t ∧ c ≠ '[' ∧ c ≠ '{' := by
  have scalar := scalar_of_readScalar? found
  refine ⟨(skipScalar?_of_readScalar? found).2, ?_⟩
  clear found
  generalize skipSpace s = start at scalar
  cases scalar with
  | null | string => exact ⟨_, _, rfl, by decide, by decide⟩
  | other first => exact ⟨_, _, rfl, first.2.2⟩

/-- Only null starts like null. Options decide by the letter alone and do not come back when the
rest of the word is missing, which is a fault in either case. -/
theorem start_of_null (read : readValue bound depth s = .ok (v, rest)) :
    (v = .null ∧ ∃ t, skipSpace s = 'n' :: t ∧ readWord ['u', 'l', 'l'] t = .ok rest) ∨
      v ≠ .null ∧ ∀ t, skipSpace s ≠ 'n' :: t := by
  cases reads_of_readValue read with
  | scalar found =>
    have scalar := scalar_of_readScalar? found
    clear found
    generalize skipSpace s = start at scalar
    cases scalar with
    | null read => exact .inl ⟨rfl, _, rfl, read⟩
    | string => exact .inr ⟨by simp, by simp⟩
    | other first value =>
      refine .inr ⟨?_, by simp [first.1]⟩
      obtain ⟨b, rfl⟩ | ⟨n, rfl⟩ := value <;> simp
  | array opening => exact .inr ⟨by simp, by simp [opening]⟩
  | object opening => exact .inr ⟨by simp, by simp [opening]⟩

theorem toOption_readDecoded (read : readValue bound depth s = .ok (v, rest)) {α : Type}
    {format : Format α} (expected : Expectation)
    (scalar : ∀ v, v.isScalar = false → format.accept? false v = none) :
    (readPlain format.decode expected (skipSpace s)).toOption =
      leaving rest (format.accept? false v) := by
  rw [toOption_readPlain read expected fun h => (format.toOption_decode v).trans (scalar v h),
    format.toOption_decode]

end

/-- Reading a text directly gives what the value in it means. The depth is quantified inside,
because a format that is used below an array is read with less of it. -/
def Format.ReadsAs {α : Type} (format : Format α) (bound : Nat) : Prop :=
  ∀ {depth : Nat} {s rest : List Char} {v : Value}, readValue bound depth s = .ok (v, rest) →
    s.length < bound → (format.read bound depth s).toOption = leaving rest (format.accept? true v)

section

variable {α π σ : Type} {bound : Nat}

theorem Format.ReadsAs.option {inner : Format α} (h : inner.ReadsAs bound) :
    (Format.option inner).ReadsAs bound := by
  intro depth s rest v read room
  obtain ⟨rfl, t, start, word⟩ | ⟨filled, start⟩ := start_of_null read
  · rw [Format.read, start]
    simp only [word]
    rfl
  · have below := h ((readValue_skipSpace bound depth s).trans read)
      (Nat.lt_of_le_of_lt (length_skipSpace_le s) room)
    rw [Format.read, Format.accept?_option inner true filled, leaving_map, ← below]
    split
    · next t other => exact absurd other (start t)
    · exact toOption_map _ _

theorem Format.ReadsAs.list {inner : Format α} (h : inner.ReadsAs bound) :
    (Format.list inner).ReadsAs bound := by
  intro depth s rest v read room
  cases reads_of_readValue read with
  | scalar found =>
    obtain ⟨scalar, c, t, start, array, -⟩ := start_of_scalar found
    rw [Format.read, start]
    simp only [if_neg array]
    cases v <;> first | rfl | cases scalar
  | @array depth _ inside closing _ vs opening elements closed =>
    have := length_of_skipSpace_cons opening
    have inside := elements.toOption_readElements (inner.read bound depth) (inner.accept? true) h
      (by omega) (by omega : inside.length < bound) []
    rw [Format.read, opening]
    simp only [↓reduceIte, nested]
    refine toOption_closingArray ?_ closed
    rw [toOption_map, inside, Format.accept?]
    cases vs.mapM (inner.accept? true) <;> simp
  | object opening =>
    rw [Format.read, opening]
    rfl

/-- A record is read as what it means if each of its entries and its elements in order are. The two
hypotheses are what the mutual induction gives for the fields of this record; the three shapes of a
value are dealt with here. -/
theorem Format.readsAs_record {name : String} {fields : Fields π σ} {make : σ → α}
    (entry : ∀ {depth key colon before rest v slots}, readColon colon = .ok before →
      readValue bound depth before = .ok (v, rest) → before.length < bound →
      (fields.readEntry bound depth key colon slots).toOption =
        leaving rest (fields.takeEntry? true key v slots))
    (inOrder : ∀ {depth first s closing vs},
      Elements (readValue bound depth) first s vs closing → s.length < bound →
      ∀ expected index,
        LeavesElements bound depth closing (fields.readInOrder bound depth expected index first s)
          (fields.inOrder? true vs)) :
    (Format.record name fields make).ReadsAs bound := by
  intro depth s rest v read room
  cases reads_of_readValue read with
  | scalar found =>
    obtain ⟨scalar, c, t, start, array, object⟩ := start_of_scalar found
    rw [Format.read, start]
    simp only [if_neg array, if_neg object]
    cases v <;> first | rfl | cases scalar
  | @array depth _ inside closing _ vs opening elements closed =>
    have := length_of_skipSpace_cons opening
    have all := (inOrder elements (by omega) (.recordOf name fields.count) 0).map make
    rw [Format.read, opening]
    simp only [↓reduceIte, nested]
    refine (all.toOption_closingArray closed).trans ?_
    rw [Format.accept?]
    obtain _ | ⟨all, _ | _⟩ := fields.inOrder? true vs <;> rfl
  | @object depth _ inside closing _ entries opening inner closed =>
    have := length_of_skipSpace_cons opening
    have slots := inner.toOption_readEntries
      (fun slots key s => fields.readEntry bound depth key s slots)
      (fun slots entry => fields.takeEntry? true entry.1 entry.2 slots) entry
      (by omega) (by omega : inside.length < bound) fields.blank
    rw [Format.read, opening]
    simp only [Char.reduceEq, ↓reduceIte, nested]
    -- Slots first, then the record from them: the same two steps as in
    -- `Fields.complete_takeEntries?`, which turns them into a look-up.
    refine toOption_closingObject (toOption_andThen
      (fun slots => (fields.complete slots).map make) slots) closed |>.trans ?_
    rw [Format.accept?, ← fields.complete_takeEntries?, Fields.takeEntries?, Option.map_bind]
    simp only [toOption_map]
    rfl

/-- The content of a node is decoded from what has been read, so nothing about it is needed here. -/
theorem Format.readsAs_node (name : String) (variants : Variants α) (other : α) :
    (Format.node name variants other).ReadsAs bound := by
  intro depth s rest v read room
  cases reads_of_readValue read with
  | scalar found =>
    obtain ⟨scalar, c, t, start, array, object⟩ := start_of_scalar found
    rw [Format.read, start]
    simp only [if_neg array, if_neg object]
    cases v <;> first | rfl | cases scalar
  | @array depth _ inside closing _ vs opening elements closed =>
    have := length_of_skipSpace_cons opening
    have content := toOption_closingArray (elements.toOption_readNodeArray (by omega)) closed
    rw [Format.read, opening]
    simp only [↓reduceIte, nested]
    refine (variants.toOption_decodeContent other content).trans ?_
    rw [Format.accept?.eq_def]
    cases vs with
    | nil => rfl
    | cons v vs =>
      simp only [kindOf?_direct]
      cases stringOf? v <;> rfl
  | @object depth _ inside closing _ entries opening inner closed =>
    have := length_of_skipSpace_cons opening
    have content := toOption_closingObject (inner.toOption_readNodeObject (by omega)) closed
    rw [Format.read, opening]
    simp only [Char.reduceEq, ↓reduceIte, nested]
    refine (variants.toOption_decodeContent other content).trans ?_
    rw [spelledTag?_bind, Format.accept?]

end

mutual

/-- **Reading a text directly gives what the value in it means**, and leaves the text behind it. By
induction on the format, with one statement for the entries of a record and one for its elements. No
induction on the value is needed: where a format does not go deeper, neither does the reader. -/
theorem Format.toOption_read {α : Type} (format : Format α) {bound depth : Nat}
    {s rest : List Char} {v : Value} (read : readValue bound depth s = .ok (v, rest))
    (room : s.length < bound) :
    (format.read bound depth s).toOption = leaving rest (format.accept? true v) := by
  match format with
  | .string => exact toOption_readDecoded read .string fun v h => by cases v <;> trivial
  | .boolean => exact toOption_readDecoded read .boolean fun v h => by cases v <;> trivial
  | .natural => exact toOption_readDecoded read .natural fun v h => by cases v <;> trivial
  | .word ofWord => exact toOption_readWordOf read ofWord
  | .convert f inner =>
    rw [Format.read, toOption_map, inner.toOption_read read room, Format.accept?, leaving_map]
  | .option inner =>
    exact Format.ReadsAs.option (fun read room => inner.toOption_read read room) read room
  | .list inner =>
    exact Format.ReadsAs.list (fun read room => inner.toOption_read read room) read room
  | .bare a =>
    rw [Format.read, read, Format.accept?, ← toOption_decodeBare]
    exact toOption_orStopped (decodeBare a v) rest
  | .record name fields make =>
    exact Format.readsAs_record
      (fun marked here room => fields.toOption_readEntry marked here room _)
      (fun elements room => fields.leavesElements_readInOrder elements room) read room
  | .node name variants other => exact Format.readsAs_node name variants other read room
termination_by structural format

/-- One entry of a record. Behind the last field the key is known to be unknown; its value is passed
over and not read, and that this ends at the same place is what `skipValue_of_readValue` is for. -/
theorem Fields.toOption_readEntry {π σ : Type} (fields : Fields π σ) {bound depth : Nat}
    {key : String} {colon before rest : List Char} {v : Value}
    (marked : readColon colon = .ok before) (here : readValue bound depth before = .ok (v, rest))
    (room : before.length < bound) (slots : π) :
    (fields.readEntry bound depth key colon slots).toOption =
      leaving rest (fields.takeEntry? true key v slots) := by
  match fields, slots with
  | .done, () =>
    rw [Fields.readEntry, marked]
    show ((skipValue bound before).map _).toOption = _
    rw [skipValue_of_readValue here room]
    rfl
  | .field name format presence others, (slot, slots) =>
    simp only [Fields.readEntry, Fields.takeEntry?]
    split
    · split
      · rfl
      · rw [marked]
        show ((format.read bound depth before).map _).toOption = _
        rw [toOption_map, format.toOption_read here room, leaving_map]
    · rw [toOption_map, others.toOption_readEntry marked here room, leaving_map]
termination_by structural fields

/-- The fields from the elements of an array. Where the array ends early, the reader stays in front
of the bracket and looks at it again for each remaining field. -/
theorem Fields.leavesElements_readInOrder {π σ : Type} (fields : Fields π σ) {bound depth : Nat}
    {first : Bool} {s closing : List Char} {vs : List Value}
    (h : Elements (readValue bound depth) first s vs closing) (room : s.length < bound)
    (expected : Expectation) (index : Nat) :
    LeavesElements bound depth closing (fields.readInOrder bound depth expected index first s)
      (fields.inOrder? true vs) := by
  match fields with
  | .done => exact ⟨first, s, rfl, h⟩
  | .field name format presence others =>
    cases h with
    | done none =>
      cases presence with
      | optional a =>
        -- The white space in front of the bracket has been skipped by now, which the relation does
        -- not mind.
        have here : Elements (readValue bound depth) first (skipSpace s) [] (skipSpace s) := by
          have again : nextElement first (skipSpace s) = .ok Option.none := by
            rw [← none, nextElement, nextElement, skipSpace_skipSpace]
          have ends : Elements (readValue bound depth) first (skipSpace s) []
              (skipSpace (skipSpace s)) := .done again
          rwa [skipSpace_skipSpace] at ends
        simp only [Fields.readInOrder, none, Fields.inOrder?]
        exact (others.leavesElements_readInOrder here
          (Nat.lt_of_le_of_lt (length_skipSpace_le s) room) expected (index + 1)).map _
      | required | optionalKey =>
        simp only [Fields.readInOrder, none, Fields.inOrder?]
        rfl
    | @more _ _ before after _ v vs next here elements =>
      have := length_of_nextElement next
      have := length_of_readValue here
      have read := format.toOption_read here (by omega)
      simp only [Fields.readInOrder, next, Fields.inOrder?]
      cases found : format.accept? true v with
      | none =>
        rw [found] at read
        obtain ⟨fault, failed⟩ := eq_error_of_toOption read
        rw [failed]
        rfl
      | some a =>
        rw [found] at read
        rw [eq_ok_of_toOption read]
        exact (others.leavesElements_readInOrder elements (by omega) expected (index + 1)).map _
termination_by structural fields

end

/-! ## Whole texts -/

/-- The value that a text holds, if it is well formed, its numbers are in range and it is not nested
too deeply. -/
def valueOf? (text : List Char) : Option Value :=
  match readValue (text.length + 1) nestingLimit text with
  | .error _ => none
  | .ok (v, rest) =>
    match skipSpace rest with
    | [] => some v
    | _ => none

theorem valueOf?_eq_some_iff {text : List Char} {v : Value} :
    valueOf? text = some v ↔
      ∃ rest, readValue (text.length + 1) nestingLimit text = .ok (v, rest) ∧
        skipSpace rest = [] := by
  unfold valueOf?
  obtain _ | ⟨w, rest⟩ := readValue (text.length + 1) nestingLimit text
  · simp
  · cases ends : skipSpace rest <;> simp [ends, and_assoc]

/-- **What a format makes of a text depends only on the value that the text holds.** This is the
form in which the module is used: to compare two texts, compare the values they hold. -/
theorem Format.toOption_parse {α : Type} (format : Format α) {text : String} {v : Value}
    (h : valueOf? text.toList = some v) :
    (format.parse text).toOption = format.accept? true v := by
  obtain ⟨rest, read, ends⟩ := valueOf?_eq_some_iff.1 h
  have direct := format.toOption_read read (Nat.lt_succ_self _)
  cases found : format.accept? true v with
  | none =>
    rw [found] at direct
    obtain ⟨fault, failed⟩ := eq_error_of_toOption direct
    rw [Format.parse, Format.readAll, failed]
    rfl
  | some a =>
    rw [found] at direct
    rw [Format.parse, Format.readAll, eq_ok_of_toOption direct]
    simp only [ends]
    rfl

end ScalaFacade.Json
