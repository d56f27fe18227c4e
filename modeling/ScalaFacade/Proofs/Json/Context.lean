import ScalaFacade.Proofs.Json.Grammar

/-! # Reading in context

What is read from a well-formed part of a text does not depend on the text around it, on the depth
it stands at or on the bound for the rounds of a container, as long as there is room for it
(`Spells.meaningful`). So a value has the same meaning alone and inside of another one, also where
that meaning is that it cannot be read.

This is what allows to compare a list of statements with the object that has it as its only entry:
the list is written once and stands in two contexts, one level deeper and behind a key in the
second. Nothing about documents is needed for that, only that the reader is local.

Every statement has the form of a *meaning in context*: `Means n s after meaning` quantifies over
the bound, the depth and the text behind, and gives the outcome. `after` is the white space that an
element has at its end, which is left by the reader of the value and taken by the loop around it.
For the parts of containers the loop itself is what reads them, so `ElementsMean` and `MembersMean`
also quantify over where the loop stands (`Standing`) and what it has collected.

The induction is over the grammar, with one lemma for each production; a text that is well formed
but cannot be read has the meaning `none`, and the lemmas pass that on like any other meaning.
-/

set_option autoImplicit false

namespace ScalaFacade.Json

/-! ## Where a container is read on

A loop stands in front of an item in two ways, at the start of the container or in front of a comma.
After the step to the item both are the same. -/

/-- The place from which `s` is read as the next item of a container. White space in front of the
item itself belongs to `s`; that in front of a comma was left behind by the item before. -/
inductive Standing (s : List Char) : (first : Bool) → List Char → Prop where
  | start : Standing s true s
  | comma {gap : List Char} (blank : IsGap gap) : Standing s false (gap ++ ',' :: s)

section

variable {first : Bool} {s t x : List Char}

theorem Standing.nextElement_eq (h : Standing s first x) {c : Char} (start : skipSpace s = c :: t)
    (opens : c ≠ ']') : nextElement first x = .ok (some (c :: t)) := by
  cases h with
  | start => simp [nextElement, start, opens]
  | comma blank =>
    have comma := skipSpace_of_head (c := ',') rfl s
    simp [nextElement, skipSpace_gap blank, comma, start, opens]

theorem Standing.nextKey_eq (h : Standing s first x) (start : skipSpace s = '"' :: t) :
    nextKey first x = (readString [] t).map some := by
  cases h with
  | start => simp [nextKey, start]
  | comma blank =>
    have comma := skipSpace_of_head (c := ',') rfl s
    simp [nextKey, skipSpace_gap blank, comma, start]

end

/-- At the closing bracket the loop ends, in the first round as in any other. One round has to be
left for that, which is why the rounds are positive. -/
theorem readElements_closing {σ : Type} (step : σ → List Char → Outcome σ) {rounds : Nat}
    (some : 0 < rounds) (first : Bool) (state : σ) {gap : List Char} (blank : IsGap gap)
    (tail : List Char) :
    readElements step rounds first state (gap ++ ']' :: tail) = .ok (state, ']' :: tail) := by
  obtain ⟨rounds, rfl⟩ := Nat.exists_eq_succ_of_ne_zero (Nat.ne_zero_of_lt some)
  have closing := (skipSpace_gap blank (']' :: tail)).trans (skipSpace_of_head rfl tail)
  simp [readElements, nextElement, closing]

theorem readEntries_closing {σ : Type} (step : σ → String → List Char → Outcome σ) {rounds : Nat}
    (some : 0 < rounds) (first : Bool) (state : σ) {gap : List Char} (blank : IsGap gap)
    (tail : List Char) :
    readEntries step rounds first state (gap ++ '}' :: tail) = .ok (state, '}' :: tail) := by
  obtain ⟨rounds, rfl⟩ := Nat.exists_eq_succ_of_ne_zero (Nat.ne_zero_of_lt some)
  have closing := (skipSpace_gap blank ('}' :: tail)).trans (skipSpace_of_head rfl tail)
  simp [readEntries, nextKey, closing]

/-- What stands behind a mark is shorter than the whole. Used for every bound on rounds and room
below, where the mark is a comma or a bracket. -/
theorem length_behind (s : List Char) (c : Char) (t : List Char) :
    t.length < (s ++ c :: t).length := by
  rw [List.length_append, List.length_cons]
  omega

theorem readColon_gap {gap : List Char} (blank : IsGap gap) (s : List Char) :
    readColon (gap ++ ':' :: s) = .ok s := by
  have colon := (skipSpace_gap blank (':' :: s)).trans (skipSpace_of_head rfl s)
  simp [readColon, colon]

/-! ## Values

A value in front of a delimiter. Scalars come from the grammar, containers from the sections
below. -/

/-- `s` is read as `meaning` wherever there is room for it, up to the white space at its end. Room
is a depth of at least `n` and a bound above the length of the text, behind included: the loops
inside count their rounds against that bound. -/
def Means (n : Nat) (s after : List Char) (meaning : Option Value) : Prop :=
  ∀ {bound depth : Nat} {tail : List Char}, n ≤ depth → Delimited tail →
    (s ++ tail).length < bound →
    (readValue bound depth (s ++ tail)).toOption = leaving (after ++ tail) meaning

theorem readValue_of_readScalar? {c : Char} {s : List Char} {outcome : Outcome Value}
    (plain : isSpace c = false) (h : readScalar? (c :: s) = some outcome) (bound depth : Nat) :
    readValue bound depth (c :: s) = outcome := by
  rw [readValue, skipSpace_of_head plain]
  simp only [h]

theorem means_scalar {s : List Char} (h : ScalarText s) : ∃ meaning, Means 0 s [] meaning := by
  obtain ⟨meaning, means⟩ := h.means
  refine ⟨meaning, fun _ delimited _ => ?_⟩
  obtain ⟨outcome, read, same⟩ := means _ delimited
  obtain ⟨c, t, rfl, opens⟩ := (Spells.scalar h).opens
  rw [List.cons_append] at read ⊢
  rw [readValue_of_readScalar? opens.plain.1 read, same, List.nil_append]

/-- White space around a value is passed over in front of it and left behind it. -/
theorem Means.surrounded {n : Nat} {before s after : List Char} {meaning : Option Value}
    (h : Means n s [] meaning) (gap : IsGap before) (gap' : IsGap after) :
    Means n (before ++ (s ++ after)) after meaning := by
  intro bound depth tail nesting delimited room
  rw [List.append_assoc, List.append_assoc] at room ⊢
  rw [List.length_append] at room
  rw [← readValue_skipSpace, skipSpace_gap gap, readValue_skipSpace]
  exact h nesting (delimited.gap gap') (by omega)

/-! ## Arrays

The elements of an array from any one of them on, and the array around them. -/

/-- Reads one element and puts it in front of those that have been read. -/
def readItem (bound depth : Nat) (read : List Value) (s : List Char) : Outcome (List Value) :=
  (readValue bound depth s).map fun (v, s) => (v :: read, s)

/-- `s` is read as the last elements of an array. The bound of the values inside and the rounds of
this loop are two numbers, though the reader starts with one for both: the rounds go down from
element to element. -/
def ElementsMean (n : Nat) (s : List Char) (meaning : Option (List Value)) : Prop :=
  ∀ {bound depth rounds : Nat} {first : Bool} {x tail : List Char} (taken : List Value),
    n ≤ depth → (s ++ ']' :: tail).length < bound → (s ++ ']' :: tail).length < rounds →
    Standing (s ++ ']' :: tail) first x →
    (readElements (readItem bound depth) rounds first taken x).toOption =
      leaving (']' :: tail) (meaning.map fun vs => vs.reverse ++ taken)

theorem readValue_openArray (bound depth : Nat) (s : List Char) :
    readValue bound (depth + 1) ('[' :: s) =
      closingArray ((readElements (readItem bound depth) bound true [] s).map fun (read, s) =>
        (.array read.reverse, s)) := by
  rw [readValue, skipSpace_of_head rfl]
  rfl

theorem means_emptyArray {gap : List Char} (blank : IsGap gap) :
    Means 1 ('[' :: (gap ++ [']'])) [] (some (.array [])) := by
  intro bound depth tail nesting _ room
  obtain ⟨depth, rfl⟩ := Nat.exists_eq_succ_of_ne_zero (Nat.ne_zero_of_lt nesting)
  rw [List.cons_append, List.append_assoc, List.singleton_append, readValue_openArray,
    readElements_closing _ (Nat.zero_lt_of_lt room) _ _ blank]
  rfl

/-- Brackets around elements make an array. One level of depth is used up, and the loop starts with
a bound that is above the length of what it reads. -/
theorem ElementsMean.array {n : Nat} {s : List Char} {meaning : Option (List Value)}
    (h : ElementsMean n s meaning) :
    Means (n + 1) ('[' :: (s ++ [']'])) [] (meaning.map .array) := by
  intro bound depth tail nesting _ room
  obtain ⟨depth, rfl⟩ := Nat.exists_eq_succ_of_ne_zero (Nat.ne_zero_of_lt nesting)
  rw [List.cons_append, List.append_assoc, List.singleton_append, List.length_cons] at room
  rw [List.cons_append, List.append_assoc, List.singleton_append, readValue_openArray]
  have smaller : (s ++ ']' :: tail).length < bound := by omega
  have inside := h [] (Nat.le_of_succ_le_succ nesting) smaller smaller .start
  have whole : ((readElements (readItem bound depth) bound true [] (s ++ ']' :: tail)).map
      fun (read, s) => (Value.array read.reverse, s)).toOption =
        leaving (']' :: tail) (meaning.map .array) := by
    rw [toOption_map, inside]
    cases meaning <;> simp
  exact toOption_closingArray whole rfl

/-- **One round of an array**: an element that means something is collected and the loop goes on
behind it, with the white space at its end still there; an element without a meaning ends it. -/
theorem Means.readElements_eq {n : Nat} {s after : List Char} {meaning : Option Value}
    (h : Means n s after meaning) {bound depth : Nat} {first : Bool} {tail x : List Char}
    (opens : ∃ c t, skipSpace (s ++ tail) = c :: t ∧ c ≠ ']') (nesting : n ≤ depth)
    (delimited : Delimited tail) (room : (s ++ tail).length < bound)
    (standing : Standing (s ++ tail) first x) (rounds : Nat) (taken : List Value) :
    (readElements (readItem bound depth) (rounds + 1) first taken x).toOption =
      meaning.bind fun v => (readElements (readItem bound depth) rounds false (v :: taken)
        (after ++ tail)).toOption := by
  obtain ⟨c, t, start, open'⟩ := opens
  rw [toOption_readElements_more (standing.nextElement_eq start open'), ← start, readItem,
    readValue_skipSpace, toOption_map, h nesting delimited room]
  cases meaning <;> rfl

theorem ElementsMean.last {n : Nat} {s after : List Char} {meaning : Option Value}
    (h : Means n s after meaning) (gap : IsGap after)
    (opens : ∀ tail, ∃ c t, skipSpace (s ++ tail) = c :: t ∧ c ≠ ']') :
    ElementsMean n s (meaning.map fun v => [v]) := by
  intro bound depth rounds first x tail taken nesting room round standing
  have shorter := length_behind s ']' tail
  obtain ⟨rounds, rfl⟩ := Nat.exists_eq_succ_of_ne_zero (Nat.ne_zero_of_lt round)
  rw [h.readElements_eq (opens _) nesting (by simp [Delimited]) room standing]
  cases meaning with
  | none => rfl
  | some v =>
    rw [Option.bind_some, readElements_closing _ (by omega) _ _ gap]
    rfl

/-- An element in front of others. The depth of the whole is the larger one of the two, and the
comma puts the loop in front of the others. -/
theorem ElementsMean.more {n m : Nat} {s after others : List Char} {meaning : Option Value}
    {rest : Option (List Value)} (h : Means n s after meaning) (gap : IsGap after)
    (opens : ∀ tail, ∃ c t, skipSpace (s ++ tail) = c :: t ∧ c ≠ ']')
    (below : ElementsMean m others rest) :
    ElementsMean (max n m) (s ++ ',' :: others) (meaning.bind fun v => rest.map (v :: ·)) := by
  intro bound depth rounds first x tail taken nesting room round standing
  obtain ⟨here, there⟩ := Nat.max_le.1 nesting
  rw [List.append_assoc, List.cons_append] at room round standing
  have shorter := length_behind s ',' (others ++ ']' :: tail)
  obtain ⟨rounds, rfl⟩ := Nat.exists_eq_succ_of_ne_zero (Nat.ne_zero_of_lt round)
  rw [h.readElements_eq (opens _) here (by simp [Delimited]) room standing]
  cases meaning with
  | none => rfl
  | some v =>
    have room := Nat.lt_trans shorter room
    rw [Option.bind_some, below (v :: taken) there room (by omega) (.comma gap)]
    cases rest <;> simp

/-! ## Objects

The same for entries. An entry is a key, a colon and a value, and may fail in the key, so that it
has a meaning of its own. -/

/-- Reads the value of one entry and puts the entry in front of those that have been read. -/
def readMember (bound depth : Nat) (read : List (String × Value)) (key : String) (s : List Char) :
    Outcome (List (String × Value)) :=
  (readColon s).bind fun s => (readValue bound depth s).map fun (v, s) => ((key, v) :: read, s)

/-- `s` is read as one entry of an object, up to the white space at its end. It is stated as a round
of the loop and not as a reader, since the reader of objects has no function for an entry with its
key. -/
def MemberMeans (n : Nat) (s after : List Char) (meaning : Option (String × Value)) : Prop :=
  ∀ {bound depth rounds : Nat} {first : Bool} {x tail : List Char} (taken : List (String × Value)),
    n ≤ depth → Delimited tail → (s ++ tail).length < bound → Standing (s ++ tail) first x →
    (readEntries (readMember bound depth) (rounds + 1) first taken x).toOption =
      meaning.bind fun entry =>
        (readEntries (readMember bound depth) rounds false (entry :: taken)
          (after ++ tail)).toOption

/-- `s` is read as the last entries of an object. -/
def MembersMean (n : Nat) (s : List Char) (meaning : Option (List (String × Value))) : Prop :=
  ∀ {bound depth rounds : Nat} {first : Bool} {x tail : List Char} (taken : List (String × Value)),
    n ≤ depth → (s ++ '}' :: tail).length < bound → (s ++ '}' :: tail).length < rounds →
    Standing (s ++ '}' :: tail) first x →
    (readEntries (readMember bound depth) rounds first taken x).toOption =
      leaving ('}' :: tail) (meaning.map fun entries => entries.reverse ++ taken)

theorem readValue_openObject (bound depth : Nat) (s : List Char) :
    readValue bound (depth + 1) ('{' :: s) =
      closingObject ((readEntries (readMember bound depth) bound true [] s).map fun (read, s) =>
        (.object read.reverse, s)) := by
  rw [readValue, skipSpace_of_head rfl]
  rfl

theorem means_emptyObject {gap : List Char} (blank : IsGap gap) :
    Means 1 ('{' :: (gap ++ ['}'])) [] (some (.object [])) := by
  intro bound depth tail nesting _ room
  obtain ⟨depth, rfl⟩ := Nat.exists_eq_succ_of_ne_zero (Nat.ne_zero_of_lt nesting)
  rw [List.cons_append, List.append_assoc, List.singleton_append, readValue_openObject,
    readEntries_closing _ (Nat.zero_lt_of_lt room) _ _ blank]
  rfl

theorem MembersMean.object {n : Nat} {s : List Char} {meaning : Option (List (String × Value))}
    (h : MembersMean n s meaning) :
    Means (n + 1) ('{' :: (s ++ ['}'])) [] (meaning.map .object) := by
  intro bound depth tail nesting _ room
  obtain ⟨depth, rfl⟩ := Nat.exists_eq_succ_of_ne_zero (Nat.ne_zero_of_lt nesting)
  rw [List.cons_append, List.append_assoc, List.singleton_append, List.length_cons] at room
  rw [List.cons_append, List.append_assoc, List.singleton_append, readValue_openObject]
  have smaller : (s ++ '}' :: tail).length < bound := by omega
  have inside := h [] (Nat.le_of_succ_le_succ nesting) smaller smaller .start
  have whole : ((readEntries (readMember bound depth) bound true [] (s ++ '}' :: tail)).map
      fun (read, s) => (Value.object read.reverse, s)).toOption =
        leaving ('}' :: tail) (meaning.map .object) := by
    rw [toOption_map, inside]
    cases meaning <;> simp
  exact toOption_closingObject whole rfl

/-- A key and the value after it make an entry. If the key cannot be read, neither can the entry,
whatever its value is. -/
theorem Means.member {n : Nat} {before key colon s after : List Char} {meaning : Option Value}
    {name : Option (List Char)} (h : Means n s after meaning) (gap : IsGap before)
    (inside : InsideMeans key name) (gap' : IsGap colon) :
    MemberMeans n (before ++ '"' :: (key ++ '"' :: (colon ++ ':' :: s))) after
      (name.bind fun name => meaning.map fun v => (.ofList name, v)) := by
  intro bound depth rounds first x tail taken nesting delimited room standing
  simp only [List.append_assoc, List.cons_append] at room standing
  have start := (skipSpace_gap gap _).trans
    (skipSpace_of_head (c := '"') rfl (key ++ '"' :: (colon ++ ':' :: (s ++ tail))))
  have next := standing.nextKey_eq start
  have named := inside [] (colon ++ ':' :: (s ++ tail))
  -- A key with half of a character in it is well formed and cannot be read.
  cases name with
  | none =>
    obtain ⟨fault, failed⟩ := eq_error_of_toOption named
    rw [readEntries, next, failed]
    rfl
  | some name =>
    rw [eq_ok_of_toOption named] at next
    simp only [List.length_append, List.length_cons] at room
    rw [toOption_readEntries_more next, readMember, readColon_gap gap', Except.bind, toOption_map,
      h nesting delimited (by rw [List.length_append]; omega)]
    cases meaning <;> rfl

theorem MembersMean.last {n : Nat} {s after : List Char} {meaning : Option (String × Value)}
    (h : MemberMeans n s after meaning) (gap : IsGap after) :
    MembersMean n s (meaning.map fun entry => [entry]) := by
  intro bound depth rounds first x tail taken nesting room round standing
  have shorter := length_behind s '}' tail
  obtain ⟨rounds, rfl⟩ := Nat.exists_eq_succ_of_ne_zero (Nat.ne_zero_of_lt round)
  rw [h taken nesting (by simp [Delimited]) room standing]
  cases meaning with
  | none => rfl
  | some entry =>
    rw [Option.bind_some, readEntries_closing _ (by omega) _ _ gap]
    rfl

theorem MembersMean.more {n m : Nat} {s after others : List Char}
    {meaning : Option (String × Value)} {rest : Option (List (String × Value))}
    (h : MemberMeans n s after meaning) (gap : IsGap after) (below : MembersMean m others rest) :
    MembersMean (max n m) (s ++ ',' :: others)
      (meaning.bind fun entry => rest.map (entry :: ·)) := by
  intro bound depth rounds first x tail taken nesting room round standing
  obtain ⟨here, there⟩ := Nat.max_le.1 nesting
  rw [List.append_assoc, List.cons_append] at room round standing
  have shorter := length_behind s ',' (others ++ '}' :: tail)
  obtain ⟨rounds, rfl⟩ := Nat.exists_eq_succ_of_ne_zero (Nat.ne_zero_of_lt round)
  rw [h taken here (by simp [Delimited]) room standing]
  cases meaning with
  | none => rfl
  | some entry =>
    have room := Nat.lt_trans shorter room
    rw [Option.bind_some, below (entry :: taken) there room (by omega) (.comma gap)]
    cases rest <;> simp

/-! ## All parts

The five kinds of part and what is known of each. An element also has to be found by the loop, so
its first character comes along. -/

/-- A part of a text has a meaning of its own. For an element it is also said that it starts with
something other than the closing bracket, whatever follows, since that is how the loop tells it from
the end. -/
def Meaningful : Part → Nat → List Char → Prop
  | .value _, n, s => ∃ meaning, Means n s [] meaning
  | .element _, n, s =>
    (∃ after meaning, IsGap after ∧ Means n s after meaning) ∧
      ∀ tail, ∃ c t, skipSpace (s ++ tail) = c :: t ∧ c ≠ ']'
  | .elements, n, s => ∃ meaning, ElementsMean n s meaning
  | .member, n, s => ∃ after meaning, IsGap after ∧ MemberMeans n s after meaning
  | .members, n, s => ∃ meaning, MembersMean n s meaning

/-- **What is read from a well-formed part of a text does not depend on what surrounds it.** By
induction on the grammar; each production is one of the lemmas above, and no case looks into the
reader. -/
theorem Spells.meaningful {part : Part} {n : Nat} {s : List Char} (h : Spells part n s) :
    Meaningful part n s := by
  induction h with
  | scalar text => exact means_scalar text
  | emptyArray blank => exact ⟨_, means_emptyArray blank⟩
  | array _ ih =>
    obtain ⟨meaning, means⟩ := ih
    exact ⟨_, means.array⟩
  | emptyObject blank => exact ⟨_, means_emptyObject blank⟩
  | object _ ih =>
    obtain ⟨meaning, means⟩ := ih
    exact ⟨_, means.object⟩
  | element gap value gap' ih =>
    obtain ⟨meaning, means⟩ := ih
    refine ⟨⟨_, _, gap', means.surrounded gap gap'⟩, fun tail => ?_⟩
    obtain ⟨c, t, rfl, opens⟩ := value.opens
    rw [List.append_assoc, skipSpace_gap gap]
    exact ⟨_, _, skipSpace_of_head opens.plain.1 _, opens.plain.2⟩
  | lastElement _ ih =>
    obtain ⟨⟨_, _, gap, means⟩, opens⟩ := ih
    exact ⟨_, ElementsMean.last means gap opens⟩
  | moreElements _ _ ih ih' =>
    obtain ⟨⟨_, _, gap, means⟩, opens⟩ := ih
    obtain ⟨_, below⟩ := ih'
    exact ⟨_, ElementsMean.more means gap opens below⟩
  | member gap inside gap' _ ih =>
    obtain ⟨⟨_, _, blank, means⟩, -⟩ := ih
    obtain ⟨_, named⟩ := inside.means
    exact ⟨_, _, blank, means.member gap named gap'⟩
  | lastMember _ ih =>
    obtain ⟨_, _, gap, means⟩ := ih
    exact ⟨_, MembersMean.last means gap⟩
  | moreMembers _ _ ih ih' =>
    obtain ⟨_, _, gap, means⟩ := ih
    obtain ⟨_, below⟩ := ih'
    exact ⟨_, MembersMean.more means gap below⟩

end ScalaFacade.Json
