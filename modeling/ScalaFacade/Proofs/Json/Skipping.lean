import ScalaFacade.Proofs.Json.Spelling

/-! # Passing over a value

The value of an unknown key is not read. It is passed over by a loop of its own that knows neither
depth nor values, only a list of open brackets. That an unknown key may be left out, or given any
value, without a change to the result, needs the two to meet:

> a value that can be read can be passed over, and both leave the same text
> (`skipValue_of_readValue`).

The two are hard to compare directly, for two reasons, and each has its section.

* Reading goes deeper where passing over puts a bracket on its list, and comes back where passing
  over takes one off. There is no point in passing over an array at which the array is finished: it
  closes the brackets as far as it can and goes on with whatever is due next. So what is shown of a
  value is shown *inside any brackets*: if the text behind the value leads to `rest`, then the text
  from the value on does (`Passes`). The way on behind the value is a hypothesis (`Leads`), and the
  induction over values composes such ways.
* Passing over counts the values it meets against a bound, reading counts rounds of each loop.
  `Leads` therefore asks for some bound, and only at the end it turns out that the length of the
  text is always enough (`skipValues_of_length`).

The converse fails: a value may be passed over that is nested too deep to be read, or has a number
out of range.
-/

set_option autoImplicit false

namespace ScalaFacade.Json

/-! ## Passing over

`onwardFrom` is the body of one round, cut out so that it can be stated what it leads to without the
bound. -/

/-- Where the text is taken up again ends at `rest` after some number of values. If all brackets are
closed it ends there at once. A fault leads nowhere, so that `Leads` includes that there was
none. -/
def Leads (onward : Except Fault Onward) (rest : List Char) : Prop :=
  match onward with
  | .ok (.done s) => s = rest
  | .ok (.more brackets s) => ∃ bound, skipValues bound brackets s = .ok rest
  | .error _ => False

/-- Where the text is taken up again after the value or bracket that starts it. -/
def onwardFrom (brackets : List Bracket) (s : List Char) : Except Fault Onward :=
  match skipScalar? s with
  | some outcome => outcome.bind (afterValue brackets)
  | none =>
    match s with
    | [] => .error (.past .eofValue [])
    | c :: rest =>
      if c = '[' then afterOpening .array brackets rest
      else if c = '{' then afterOpening .object brackets rest
      else .error (.past .expectedValue s)

theorem skipValues_succ (bound : Nat) (brackets : List Bracket) (s : List Char) :
    skipValues (bound + 1) brackets s =
      match onwardFrom brackets (skipSpace s) with
      | .error fault => .error fault
      | .ok (.done s) => .ok s
      | .ok (.more brackets s) => skipValues bound brackets s := rfl

/-- One more round in front: what the first value or bracket leads to is where the whole leads to.
The bound is one more than the one found behind it. -/
theorem skipValues_of_leads {brackets : List Bracket} {s rest : List Char}
    (h : Leads (onwardFrom brackets (skipSpace s)) rest) :
    ∃ bound, skipValues bound brackets s = .ok rest := by
  unfold Leads at h
  split at h
  · next t onward => exact ⟨1, by rw [skipValues_succ, onward]; exact congrArg Except.ok h⟩
  · next brackets' t onward =>
    obtain ⟨bound, skipped⟩ := h
    exact ⟨bound + 1, by rw [skipValues_succ, onward]; exact skipped⟩
  · cases h

/-- White space in front of a value does not matter. -/
theorem exists_skipValues_skipSpace {brackets : List Bracket} {s rest : List Char}
    (h : ∃ bound, skipValues bound brackets (skipSpace s) = .ok rest) :
    ∃ bound, skipValues bound brackets s = .ok rest := by
  obtain ⟨bound, skipped⟩ := h
  cases bound with
  | zero => cases skipped
  | succ bound =>
    rw [skipValues_succ, skipSpace_skipSpace, ← skipValues_succ] at skipped
    exact ⟨bound + 1, skipped⟩

/-- What `read` can read can be passed over inside any brackets. The brackets are quantified behind
the value, because the same value is met inside different ones, and the text behind it has to lead
on in the brackets at hand. -/
def Passes (read : List Char → Outcome Value) : Prop :=
  ∀ {s after : List Char} {v : Value}, read s = .ok (v, after) →
    ∀ {brackets : List Bracket} {rest : List Char}, Leads (afterValue brackets after) rest →
      ∃ bound, skipValues bound brackets s = .ok rest

section

variable {read : List Char → Outcome Value} {brackets : List Bracket} {after rest : List Char}

/-- **The inside of an array, from any of its elements on.** In front of the first element passing
over has just opened the bracket, in front of a later one it stands behind a value; the statement
covers both by the flag of `Elements`, and the induction is over that relation from the closing
bracket backwards. -/
theorem Elements.leads (passes : Passes read) {first : Bool} {s closing : List Char}
    {vs : List Value} (h : Elements read first s vs closing) (closed : endArray closing = .ok after)
    (outer : Leads (afterValue brackets after) rest) :
    Leads (if first then afterOpening .array brackets s else afterValue (.array :: brackets) s)
      rest := by
  induction h with
  -- At the closing bracket, which both have found behind the same white space. What follows is
  -- outside this array and is given by `outer`.
  | @done first s none =>
    obtain ⟨t, bracket⟩ := nextElement_none none
    have ends := skipSpace_of_endArray closed
    rw [skipSpace_skipSpace, bracket] at ends
    cases ends
    cases first <;> simpa [afterOpening, afterValue, bracket, Bracket.closing] using outer
  | @more first s before after rest v vs next here _ ih =>
    have inside := passes here (ih closed)
    -- The element either comes right behind the opening bracket or behind a comma, which passing
    -- over takes together with the brackets.
    obtain ⟨rfl, rfl, c, t, start, other⟩ | ⟨rfl, t, comma, rfl⟩ := nextElement_some next
    · have onward : afterOpening .array brackets s = .ok (.more (.array :: brackets) (skipSpace s)) := by
        simp [afterOpening, start, Bracket.closing, other, skipKey]
      rw [if_pos rfl, onward]
      exact inside
    · have onward : afterValue (.array :: brackets) s = .ok (.more (.array :: brackets) t) := by
        simp [afterValue, comma, skipKey]
      rw [if_neg Bool.false_ne_true, onward]
      exact exists_skipValues_skipSpace inside

/-- **The inside of an object, from any of its entries on.** The argument for arrays, with a key and
its colon in front of each value. Passing over does not look at the key, but it has to be a string.
-/
theorem Entries.leads (passes : Passes read) {first : Bool} {s closing : List Char}
    {entries : List (String × Value)} (h : Entries read first s entries closing)
    (closed : endObject closing = .ok after) (outer : Leads (afterValue brackets after) rest) :
    Leads (if first then afterOpening .object brackets s else afterValue (.object :: brackets) s)
      rest := by
  induction h with
  | @done first s none =>
    obtain ⟨t, bracket⟩ := nextKey_none none
    have ends := skipSpace_of_endObject closed
    rw [skipSpace_skipSpace, bracket] at ends
    cases ends
    cases first <;> simpa [afterOpening, afterValue, bracket, Bracket.closing] using outer
  | @more first s colon before after rest key v entries next marked here _ ih =>
    have inside := passes here (ih closed)
    -- The key is passed over as a string, wherever it starts.
    have key {t u : List Char} (quote : skipSpace t = '"' :: u)
        (read : readString [] u = .ok (key, colon)) :
        skipKey (.object :: brackets) t = .ok (.more (.object :: brackets) before) := by
      simp only [skipKey, quote, ↓reduceIte]
      rw [skipString_of_readString read]
      show (readColon colon).bind _ = _
      rw [marked]
      rfl
    obtain ⟨rfl, t, quote, read⟩ | ⟨rfl, t, u, comma, quote, read⟩ := nextKey_some next
    · have onward : afterOpening .object brackets s = skipKey (.object :: brackets) (skipSpace s) := by
        simp [afterOpening, quote, Bracket.closing]
      rw [if_pos rfl, onward, key (by rw [skipSpace_skipSpace, quote]) read]
      exact inside
    · have onward : afterValue (.object :: brackets) s = skipKey (.object :: brackets) t := by
        simp [afterValue, comma]
      rw [if_neg Bool.false_ne_true, onward, key quote read]
      exact inside

end

/-- By induction on the depth: the elements of an array are passed over because they are read with
one level less. A scalar leads on by `afterValue`, whatever the depth. -/
theorem passes_readValue (bound depth : Nat) : Passes (readValue bound depth) := by
  have scalar {s after : List Char} {v : Value}
      (read : readScalar? (skipSpace s) = some (.ok (v, after))) {brackets : List Bracket}
      {rest : List Char} (outer : Leads (afterValue brackets after) rest) :
      ∃ bound, skipValues bound brackets s = .ok rest := by
    refine skipValues_of_leads ?_
    rw [onwardFrom.eq_def, (skipScalar?_of_readScalar? read).1]
    exact outer
  induction depth with
  | zero =>
    intro s after v h brackets rest outer
    cases reads_of_readValue h with
    | scalar read => exact scalar read outer
  | succ depth ih =>
    intro s after v h brackets rest outer
    cases reads_of_readValue h with
    | scalar read => exact scalar read outer
    | array opening inner closed =>
      refine skipValues_of_leads ?_
      rw [opening]
      exact inner.leads ih closed outer
    | object opening inner closed =>
      refine skipValues_of_leads ?_
      rw [opening]
      exact inner.leads ih closed outer

/-! ## Enough rounds

A round that leaves another value due has taken at least one character. Nothing is said about the round
that finishes, which is why these lemmas are only about `.more`. -/

theorem length_of_skipKey {brackets brackets' : List Bracket} {s rest : List Char}
    (h : skipKey brackets s = .ok (.more brackets' rest)) : rest.length ≤ s.length := by
  unfold skipKey at h
  split at h
  · split at h
    · cases h
    · next c t start =>
      split at h
      · obtain ⟨colon, skipped, h⟩ := bind_eq_ok.1 h
        obtain ⟨before, marked, same⟩ := bind_eq_ok.1 h
        cases same
        have := length_of_skipSpace_cons start
        have := length_of_skipString skipped
        have := length_of_skipSpace_cons (skipSpace_of_readColon marked)
        omega
      · cases h
  · cases h
    exact Nat.le_refl _

theorem length_of_afterValue {brackets brackets' : List Bracket} {s rest : List Char}
    (h : afterValue brackets s = .ok (.more brackets' rest)) : rest.length ≤ s.length := by
  induction brackets generalizing s with
  | nil => cases h
  | cons bracket outer ih =>
    rw [afterValue] at h
    split at h
    · cases h
    · next c t start =>
      have := length_of_skipSpace_cons start
      split at h
      · have := length_of_skipKey h
        omega
      · split at h
        · have := ih h
          omega
        · cases h

theorem length_of_afterOpening {bracket : Bracket} {outer brackets : List Bracket}
    {s rest : List Char} (h : afterOpening bracket outer s = .ok (.more brackets rest)) :
    rest.length ≤ s.length := by
  unfold afterOpening at h
  split at h
  · cases h
  · next c t start =>
    have := length_skipSpace_le s
    rw [start, List.length_cons] at this
    split at h
    · have := length_of_afterValue h
      omega
    · have := length_of_skipKey h
      rw [List.length_cons] at this
      omega

/-- **Every round takes a character**: the first of its scalar or the bracket it opens. What comes
behind, closing brackets and keys, takes none away again. -/
theorem length_of_onwardFrom {brackets brackets' : List Bracket} {s rest : List Char}
    (h : onwardFrom brackets s = .ok (.more brackets' rest)) : rest.length < s.length := by
  unfold onwardFrom at h
  split at h
  · next outcome skipped =>
    obtain ⟨after, rfl, h⟩ := bind_eq_ok.1 h
    have := length_of_skipScalar? skipped
    have := length_of_afterValue h
    omega
  · split at h
    · cases h
    · repeat' split at h
      · exact Nat.lt_succ_of_le (length_of_afterOpening h)
      · exact Nat.lt_succ_of_le (length_of_afterOpening h)
      · cases h

/-- The length of the text is a bound on the values in it, so a run that succeeds with some bound
succeeds with any bound above the length. The induction is on the bound of the run that is known to
succeed, with the other one going down beside it. -/
theorem skipValues_of_length {bound room : Nat} {brackets : List Bracket} {s rest : List Char}
    (h : skipValues bound brackets s = .ok rest) (enough : s.length < room) :
    skipValues room brackets s = .ok rest := by
  induction bound generalizing room brackets s with
  | zero => cases h
  | succ bound ih =>
    cases room with
    | zero => omega
    | succ room =>
      rw [skipValues_succ] at h ⊢
      split at h
      · cases h
      · exact h
      · next brackets' t onward =>
        have := length_of_onwardFrom onward
        have := length_skipSpace_le s
        exact ih h (by omega)

/-- **A value that can be read can be passed over**, and the same text is left. Outside there are no
brackets, so passing over ends behind the value. Any bound above the length of the text will do,
however many rounds reading has taken. -/
theorem skipValue_of_readValue {bound depth room : Nat} {s rest : List Char} {v : Value}
    (h : readValue bound depth s = .ok (v, rest)) (enough : s.length < room) :
    skipValue room s = .ok rest := by
  have onward : Leads (afterValue [] rest) rest := rfl
  obtain ⟨rounds, skipped⟩ := passes_readValue bound depth h onward
  exact skipValues_of_length skipped enough

end ScalaFacade.Json
