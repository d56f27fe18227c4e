import ScalaFacade.Proofs.Scala.Heads

/-! # Quoting loses nothing

A name is written in declarations by one rule and in package clauses by a stricter one. Both write
it as it is or between backticks, and from both it is read back:

> the text determines the name, whichever of the two rules wrote it (`Name.quoting_lossless`).

So no two names meet in one text, and a package and a declaration that are written alike have the
same name. What the stricter rule leaves plain the other one leaves plain, too, because the English
letters, the digits and the underscore are among the characters of identifiers.

Nothing is assumed about names: also those with backticks in them, the empty one and those that are
quoted already are read back. Reading back takes the outermost quotes off and looks no further, and
a name that starts with one is no identifier, so it has been put between backticks.

What is not said is that the quoted text is an identifier of Scala. For a name with a backtick it is
not, and the grammar of the language has that as a condition.
-/

set_option autoImplicit false

namespace ScalaFacade

/-! ## English letters and digits

The tables of identifier characters are looked up once for these, and not in the proofs about
names. -/

namespace Text

theorem inRanges_of_mem {ranges : List (Nat × Nat)} {low high : Nat} {c : Char}
    (h : (low, high) ∈ ranges) (above : low ≤ c.toNat) (below : c.toNat ≤ high) :
    inRanges ranges c = true := by
  rw [inRanges, List.any_eq_true]
  exact ⟨(low, high), h, by simp [above, below]⟩

theorem isIdentifierStart_of_isLetter {c : Char} (h : Name.isLetter c = true) :
    isIdentifierStart c = true := by
  rw [Name.isLetter, Bool.or_eq_true] at h
  rcases h with upper | lower
  · have bounds : 'A'.val ≤ c.val ∧ c.val ≤ 'Z'.val := of_decide_eq_true upper
    rw [UInt32.le_iff_toNat_le, UInt32.le_iff_toNat_le] at bounds
    have listed : (0x41, 0x5A) ∈ identifierStartRanges := List.mem_cons_self
    exact inRanges_of_mem listed bounds.1 bounds.2
  · have bounds : (decide ('a'.val ≤ c.val) && decide (c.val ≤ 'z'.val)) = true := lower
    simp only [Bool.and_eq_true, decide_eq_true_eq, UInt32.le_iff_toNat_le] at bounds
    have listed : (0x61, 0x7A) ∈ identifierStartRanges := List.mem_cons_of_mem _ List.mem_cons_self
    exact inRanges_of_mem listed bounds.1 bounds.2

theorem isIdentifierContinue_of_isDigit {c : Char} (h : c.isDigit = true) :
    isIdentifierContinue c = true := by
  simp only [Char.isDigit, Bool.and_eq_true, decide_eq_true_eq, ge_iff_le,
    UInt32.le_iff_toNat_le] at h
  have digits : (0x30, 0x39) ∈ identifierExtraRanges := List.mem_cons_self
  rw [isIdentifierContinue, Bool.or_eq_true]
  exact Or.inr (inRanges_of_mem digits h.1 h.2)

theorem isIdentifierContinue_underscore : isIdentifierContinue '_' = true := by decide +kernel

end Text

namespace Name

/-! ## Names in package clauses

The stricter rule is a part of the other: letters, digits and the underscore. -/

/-- A name that is plain in a package clause is an identifier. -/
theorem isIdentifier_of_isPlainPackage {name : String} (h : isPlainPackage name = true) :
    isIdentifier name = true := by
  unfold isPlainPackage at h
  unfold isIdentifier
  split at h
  · cases h
  · rename_i first others chars
    simp only [Bool.and_eq_true, Bool.or_eq_true, List.all_eq_true, beq_iff_eq] at h ⊢
    obtain ⟨head, tail⟩ := h
    constructor
    · rcases head with underscore | letter
      · exact Or.inl (Or.inl underscore)
      · exact Or.inr (Text.isIdentifierStart_of_isLetter letter)
    · intro c member
      rcases tail c member with (rfl | letter) | digit
      · exact Or.inr Text.isIdentifierContinue_underscore
      · have start := Text.isIdentifierStart_of_isLetter letter
        exact Or.inr (Text.isIdentifierContinue_of_start start)
      · exact Or.inr (Text.isIdentifierContinue_of_isDigit digit)

/-- Quoting makes a name longer by two, so it is never the name itself. -/
theorem quote_ne (name : String) : quote name ≠ name := by
  intro same
  have lengths := congrArg String.length same
  simp only [quote, String.length_append] at lengths
  change 1 + name.length + 1 = name.length at lengths
  omega

/-- A declaration has an identifier that is not reserved as it is, and any other name in quotes. -/
theorem escape_cases (name : String) :
    escape name = name ∧ isIdentifier name = true ∧ isReserved name = false
      ∨ escape name = quote name ∧ (isIdentifier name = false ∨ isReserved name = true) := by
  unfold escape
  split
  · rename_i odd
    rw [Bool.or_eq_true, Bool.not_eq_true'] at odd
    exact Or.inr ⟨rfl, odd.symm⟩
  · rename_i plain
    rw [Bool.or_eq_true, Bool.not_eq_true', not_or, Bool.not_eq_false, Bool.not_eq_true] at plain
    exact Or.inl ⟨rfl, plain.2, plain.1⟩

/-- A package clause has a plain name as it is, and any other in quotes. -/
theorem packageClause_cases (name : String) :
    packageClause name = name ∧ isPlainPackage name = true ∧ isReserved name = false
      ∨ packageClause name = quote name
        ∧ (isPlainPackage name = false ∨ isReserved name = true) := by
  unfold packageClause
  split
  · rename_i odd
    rw [Bool.or_eq_true, Bool.not_eq_true'] at odd
    exact Or.inr ⟨rfl, odd⟩
  · rename_i plain
    rw [Bool.or_eq_true, Bool.not_eq_true', not_or, Bool.not_eq_false, Bool.not_eq_true] at plain
    exact Or.inl ⟨rfl, plain.1, plain.2⟩

/-- Without its quotes, a name in a package clause is the name. A plain one is an identifier by the
stricter rule, and the rest is as for declarations. -/
theorem unquote_packageClause (name : String) : unquote (packageClause name) = name := by
  rcases packageClause_cases name with ⟨written, plain, -⟩ | ⟨written, -⟩
  · rw [written, unquote_of_isIdentifier (isIdentifier_of_isPlainPackage plain)]
  · rw [written, unquote_quote]

/-- What is plain in a package clause is plain in a declaration. -/
theorem escape_eq_of_packageClause_eq {name : String} (h : packageClause name = name) :
    escape name = name := by
  rcases packageClause_cases name with ⟨-, plain, free⟩ | ⟨written, -⟩
  · simp [escape, isIdentifier_of_isPlainPackage plain, free]
  · exact absurd (written.symm.trans h) (quote_ne name)

/-- **Quoting is lossless.** Whatever the name, it is read back from a declaration and from a
package clause. So different names are written differently, also if one stands in a package clause
and the other in a declaration; a name that is plain in a package clause is plain in a declaration;
and a declaration has the name as it is, if that is an identifier and not reserved, or between
backticks. -/
theorem quoting_lossless (name : String) :
    unquote (escape name) = name
      ∧ unquote (packageClause name) = name
      ∧ (∀ other, escape name = escape other ↔ name = other)
      ∧ (∀ other, packageClause name = packageClause other ↔ name = other)
      ∧ (∀ other, packageClause name = escape other → name = other)
      ∧ (packageClause name = name → escape name = name)
      ∧ (escape name = name ∧ isIdentifier name = true ∧ isReserved name = false
        ∨ escape name = "`" ++ name ++ "`"
          ∧ (isIdentifier name = false ∨ isReserved name = true)) := by
  refine ⟨unquote_escape name, unquote_packageClause name, fun other => escape_inj, ?_, ?_,
    escape_eq_of_packageClause_eq, escape_cases name⟩
  · intro other
    constructor
    · intro same
      rw [← unquote_packageClause name, same, unquote_packageClause]
    · exact congrArg packageClause
  · intro other same
    rw [← unquote_packageClause name, same, unquote_escape]

end Name

end ScalaFacade
