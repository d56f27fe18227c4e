import ScalaFacade.Project.Failure

/-! # Where an error is

A message gives the place of an error by line and column, and the offset that is pointed at is found
from these. This file says, in terms of the UTF-8 bytes of a text alone, that nothing is lost on the
way:

> the line and column of a byte, counted from the line feeds before it, lead back to that byte.

Characters play no part in that: an offset may fall inside one. The lines of a text, which are
measured along its characters, are therefore first found again in its bytes (`lineLengths_eq`); a
line feed is the only character with the byte of a line feed in it.

Then sums of line lengths are compared with numbers of bytes. The lines up to a line feed hold all
bytes up to it (`foldl_take_byteLines`), so the start of a line is the number of bytes before it,
and the column is what is left.

The rest holds of any line and column, also of those that no byte has: the place found is in the
text and does not move back when the line or the column goes up. Last, the span that is pointed at:
it lies in the text and is empty at its end only.
-/

set_option autoImplicit false

namespace ScalaFacade.Text

/-! ## Bytes

The line and column of an offset are defined by counting, without the function that is to undo
it. -/

/-- The bytes of a text in UTF-8. -/
def bytesOf (text : String) : List UInt8 := text.toByteArray.data.toList

/-- The byte of a line feed. -/
def lineFeed : UInt8 := 10

/-- The line of the place that has `offset` bytes before it, counted from one. -/
def lineAt (text : String) (offset : Nat) : Nat := 1 + ((bytesOf text).take offset).count lineFeed

/-- The column of that place, counted from one: the bytes behind the last line feed before it. -/
def columnAt (text : String) (offset : Nat) : Nat :=
  1 + (((bytesOf text).take offset).reverse.takeWhile (· ≠ lineFeed)).length

theorem bytesOf_eq (text : String) : bytesOf text = text.toList.flatMap String.utf8EncodeChar := by
  rw [bytesOf, ← String.utf8Encode_toList]
  exact List.toList_data_toByteArray

theorem length_bytesOf (text : String) : (bytesOf text).length = text.utf8ByteSize := rfl

theorem byteLength_toList (text : String) : byteLength text.toList = text.utf8ByteSize := by
  rw [← length_bytesOf, bytesOf_eq]
  induction text.toList with
  | nil => rfl
  | cons c chars ih => simp [ih]

/-- Only a line feed has the byte of a line feed in it: the bytes of a character that takes several
are all above the range of ASCII. -/
theorem lineFeed_notMem {c : Char} (h : c ≠ '\n') : lineFeed ∉ String.utf8EncodeChar c := by
  have other : c.val.toNat ≠ 10 := fun same => h (Char.ext (UInt32.toNat_inj.1 same))
  have byte (n : Nat) : lineFeed = UInt8.ofNat n ↔ n % 256 = 10 := by
    rw [← UInt8.toNat_inj, UInt8.toNat_ofNat']
    exact eq_comm
  fun_cases String.utf8EncodeChar c <;>
    simp only [List.mem_cons, List.not_mem_nil, or_false, not_or, byte] <;> omega

/-! ## Lines in bytes

Going through the bytes of a character that is no line feed adds its size to the current line. -/

/-- The lengths of the lines of some bytes when the current line already has `current` bytes. -/
def byteLines : (current : Nat) → List UInt8 → List Nat
  | current, [] => if current = 0 then [] else [current]
  | current, b :: bytes =>
    if b = lineFeed then (current + 1) :: byteLines 0 bytes else byteLines (current + 1) bytes

/-- Bytes without a line feed only make the current line longer. -/
theorem byteLines_append {front : List UInt8} (h : lineFeed ∉ front) (current : Nat)
    (bytes : List UInt8) : byteLines current (front ++ bytes) =
      byteLines (current + front.length) bytes := by
  induction front generalizing current with
  | nil => rfl
  | cons b front ih =>
    obtain ⟨other, below⟩ := not_or.1 (mt List.mem_cons.2 h)
    rw [List.cons_append, byteLines, if_neg (Ne.symm other), ih below, List.length_cons,
      Nat.add_right_comm, Nat.add_assoc]

theorem lineLengths_go_eq (current : Nat) (chars : List Char) :
    lineLengths.go current chars = byteLines current (chars.flatMap String.utf8EncodeChar) := by
  induction chars generalizing current with
  | nil => rfl
  | cons c chars ih =>
    rw [lineLengths.go, List.flatMap_cons]
    split
    · next feed =>
      subst feed
      rw [ih]
      rfl
    · next other => rw [ih, byteLines_append (lineFeed_notMem other), String.length_utf8EncodeChar]

/-- The lines of a text are those of its bytes, so that from here on characters do not come up. -/
theorem lineLengths_eq (text : String) : lineLengths text.toList = byteLines 0 (bytesOf text) := by
  rw [bytesOf_eq, lineLengths, lineLengths_go_eq]

/-! ## Sums of line lengths

Each line feed belongs to its line, so the sum of all lengths is the number of bytes. -/

theorem foldl_add (start : Nat) (lengths : List Nat) :
    lengths.foldl Nat.add start = start + lengths.foldl Nat.add 0 := by
  induction lengths generalizing start with
  | nil => rfl
  | cons n lengths ih =>
    rw [List.foldl_cons, List.foldl_cons, ih (start.add n), ih (Nat.add 0 n)]
    simp [Nat.add_assoc]

/-- The bytes before a line, of which `before` others come first. -/
def lineStart (text : String) (before : Nat) : Nat :=
  ((lineLengths text.toList).take before).foldl Nat.add 0

theorem offsetOf_eq (text : String) (line column : Nat) :
    offsetOf text.toList line column =
      min (column - 1 + lineStart text (line - 1)) text.utf8ByteSize := by
  rw [offsetOf, foldl_add, byteLength_toList, lineStart]

/-- All lines together hold all bytes. -/
theorem foldl_byteLines (current : Nat) (bytes : List UInt8) :
    (byteLines current bytes).foldl Nat.add 0 = current + bytes.length := by
  induction bytes generalizing current with
  | nil =>
    rw [byteLines]
    split <;> simp_all
  | cons b bytes ih =>
    rw [byteLines]
    split
    · rw [List.foldl_cons, foldl_add, ih]
      simp; omega
    · rw [ih, List.length_cons, Nat.add_right_comm, Nat.add_assoc]

/-- Further lines start further on. -/
theorem lineStart_mono (text : String) {before before' : Nat} (h : before ≤ before') :
    lineStart text before ≤ lineStart text before' := by
  obtain ⟨rest, split⟩ := List.take_prefix_take_left (l := lineLengths text.toList) h
  rw [lineStart, lineStart, ← split, List.foldl_append, foldl_add _ rest]
  exact Nat.le_add_right _ _

theorem lineStart_le (text : String) (before : Nat) :
    lineStart text before ≤ text.utf8ByteSize := by
  have all : lineStart text (max before (lineLengths text.toList).length) = text.utf8ByteSize := by
    rw [lineStart, List.take_of_length_le (Nat.le_max_right _ _), lineLengths_eq, foldl_byteLines,
      length_bytesOf, Nat.zero_add]
  exact all ▸ lineStart_mono text (Nat.le_max_left _ _)

/-! ## Back to the byte

The bytes before the place are split at their last line feed: before it are whole lines, behind it
is the column. -/

/-- The lines up to a line feed hold all bytes up to it. -/
theorem foldl_take_byteLines (current : Nat) (front rest : List UInt8) :
    ((byteLines current (front ++ lineFeed :: rest)).take (front.count lineFeed + 1)).foldl
      Nat.add 0 = current + front.length + 1 := by
  induction front generalizing current with
  | nil => simp [byteLines]
  | cons b front ih =>
    rw [List.cons_append, byteLines]
    split
    · next feed =>
      subst feed
      rw [List.count_cons_self, List.take_succ_cons, List.foldl_cons, foldl_add, ih]
      simp
      omega
    · next other =>
      rw [List.count_cons_of_ne other, ih, List.length_cons]
      omega

theorem takeWhile_reverse {back : List UInt8} (h : lineFeed ∉ back) (rest : List UInt8) :
    (back.reverse ++ rest).takeWhile (· ≠ lineFeed) =
      back.reverse ++ rest.takeWhile (· ≠ lineFeed) := by
  refine List.takeWhile_append_of_pos fun b present => ?_
  exact decide_eq_true fun same => h (same ▸ List.mem_reverse.1 present)

/-- Bytes with a line feed are split at the last one. -/
theorem exists_last_lineFeed {bytes : List UInt8} (h : lineFeed ∈ bytes) :
    ∃ front back, bytes = front ++ lineFeed :: back ∧ lineFeed ∉ back := by
  obtain ⟨back, front, split, first⟩ := List.eq_append_cons_of_mem (List.mem_reverse.2 h)
  refine ⟨front.reverse, back.reverse, ?_, mt List.mem_reverse.1 first⟩
  rw [← List.reverse_reverse bytes, split]
  simp

/-- **Line and column lead back.** The bytes before a place are split at their last line feed. What
is before it are whole lines, whose lengths are summed up, and what is behind it is counted by the
column. The end of the text is a place, too, and so is the inside of a character. -/
theorem offsetOf_lineAt_columnAt (text : String) {offset : Nat} (h : offset ≤ text.utf8ByteSize) :
    offsetOf text.toList (lineAt text offset) (columnAt text offset) = offset := by
  rw [offsetOf_eq, lineStart, lineLengths_eq, lineAt, columnAt, Nat.add_sub_cancel_left,
    Nat.add_sub_cancel_left]
  have size : ((bytesOf text).take offset).length = offset := by
    rw [List.length_take, length_bytesOf, Nat.min_eq_left h]
  have split := List.take_append_drop offset (bytesOf text)
  generalize (bytesOf text).take offset = before at size split ⊢
  by_cases feed : lineFeed ∈ before
  · obtain ⟨front, back, rfl, last⟩ := exists_last_lineFeed feed
    rw [List.append_assoc, List.cons_append] at split
    rw [List.reverse_append, List.reverse_cons, List.append_assoc, takeWhile_reverse last,
      List.count_append, List.count_cons_self, List.count_eq_zero.2 last, ← split,
      foldl_take_byteLines]
    simp only [List.length_append, List.length_cons] at size
    simp
    omega
  · -- Without a line feed there is one line, and the column alone counts the bytes.
    have all := takeWhile_reverse feed []
    rw [List.append_nil, List.takeWhile_nil, List.append_nil] at all
    rw [all, List.count_eq_zero.2 feed, List.length_reverse, size]
    simp [Nat.min_eq_left h]

/-! ## Places and spans

Whatever line and column a message gives. -/

/-- A place further on in the message is not further back in the text. -/
theorem offsetOf_mono (text : String) {line line' column column' : Nat} (lines : line ≤ line')
    (columns : column ≤ column') :
    offsetOf text.toList line column ≤ offsetOf text.toList line' column' := by
  have starts := lineStart_mono text (Nat.sub_le_sub_right lines 1)
  rw [offsetOf_eq, offsetOf_eq]
  omega

/-- The span of a failure starts where the position of its error is, does not reach beyond the text,
and is empty exactly at the end of the text. Where the span of an error without a position starts is
not said. -/
theorem span_ofError (file text : String) (error : Json.Error) :
    ∃ span, Failure.ofError file text error = .parse file error.message span ∧
      (∀ position ∈ error.position,
        span.offset = offsetOf text.toList position.line position.column) ∧
      span.offset + span.length ≤ text.utf8ByteSize ∧
      (span.length = 0 ↔ span.offset = text.utf8ByteSize) := by
  refine ⟨_, rfl, ?_, ?_, ?_⟩
  · rintro position found
    rw [found]
    rfl
  all_goals
    dsimp only
    rw [byteLength_toList, offsetOf_eq]
    split <;> omega

/-- **Where an error is.** The line and column of a byte lead back to that byte. Whatever the line
and column, the place found is in the text, it moves on with both of them, and column zero stands
for column one; the sum it is found by fits in 64 bits as long as its parts are below `2 ^ 63`. The
span that is pointed at lies in the text and is empty exactly at its end. -/
theorem offsetOf_places (text : String) :
    (∀ offset ≤ text.utf8ByteSize,
      offsetOf text.toList (lineAt text offset) (columnAt text offset) = offset) ∧
    (∀ line column, offsetOf text.toList line column ≤ text.utf8ByteSize) ∧
    (∀ line line' column, line ≤ line' →
      offsetOf text.toList line column ≤ offsetOf text.toList line' column) ∧
    (∀ line column column', column ≤ column' →
      offsetOf text.toList line column ≤ offsetOf text.toList line column') ∧
    (∀ line, offsetOf text.toList line 0 = offsetOf text.toList line 1) ∧
    (∀ line column, text.utf8ByteSize < Nat.pow 2 63 → line ≤ Nat.pow 2 63 →
      column ≤ Nat.pow 2 63 → lineStart text (line - 1) + (column - 1) < Nat.pow 2 64) ∧
    (∀ file error, ∃ span, Failure.ofError file text error = .parse file error.message span ∧
      (∀ position ∈ error.position,
        span.offset = offsetOf text.toList position.line position.column) ∧
      span.offset + span.length ≤ text.utf8ByteSize ∧
      (span.length = 0 ↔ span.offset = text.utf8ByteSize)) := by
  refine ⟨fun _ => offsetOf_lineAt_columnAt text, fun line column => ?_,
    fun _ _ _ lines => offsetOf_mono text lines (Nat.le_refl _),
    fun _ _ _ columns => offsetOf_mono text (Nat.le_refl _) columns, fun line => rfl,
    fun line column size _ bound => ?_, fun file error => span_ofError file text error⟩
  · rw [offsetOf_eq]
    exact Nat.min_le_right _ _
  · have start := lineStart_le text (line - 1)
    have small : Nat.pow 2 63 = 9223372036854775808 := rfl
    have large : Nat.pow 2 64 = 18446744073709551616 := rfl
    omega

/-- The second byte of a character, behind two line feeds. -/
theorem offsetOf_places_insideCharacter :
    lineAt "a\n\né" 4 = 3 ∧ columnAt "a\n\né" 4 = 2 ∧
      4 ≤ "a\n\né".utf8ByteSize ∧ offsetOf "a\n\né".toList 3 2 = 4 := by
  have inside : 4 ≤ "a\n\né".utf8ByteSize := by decide
  have line : lineAt "a\n\né" 4 = 3 := by decide
  have column : columnAt "a\n\né" 4 = 2 := by decide
  have back := (offsetOf_places "a\n\né").1 4 inside
  rw [line, column] at back
  exact ⟨line, column, inside, back⟩

end ScalaFacade.Text
