import Alembic.Proofs.DocumentLines
import Alembic.Proofs.OutputFrame
/-! # String literals, byte by byte -/

namespace Alembic.Resource

/-! ## The escaper and its reader -/

/-- The pairs of the string escaper: each byte on the left is written as the bytes on its right. -/
def escapePairs : List (UInt8 × List UInt8) :=
  [(92, [92, 92]), (34, [92, 34]), (10, [92, 110]), (9, [92, 116])]

/-- A replacer whose old strings are single bytes: each byte is rewritten on its own, by the pair
that names it, and kept when no pair does. -/
def replaceBytes (pairs : List (UInt8 × List UInt8)) (bytes : List UInt8) : List UInt8 :=
  bytes.flatMap fun byte => (pairs.lookup byte).getD [byte]

/-- The byte that a backslash and the byte after it stand for: `\\`, `\"`, `\n` and `\t`. -/
def unescapePair : UInt8 → Option UInt8
  | 92 => some 92
  | 34 => some 34
  | 110 => some 10
  | 116 => some 9
  | _ => none

/-- Reads escaped bytes: the four pairs stand for their bytes, every other byte for itself. -/
def unescapeBytes : List UInt8 → List UInt8
  | [] => []
  | 92 :: letter :: rest =>
    match unescapePair letter with
    | some byte => byte :: unescapeBytes rest
    | none => 92 :: unescapeBytes (letter :: rest)
  | byte :: rest => byte :: unescapeBytes rest

/-- Reads a string literal from just after its opening quote: its content, up to the first quote
that is not part of a pair, and what follows that quote. -/
def readQuoted : List UInt8 → Option (List UInt8 × List UInt8)
  | [] => none
  | 34 :: rest => some ([], rest)
  | 92 :: letter :: rest =>
    match unescapePair letter with
    | some byte => (readQuoted rest).map fun read => (byte :: read.1, read.2)
    | none => (readQuoted (letter :: rest)).map fun read => (92 :: read.1, read.2)
  | byte :: rest => (readQuoted rest).map fun read => (byte :: read.1, read.2)

@[simp] theorem replaceBytes_nil (pairs : List (UInt8 × List UInt8)) : replaceBytes pairs [] = [] := rfl

@[simp] theorem replaceBytes_cons (pairs : List (UInt8 × List UInt8)) (byte : UInt8) (rest : List UInt8) :
    replaceBytes pairs (byte :: rest) = (pairs.lookup byte).getD [byte] ++ replaceBytes pairs rest := rfl

theorem replaceBytes_of_lookup_none {pairs : List (UInt8 × List UInt8)} :
    ∀ {bytes : List UInt8}, (∀ byte ∈ bytes, pairs.lookup byte = none) → replaceBytes pairs bytes = bytes
  | [], _ => rfl
  | byte :: rest, untouched => by
    rw [replaceBytes_cons, untouched byte List.mem_cons_self,
      replaceBytes_of_lookup_none fun other member => untouched other (List.mem_cons_of_mem _ member)]
    rfl

/-- The escaper writes a byte as itself when it is none of the four, and otherwise as a backslash
and a letter that reads back as it. -/
theorem escapePairs_lookup (byte : UInt8) :
    (escapePairs.lookup byte = none ∧ byte ∉ [92, 34, 10, 9]) ∨
      (byte ∈ [92, 34, 10, 9] ∧ ∃ letter, escapePairs.lookup byte = some [92, letter] ∧
        unescapePair letter = some byte ∧ letter ∉ [10, 9]) := by
  by_cases special : byte ∈ [92, 34, 10, 9]
  · refine .inr ⟨special, ?_⟩
    simp only [List.mem_cons, List.not_mem_nil, or_false] at special
    rcases special with rfl | rfl | rfl | rfl
    · exact ⟨92, by decide, by decide, by decide⟩
    · exact ⟨34, by decide, by decide, by decide⟩
    · exact ⟨110, by decide, by decide, by decide⟩
    · exact ⟨116, by decide, by decide, by decide⟩
  · refine .inl ⟨?_, special⟩
    simp only [List.mem_cons, List.not_mem_nil, or_false, not_or] at special
    obtain ⟨notBackslash, notQuote, notNewline, notTab⟩ := special
    simp [escapePairs, List.lookup_cons, beq_false_of_ne notBackslash, beq_false_of_ne notQuote,
      beq_false_of_ne notNewline, beq_false_of_ne notTab]

theorem unescapeBytes_plain {byte : UInt8} (notBackslash : byte ≠ 92) (rest : List UInt8) :
    unescapeBytes (byte :: rest) = byte :: unescapeBytes rest := by
  conv_lhs => rw [unescapeBytes.eq_def]
  split <;> simp_all

theorem unescapeBytes_pair {letter byte : UInt8} (pair : unescapePair letter = some byte) (rest : List UInt8) :
    unescapeBytes (92 :: letter :: rest) = byte :: unescapeBytes rest := by
  rw [unescapeBytes, pair]

theorem readQuoted_plain {byte : UInt8} (notQuote : byte ≠ 34) (notBackslash : byte ≠ 92) (rest : List UInt8) :
    readQuoted (byte :: rest) = (readQuoted rest).map fun read => (byte :: read.1, read.2) := by
  conv_lhs => rw [readQuoted.eq_def]
  split <;> simp_all

theorem readQuoted_pair {letter byte : UInt8} (pair : unescapePair letter = some byte) (rest : List UInt8) :
    readQuoted (92 :: letter :: rest) = (readQuoted rest).map fun read => (byte :: read.1, read.2) := by
  rw [readQuoted, pair]

/-! ## Escaped bytes read back -/

/-- Escaped bytes read back as the bytes they escape. -/
theorem unescapeBytes_replaceBytes : ∀ bytes : List UInt8, unescapeBytes (replaceBytes escapePairs bytes) = bytes
  | [] => rfl
  | byte :: rest => by
    rw [replaceBytes_cons]
    rcases escapePairs_lookup byte with ⟨kept, plain⟩ | ⟨-, letter, written, pair, -⟩
    · rw [kept, Option.getD_none, List.singleton_append,
        unescapeBytes_plain (by rintro rfl; simp at plain), unescapeBytes_replaceBytes rest]
    · rw [written, Option.getD_some, List.cons_append, List.cons_append, List.nil_append,
        unescapeBytes_pair pair, unescapeBytes_replaceBytes rest]

theorem replaceBytes_injective : Function.Injective (replaceBytes escapePairs) := by
  intro first second same
  rw [← unescapeBytes_replaceBytes first, same, unescapeBytes_replaceBytes]

/-- Read from after the opening quote, the escaped bytes and a quote give the bytes back and stop
right after that quote, whatever follows it. -/
theorem readQuoted_replaceBytes (after : List UInt8) :
    ∀ bytes : List UInt8, readQuoted (replaceBytes escapePairs bytes ++ 34 :: after) = some (bytes, after)
  | [] => by simp [readQuoted]
  | byte :: rest => by
    have read := readQuoted_replaceBytes after rest
    rw [replaceBytes_cons, List.append_assoc]
    rcases escapePairs_lookup byte with ⟨kept, plain⟩ | ⟨-, letter, written, pair, -⟩
    · simp only [List.mem_cons, List.not_mem_nil, or_false, not_or] at plain
      rw [kept, Option.getD_none, List.singleton_append, readQuoted_plain plain.2.1 plain.1, read]
      rfl
    · rw [written, Option.getD_some, List.cons_append, List.cons_append, List.nil_append,
        readQuoted_pair pair, read]
      rfl

/-- A quote after a backslash is content; the reader stops at the next quote. -/
example : readQuoted [65, 92, 34, 34, 66] = some ([65, 34], [66]) := by decide

/-- No newline and no tab is ever written. -/
theorem replaceBytes_no_break (bytes : List UInt8) :
    ∀ byte ∈ replaceBytes escapePairs bytes, byte ≠ 10 ∧ byte ≠ 9 := by
  intro byte member
  obtain ⟨original, -, written⟩ := List.mem_flatMap.mp member
  rcases escapePairs_lookup original with ⟨kept, plain⟩ | ⟨-, letter, lookedUp, -, notBreak⟩
  · rw [kept, Option.getD_none, List.mem_singleton] at written
    subst written
    simp only [List.mem_cons, List.not_mem_nil, or_false, not_or] at plain
    exact plain.2.2
  · rw [lookedUp, Option.getD_some] at written
    simp only [List.mem_cons, List.not_mem_nil, or_false, not_or] at written notBreak
    rcases written with rfl | rfl
    · decide
    · exact notBreak

/-! ## The literal of a string, as bytes -/

theorem toList_toUTF8 (text : String) : text.toUTF8.toList = text.toList.flatMap String.utf8EncodeChar := by
  conv_lhs => rw [← String.ofList_toList (s := text)]
  rw [String.toUTF8_eq_toByteArray, String.toByteArray_ofList, ByteArray.toList_eq_data, List.utf8Encode,
    List.toList_data_toByteArray]

/-- A byte below 128 in a character's encoding is the character itself: longer encodings use only
bytes from 128 up. -/
theorem toNat_of_mem_utf8EncodeChar {c : Char} {byte : UInt8} (member : byte ∈ String.utf8EncodeChar c)
    (ascii : byte.toNat < 128) : byte.toNat = c.toNat := by
  have marked : ∀ x mark : UInt8, 128 ≤ mark.toNat → byte ≠ x ||| mark := by
    rintro x mark high rfl
    have := UInt8.le_iff_toNat_le.mp (@UInt8.right_le_or x mark)
    omega
  have atMost := Char.utf8Size_le_four c
  have positive := Char.utf8Size_pos c
  match sized : c.utf8Size, atMost, positive with
  | 1, _, _ =>
    rw [String.utf8EncodeChar_eq_singleton sized, List.mem_singleton] at member
    have small := UInt32.le_iff_toNat_le.mp (Char.utf8Size_eq_one_iff.mp sized)
    subst member
    have same : c.val.toNat = c.toNat := rfl
    simp only [UInt32.toNat_toUInt8, UInt32.reduceToNat] at small ⊢
    omega
  | 2, _, _ =>
    rw [String.utf8EncodeChar_eq_cons_cons sized] at member
    simp only [List.mem_cons, List.not_mem_nil, or_false] at member
    rcases member with same | same <;> exact (marked _ _ (by decide) same).elim
  | 3, _, _ =>
    rw [String.utf8EncodeChar_eq_cons_cons_cons sized] at member
    simp only [List.mem_cons, List.not_mem_nil, or_false] at member
    rcases member with same | same | same <;> exact (marked _ _ (by decide) same).elim
  | 4, _, _ =>
    rw [String.utf8EncodeChar_eq_cons_cons_cons_cons sized] at member
    simp only [List.mem_cons, List.not_mem_nil, or_false] at member
    rcases member with same | same | same | same <;> exact (marked _ _ (by decide) same).elim

/-- A byte that the escaper rewrites, met in a character's encoding, is that character's own
code, so the character is one of the four. -/
theorem special_of_mem_utf8EncodeChar {c : Char} {byte : UInt8} (member : byte ∈ String.utf8EncodeChar c)
    (special : byte ∈ [92, 34, 10, 9]) : c ∈ ['\\', '"', '\n', '\t'] := by
  simp only [List.mem_cons, List.not_mem_nil, or_false] at special ⊢
  rcases special with rfl | rfl | rfl | rfl
  all_goals
    have code := toNat_of_mem_utf8EncodeChar member (by decide)
    rw [← Char.ofNat_toNat c, ← code]
    decide

/-- Escaping a character and encoding it is encoding it and escaping its bytes. -/
theorem utf8_escapeChar (c : Char) :
    (escapeChar c).toList.flatMap String.utf8EncodeChar = replaceBytes escapePairs (String.utf8EncodeChar c) := by
  by_cases special : c ∈ ['\\', '"', '\n', '\t']
  · simp only [List.mem_cons, List.not_mem_nil, or_false] at special
    rcases special with rfl | rfl | rfl | rfl
    · rw [show (escapeChar '\\').toList = ['\\', '\\'] by simp [escapeChar]]
      decide
    · rw [show (escapeChar '"').toList = ['\\', '"'] by simp [escapeChar]]
      decide
    · rw [show (escapeChar '\n').toList = ['\\', 'n'] by simp [escapeChar]]
      decide
    · rw [show (escapeChar '\t').toList = ['\\', 't'] by simp [escapeChar]]
      decide
  have plain : escapeChar c = String.singleton c := by
    simp only [List.mem_cons, List.not_mem_nil, or_false, not_or] at special
    unfold escapeChar
    split <;> simp_all
  -- no byte of any other character is rewritten: an ASCII one would be one of the four
  have untouched : ∀ byte ∈ String.utf8EncodeChar c, escapePairs.lookup byte = none := by
    intro byte member
    rcases escapePairs_lookup byte with ⟨kept, -⟩ | ⟨rewritten, -⟩
    · exact kept
    · exact absurd (special_of_mem_utf8EncodeChar member rewritten) special
  rw [plain, String.toList_singleton, List.flatMap_singleton, replaceBytes_of_lookup_none untouched]

/-- The bytes of a string literal: a quote, the content's bytes escaped one by one, a quote. -/
theorem toUTF8_stringLiteral (content : String) :
    (stringLiteral content).toUTF8.toList = 34 :: replaceBytes escapePairs content.toUTF8.toList ++ [34] := by
  have quote : String.utf8EncodeChar '"' = [34] := by decide
  have escaped : (content.toList.flatMap fun c => (escapeChar c).toList).flatMap String.utf8EncodeChar =
      replaceBytes escapePairs (content.toList.flatMap String.utf8EncodeChar) := by
    rw [List.flatMap_assoc, replaceBytes, List.flatMap_assoc]
    exact congrArg (List.flatMap · content.toList) (funext utf8_escapeChar)
  rw [toList_toUTF8, toList_stringLiteral, toList_toUTF8]
  simp only [List.flatMap_cons, List.flatMap_append, escaped, quote]
  simp

theorem stringLiteral_injective : Function.Injective stringLiteral := by
  intro first second same
  have bytes := congrArg (fun literal => literal.toUTF8.toList) same
  simp only [toUTF8_stringLiteral, List.cons.injEq, List.append_cancel_right_eq, true_and] at bytes
  have contents := replaceBytes_injective bytes
  rw [ByteArray.toList_eq_data, ByteArray.toList_eq_data, Array.toList_inj] at contents
  exact String.toByteArray_inj.mp (ByteArray.ext contents)

/-- A string literal escapes each byte on its own, holds no newline or tab, and reads back as the
bytes, so it is one to one. -/
theorem stringLiteral_escapes_bytes :
    (∀ content : String,
      (stringLiteral content).toUTF8.toList = 34 :: replaceBytes escapePairs content.toUTF8.toList ++ [34]) ∧
      (∀ bytes : List UInt8,
        (∀ byte ∈ replaceBytes escapePairs bytes, byte ≠ 10 ∧ byte ≠ 9) ∧
          unescapeBytes (replaceBytes escapePairs bytes) = bytes ∧
          ∀ after : List UInt8,
            readQuoted (replaceBytes escapePairs bytes ++ 34 :: after) = some (bytes, after)) ∧
      Function.Injective (replaceBytes escapePairs) ∧ Function.Injective stringLiteral :=
  ⟨toUTF8_stringLiteral,
    fun bytes => ⟨replaceBytes_no_break bytes, unescapeBytes_replaceBytes bytes,
      fun after => readQuoted_replaceBytes after bytes⟩,
    replaceBytes_injective, stringLiteral_injective⟩

end Alembic.Resource
