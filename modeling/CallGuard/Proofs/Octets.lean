/-
Byte strings that are read back from their text. A byte is written as the
character with its number or by that number, and both are read as the character.
What the characters stand for is their encoding in UTF-8, in which a character
from 128 on takes two bytes. So the text of a literal with a byte string is
always read, and the byte string is the one that was written just if all bytes
are below 128.
-/
import CallGuard.Proofs.RoundTrip

namespace CallGuard

open Lexeme Grammar List

/-! ### Encoded characters -/

namespace Text

theorem toList_loop_eq (bytes : ByteArray) (position : Nat) (read : List UInt8) :
    ByteArray.toList.loop bytes position read = read.reverse ++ bytes.data.toList.drop position := by
  fun_induction ByteArray.toList.loop bytes position read with
  | case1 position read inside ih =>
    have bound : position < bytes.data.toList.length := inside
    have next : bytes.get! position = bytes.data.toList[position] := by
      rw [Array.getElem_toList]
      exact getElem!_pos bytes.data position inside
    rw [ih, drop_eq_getElem_cons bound, reverse_cons, append_assoc,
      singleton_append, next]
  | case2 position read outside =>
    have past : bytes.data.toList.length ≤ position := Nat.le_of_not_lt outside
    rw [drop_eq_nil_of_le past, append_nil]

/-- The encoding of a text is that of its characters, one after the other. -/
theorem toList_toUTF8 (text : List Char) :
    (String.ofList text).toUTF8.toList = text.flatMap String.utf8EncodeChar := by
  rw [ByteArray.toList, toList_loop_eq]
  show (text.flatMap String.utf8EncodeChar).toByteArray.data.toList = _
  rw [data_toByteArray]

/-- A byte as the encoding of the character with its number. -/
def recoded (byte : UInt8) : List UInt8 :=
  if byte < 128 then [byte]
  else [UInt8.ofNat (byte.toNat / 64 + 192), UInt8.ofNat (byte.toNat % 64 + 128)]

theorem utf8EncodeChar_ofNat (byte : UInt8) :
    String.utf8EncodeChar (Char.ofNat byte.toNat) = recoded byte := by
  have each : ∀ n : Fin 256,
      String.utf8EncodeChar (Char.ofNat n.val) = recoded (UInt8.ofNat n.val) := by
    decide +kernel
  simpa using each ⟨byte.toNat, byte.toNat_lt⟩

/-- Only bytes below 128 stay as they are, since the others take more than their place. -/
theorem flatMap_recoded_eq_self_iff {data : List UInt8} :
    data.flatMap recoded = data ↔ ∀ byte ∈ data, byte < 128 := by
  have long (byte : UInt8) : 1 ≤ (recoded byte).length := by
    unfold recoded
    split <;> simp
  have longer (data : List UInt8) : data.length ≤ (data.flatMap recoded).length := by
    induction data with
    | nil => exact Nat.le_refl _
    | cons byte data ih =>
      rw [flatMap_cons, length_append, length_cons]
      have := long byte
      omega
  induction data with
  | nil => simp
  | cons byte data ih =>
    rw [flatMap_cons]
    by_cases small : byte < 128
    · rw [recoded, if_pos small, singleton_append, cons.injEq, forall_mem_cons]
      exact and_congr (iff_of_true rfl small) ih
    · refine ⟨fun same => ?_, fun each => absurd (each byte mem_cons_self) small⟩
      have length := congrArg length same
      simp only [recoded, if_neg small, length_append, length_cons, length_nil]
        at length
      have := longer data
      omega

end Text

/-! ### Byte strings -/

namespace Value

theorem stringUnit_byteText (byte : UInt8) : StringUnit '\'' (byteText byte) := by
  unfold byteText
  dsimp only
  split
  · rename_i printable
    obtain ⟨low, -, noQuote, noBackslash⟩ := printable
    have other {c : Char} (differs : byte.toNat ≠ c.toNat) : Char.ofNat byte.toNat ≠ c := by
      rintro rfl
      exact differs (Token.toNat_ofNat_byte byte.toNat_lt).symm
    exact .plain (other fun same => by rw [same] at low; exact absurd low (by decide))
      (other noBackslash) (other noQuote)
      (other fun same => by rw [same] at low; exact absurd low (by decide))
  · exact .byNumber byte.toNat

theorem toList_text_bytes (identity : Nat) (data : List UInt8) :
    (bytes identity data).text.toList =
      mark true ++ '\'' :: ((data.map byteText).flatten ++ ['\'']) := by
  rw [Value.text, bytesText, String.toList_ofList, flatMap_def]
  rfl

theorem stringUnit_of_mem (data : List UInt8) :
    ∀ unit ∈ data.map byteText, StringUnit '\'' unit := by
  intro unit member
  obtain ⟨byte, -, rfl⟩ := mem_map.mp member
  exact stringUnit_byteText byte

/-- The text of a byte string is read as the encoding of its bytes taken for characters. -/
theorem ends_readLiteral_bytes (identity : Nat) (data : List UInt8) (world : World) :
    (Hint.readLiteral (.quoted (bytes identity data).text.toList)).Ends world
      (bytes world.next (data.flatMap Text.recoded)) { world with next := world.next + 1 } := by
  have body := Hint.stringBody_eq true (.inl rfl) (stringUnit_of_mem data)
  rw [← toList_text_bytes identity, ← flatMap_def, Text.unescape_flatMap_byteText] at body
  have encoded : (String.ofList (data.map fun byte => Char.ofNat byte.toNat)).toUTF8.toList =
      data.flatMap Text.recoded := by
    rw [Text.toList_toUTF8, flatMap_map]
    exact flatMap_congr fun byte _ => Text.utf8EncodeChar_ofNat byte
  rw [Hint.readLiteral, body]
  dsimp only
  rw [encoded]
  rfl

end Value

/-! ### Literals -/

namespace Hint

theorem ends_read_bytes (scope : Scope) (identity : Nat) (data : List UInt8) (world : World) :
    (Hint.read scope ("Literal[" ++ (Value.bytes identity data).text ++ "]")).Ends world
      (literal [.bytes world.next (data.flatMap Text.recoded)])
      { world with next := world.next + 1 } := by
  have derives : Derives (Value.bytes identity data).text.toList
      (.quoted (Value.bytes identity data).text.toList) := by
    rw [Value.toList_text_bytes]
    exact .quoted true (.inl rfl) (Value.stringUnit_of_mem data)
  rw [Hint.read, readWith_literal_eq parses_outline derives]
  exact Action.ends_bind.mpr ⟨_, _, Value.ends_readLiteral_bytes identity data world, rfl⟩

theorem same_bytes_iff {number identity : Nat} {data data' : List UInt8} :
    (literal [.bytes number data']).same (literal [.bytes identity data]) = true ↔
      data' = data := by
  refine ⟨fun same => ?_, fun same => ?_⟩
  · cases matches_of_same same with
    | literal each =>
      obtain ⟨link, -⟩ := (forall₂_cons.mp each).1
      cases Value.equal_iff.mp link
      rfl
  · subst same
    exact same_of_matches (.literal (.cons ⟨Value.equal_iff.mpr (.bytes _ _ _), rfl⟩ .nil))

/-- The text of a literal with a byte string is read as a literal with the encoding of its bytes
taken for characters. That is the same literal just if all bytes are below 128. -/
theorem read_bytes_literal (scope : Scope) (identity : Nat) (data : List UInt8) (world : World) :
    ∃ read later,
      (Hint.read scope ("Literal[" ++ (Value.bytes identity data).text ++ "]")).Ends world read
        later ∧
      (∃ number, read = literal [.bytes number (data.flatMap Text.recoded)]) ∧
      (read.same (literal [.bytes identity data]) = true ↔ ∀ byte ∈ data, byte < 128) :=
  ⟨_, _, ends_read_bytes scope identity data world, ⟨_, rfl⟩,
    same_bytes_iff.trans Text.flatMap_recoded_eq_self_iff⟩

/-- A byte from 128 on is read as two. -/
theorem bytes_literal_changed :
    let written : Hint := literal [.bytes 0 [0x80]]
    let read : Hint := literal [.bytes World.initial.next [0xC2, 0x80]]
    "Literal[" ++ (Value.bytes 0 [0x80]).text ++ "]" = "Literal[b'\\x80']" ∧
      (∃ later, (Hint.read ⟨101, "module"⟩ "Literal[b'\\x80']").Ends .initial read later) ∧
      read.same written = false := by
  intro written read
  have shown : "Literal[" ++ (Value.bytes 0 [0x80]).text ++ "]" = "Literal[b'\\x80']" := by
    decide +kernel
  refine ⟨shown, ⟨_, shown ▸ ends_read_bytes ⟨101, "module"⟩ 0 [0x80] .initial⟩, ?_⟩
  rw [Bool.eq_false_iff]
  exact fun same => absurd (same_bytes_iff.mp same) (by decide)

end Hint

end CallGuard
