/-
# Texts are read back from their bytes

Encoding a text and decoding the bytes gives the text again. The forms of characters
are taken one by one: the first byte of each announces how many follow, and what
follows is in the bounds that it sets.
-/

import FsmCompiler.Text.Utf8
import Mathlib.Data.List.Basic
import Mathlib.Data.List.TakeWhile

namespace FsmCompiler.Text

/-! ## Bytes of characters -/

/-- Walking through an array of bytes from some place on gives what was found before and the
bytes from there on. -/
theorem toList_loop_eq (bytes : ByteArray) (start : Nat) (before : List UInt8) :
    ByteArray.toList.loop bytes start before =
      before.reverse ++ bytes.data.toList.drop start := by
  rw [ByteArray.toList.loop]
  split
  · rename_i hstart
    have hlength : start < bytes.data.toList.length := by simpa using hstart
    have hnext : bytes.get! start = bytes.data.toList[start] := by
      simp [ByteArray.get!, hstart]
    rw [toList_loop_eq, hnext, List.reverse_cons, List.append_assoc, List.singleton_append,
      List.drop_eq_getElem_cons hlength]
  · rename_i hstart
    rw [List.drop_eq_nil_of_le (by simpa using hstart), List.append_nil]
termination_by bytes.size - start

/-- The bytes of a text are those of its characters. -/
theorem encode_eq (text : String) : encode text = text.toList.flatMap String.utf8EncodeChar := by
  have hbytes : text.toByteArray = text.toList.utf8Encode := String.utf8Encode_toList.symm
  rw [encode, String.toUTF8_eq_toByteArray, hbytes, ByteArray.toList, toList_loop_eq,
    List.utf8Encode, List.toList_data_toByteArray]
  simp

/-! ## One character -/

/-- Bytes that are the form of a character: the first announces the others, and they stand for
the character. -/
structure Forms (first : UInt8) (following : List UInt8) (c : Char) : Prop where
  announced : ∃ form, Utf8Form.ofByte? first = some form ∧ following.length = form.following ∧
    ∀ next ∈ following.head?, form.least ≤ next ∧ next ≤ form.greatest
  continued : ∀ next ∈ following.tail, 0x80 ≤ next ∧ next ≤ 0xbf
  character : characterOf first following = c

/-- What follows a first byte is read as far as it was announced. -/
theorem run_append {form : Utf8Form} {following : List UInt8} (rest : List UInt8)
    (hlength : following.length = form.following)
    (hhead : ∀ next ∈ following.head?, form.least ≤ next ∧ next ≤ form.greatest)
    (htail : ∀ next ∈ following.tail, 0x80 ≤ next ∧ next ≤ 0xbf) :
    form.run (following ++ rest) = following := by
  cases following with
  | nil =>
    have hnone : ¬ 0 < form.following := by simp [← hlength]
    cases rest with
    | nil => rfl
    | cons next rest => simp [Utf8Form.run, hnone]
  | cons next following =>
    have hfollowing : form.following - 1 = following.length := by simp [← hlength]
    have hsome : 0 < form.following := by simp [← hlength]
    have hnext := hhead next rfl
    have hall : ∀ b ∈ following, (0x80 ≤ b && b ≤ 0xbf) = true := by
      intro b hb
      simpa using htail b hb
    rw [List.cons_append, Utf8Form.run, if_pos ⟨hsome, hnext⟩, hfollowing, List.take_left,
      List.takeWhile_eq_self_iff.2 hall]

theorem Forms.decodeFrom {first : UInt8} {following : List UInt8} {c : Char}
    (hforms : Forms first following c) (position : Nat) (rest : List UInt8) :
    decodeFrom position (first :: following ++ rest) =
      (Text.decodeFrom (position + 1 + following.length) rest).map (c :: ·) := by
  obtain ⟨⟨form, hform, hlength, hhead⟩, htail, hcharacter⟩ := hforms
  have hrun := run_append rest hlength hhead htail
  rw [List.cons_append, Text.decodeFrom]
  simp only [hform, hrun, hlength, if_true, hcharacter]
  rw [← hlength, List.drop_left]

/-! ## The four forms -/

theorem ofByte?_one : ∀ n < 0x80, Utf8Form.ofByte? (UInt8.ofNat n) = some ⟨0, 0x80, 0xbf⟩ := by
  decide

theorem ofByte?_two : ∀ n < 0x20, 2 ≤ n →
    Utf8Form.ofByte? (UInt8.ofNat (n + 0xc0)) = some ⟨1, 0x80, 0xbf⟩ := by
  decide

theorem ofByte?_three : ∀ n < 0x10, Utf8Form.ofByte? (UInt8.ofNat (n + 0xe0)) =
    some ⟨2, if n = 0 then 0xa0 else 0x80, if n = 0xd then 0x9f else 0xbf⟩ := by
  decide

theorem ofByte?_four : ∀ n < 5, Utf8Form.ofByte? (UInt8.ofNat (n + 0xf0)) =
    some ⟨3, if n = 0 then 0x90 else 0x80, if n = 4 then 0x8f else 0xbf⟩ := by
  decide

/-- Six bits of a character make a byte that continues one. -/
theorem continues (n : Nat) :
    0x80 ≤ UInt8.ofNat (n % 0x40 + 0x80) ∧ UInt8.ofNat (n % 0x40 + 0x80) ≤ 0xbf := by
  have hall : ∀ n < 0x40, 0x80 ≤ UInt8.ofNat (n + 0x80) ∧ UInt8.ofNat (n + 0x80) ≤ 0xbf := by decide
  exact hall _ (Nat.mod_lt _ (by decide))

theorem ofNat_val (c : Char) : Char.ofNat c.val.toNat = c := Char.ofNat_toNat c

/-- Each character is written in its form. -/
theorem exists_forms (c : Char) :
    ∃ first following, String.utf8EncodeChar c = first :: following ∧ Forms first following c := by
  have hvalid : c.val.toNat < 0xd800 ∨ 0xdfff < c.val.toNat ∧ c.val.toNat < 0x110000 := c.valid
  have hcharacter := ofNat_val c
  unfold String.utf8EncodeChar
  generalize c.val.toNat = n at hvalid hcharacter ⊢
  dsimp only
  split_ifs with hone htwo hthree
  · refine ⟨_, _, rfl, ⟨_, ofByte?_one n (by omega), rfl, by simp⟩, by simp, ?_⟩
    rw [← hcharacter]
    simp only [characterOf, List.length_nil, List.foldl_nil, UInt8.toNat_ofNat']
    congr 1
    omega
  · refine ⟨_, _, rfl, ⟨_, ofByte?_two _ (by omega) (by omega), rfl, ?_⟩, by simp, ?_⟩
    · simpa using continues n
    · rw [← hcharacter]
      simp only [characterOf, List.length_cons, List.length_nil, List.foldl_cons, List.foldl_nil,
        UInt8.toNat_ofNat']
      congr 1
      omega
  · refine ⟨_, _, rfl, ⟨_, ofByte?_three _ (by omega), rfl, ?_⟩, ?_, ?_⟩
    · simp only [List.head?_cons, Option.mem_some_iff, forall_eq', UInt8.le_iff_toNat_le,
        UInt8.toNat_ofNat']
      split_ifs <;> simp <;> omega
    · simpa using continues n
    · rw [← hcharacter]
      simp only [characterOf, List.length_cons, List.length_nil, List.foldl_cons, List.foldl_nil,
        UInt8.toNat_ofNat']
      congr 1
      omega
  · refine ⟨_, _, rfl, ⟨_, ofByte?_four _ (by omega), rfl, ?_⟩, ?_, ?_⟩
    · simp only [List.head?_cons, Option.mem_some_iff, forall_eq', UInt8.le_iff_toNat_le,
        UInt8.toNat_ofNat']
      split_ifs <;> simp <;> omega
    · intro next hnext
      rcases List.mem_pair.1 hnext with rfl | rfl
      · exact continues (n / 64)
      · exact continues n
    · rw [← hcharacter]
      simp only [characterOf, List.length_cons, List.length_nil, List.foldl_cons, List.foldl_nil,
        UInt8.toNat_ofNat']
      congr 1
      omega

/-! ## Whole texts -/

theorem decodeFrom_flatMap (position : Nat) (chars : List Char) :
    decodeFrom position (chars.flatMap String.utf8EncodeChar) = .ok chars := by
  induction chars generalizing position with
  | nil =>
    rw [List.flatMap_nil, decodeFrom]
  | cons c rest ih =>
    obtain ⟨first, following, hbytes, hforms⟩ := exists_forms c
    rw [List.flatMap_cons, hbytes, hforms.decodeFrom, ih]
    rfl

/-- A text is read back from its bytes. -/
theorem decode_encode (text : String) : decode (encode text) = .ok text := by
  rw [decode, encode_eq, decodeFrom_flatMap, Except.map, String.ofList_toList]

end FsmCompiler.Text
