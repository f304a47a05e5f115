import Precompiler.Proofs.Utf8
import Precompiler.Text.Bytes

/-! Charsets, both ways.

Reading and writing in a charset undo each other: bytes are read as a text exactly if the text is
written as these bytes (`decode_eq_ok_iff`). So what a charset reads is what it writes. In Latin-1 that
is a byte for each character up to U+00FF, and the same numbers (`latin1_decode?_eq_some_iff`). In UTF-8
it is a shortest spelling for each character (`spelled_toList_iff`), a byte order mark at the beginning
being no exception. -/
namespace Precompiler

variable {bytes : ByteArray} {text path goal : String} {charset : Charset}

/-! ### Bytes as lists -/

theorem toList_loop_eq (bytes : ByteArray) (i : Nat) (read : List UInt8) :
    ByteArray.toList.loop bytes i read = read.reverse ++ bytes.data.toList.drop i := by
  fun_induction ByteArray.toList.loop bytes i read with
  | case1 i read hlt ih =>
    have hlength : i < bytes.data.toList.length := by simpa using hlt
    have hget : bytes.get! i = bytes.data.toList[i] := by
      show bytes.data[i]! = _
      rw [getElem!_pos bytes.data i hlt]
      rfl
    rw [ih, List.drop_eq_getElem_cons hlength, hget]
    simp
  | case2 i read hge =>
    rw [List.drop_eq_nil_of_le (by simpa using Nat.le_of_not_lt hge), List.append_nil]

theorem toList_eq_data (bytes : ByteArray) : bytes.toList = bytes.data.toList := by
  rw [ByteArray.toList, toList_loop_eq]
  rfl

theorem toByteArray_eq_iff {list : List UInt8} : list.toByteArray = bytes ↔ list = bytes.toList := by
  rw [toList_eq_data, ByteArray.ext_iff, ← Array.toList_inj, List.toList_data_toByteArray]

namespace Charset

/-! ### Latin-1 -/

theorem latin1Byte?_eq_some_iff {c : Char} {b : UInt8} : latin1Byte? c = some b ↔ c.toNat = b.toNat := by
  have hb := UInt8.toNat_lt b
  unfold latin1Byte?
  split
  next hc => rw [Option.some.injEq, ← UInt8.toNat_inj, UInt8.toNat_ofNat_of_lt' hc]
  next hc =>
    simp only [reduceCtorEq, false_iff]
    omega

theorem mapM_latin1Byte?_eq_some_iff {chars : List Char} {list : List UInt8} :
    chars.mapM latin1Byte? = some list ↔ chars.map Char.toNat = list.map UInt8.toNat := by
  induction chars generalizing list with
  | nil => simp [eq_comm]
  | cons c chars ih =>
    rw [List.mapM_cons]
    constructor
    · intro h
      obtain ⟨b, hb, h⟩ := Option.bind_eq_some_iff.mp h
      obtain ⟨rest, hrest, h⟩ := Option.bind_eq_some_iff.mp h
      cases h
      rw [List.map_cons, List.map_cons, latin1Byte?_eq_some_iff.mp hb, ih.mp hrest]
    · intro h
      obtain _ | ⟨b, rest⟩ := list
      · cases h
      obtain ⟨hb, hrest⟩ := List.cons.inj h
      rw [latin1Byte?_eq_some_iff.mpr hb, Option.bind_eq_bind, Option.bind_some, ih.mpr hrest]
      rfl

/-- Latin-1 writes the numbers of the characters as bytes. -/
theorem latin1_encode?_eq_some_iff :
    latin1.encode? text = some bytes ↔ text.toList.map Char.toNat = bytes.toList.map UInt8.toNat := by
  rw [encode?, Option.map_eq_some_iff, ← mapM_latin1Byte?_eq_some_iff]
  simp only [toByteArray_eq_iff, exists_eq_right]

/-- Latin-1 reads bytes as the characters of these numbers. -/
theorem latin1_decode?_eq_some_iff :
    latin1.decode? bytes = some text ↔ text.toList.map Char.toNat = bytes.toList.map UInt8.toNat := by
  have hnumber : ∀ b : UInt8, (Char.ofNat b.toNat).toNat = b.toNat := fun b => by
    have hb := UInt8.toNat_lt b
    rw [Char.ofNat, dif_pos (.inl (by omega))]
    rfl
  rw [decode?, Option.some.injEq, ← String.toList_inj, String.toList_ofList,
    ← List.map_inj_right fun c d h => Char.toNat_inj.mp h, List.map_map]
  simp only [Function.comp_def, hnumber, eq_comm]

/-- Latin-1 can write just the texts whose characters are bytes. -/
theorem exists_latin1_encode?_iff :
    (∃ bytes, latin1.encode? text = some bytes) ↔ ∀ c ∈ text.toList, c.toNat ≤ 0xFF := by
  simp only [latin1_encode?_eq_some_iff]
  constructor
  · rintro ⟨bytes, h⟩ c hc
    obtain ⟨b, -, hb⟩ := List.mem_map.mp (h ▸ List.mem_map_of_mem hc)
    have hlt := UInt8.toNat_lt b
    omega
  · intro h
    refine ⟨(text.toList.map fun c => UInt8.ofNat c.toNat).toByteArray, ?_⟩
    rw [← toByteArray_eq_iff.mp rfl, List.map_map]
    refine List.map_congr_left fun c hc => ?_
    exact (UInt8.toNat_ofNat_of_lt' (Nat.lt_succ_of_le (h c hc))).symm

/-! ### UTF-8 -/

/-- UTF-8 reads just what it writes. -/
theorem fromUTF8?_eq_some_iff : String.fromUTF8? bytes = some text ↔ text.toUTF8 = bytes := by
  unfold String.fromUTF8?
  split
  next h =>
    rw [Option.some.injEq, ← String.toByteArray_inj]
    exact eq_comm
  next h =>
    simp only [reduceCtorEq, false_iff]
    rintro rfl
    exact h text.isValidUTF8

/-- UTF-8 writes the characters of a text as their shortest spellings. -/
theorem spelled_toList_iff : Utf8.Spelled text.toList bytes.toList ↔ text.toUTF8 = bytes := by
  rw [Utf8.spelled_iff, ← toByteArray_eq_iff, ← List.utf8Encode, String.utf8Encode_toList]
  rfl

/-- UTF-8 reads what can be cut into shortest spellings of characters. -/
theorem exists_fromUTF8?_iff :
    (∃ text, String.fromUTF8? bytes = some text) ↔ ∃ chars, Utf8.Spelled chars bytes.toList := by
  simp only [fromUTF8?_eq_some_iff, ← spelled_toList_iff]
  exact ⟨fun ⟨text, h⟩ => ⟨text.toList, h⟩, fun ⟨chars, h⟩ => ⟨String.ofList chars, by simpa using h⟩⟩

/-- UTF-8 reads a byte order mark as a character. -/
theorem fromUTF8?_marked (bytes : ByteArray) :
    String.fromUTF8? ("\uFEFF".toUTF8 ++ bytes) = (String.fromUTF8? bytes).map ("\uFEFF" ++ ·) := by
  have hmark : Utf8.IsSpelling '\uFEFF' [0xEF, 0xBB, 0xBF] := Utf8.isSpelling_iff.mpr (by decide)
  have hbytes : ("\uFEFF".toUTF8 ++ bytes).toList = [0xEF, 0xBB, 0xBF] ++ bytes.toList := by
    rw [toList_eq_data, ByteArray.toList_data_append, toList_eq_data]
    rfl
  ext text
  rw [Option.map_eq_some_iff, fromUTF8?_eq_some_iff, ← spelled_toList_iff, hbytes,
    hmark.spelled_append_iff]
  simp only [fromUTF8?_eq_some_iff, ← spelled_toList_iff]
  constructor
  · rintro ⟨chars, htext, hchars⟩
    refine ⟨String.ofList chars, by simpa using hchars, ?_⟩
    rw [← String.toList_inj, String.toList_append, htext]
    simp
  · rintro ⟨rest, hrest, rfl⟩
    exact ⟨rest.toList, by simp, hrest⟩

/-! ### Any charset -/

/-- A charset reads bytes as a text exactly if it writes the text as these bytes. -/
theorem decode?_eq_some_iff : charset.decode? bytes = some text ↔ charset.encode? text = some bytes := by
  cases charset with
  | utf8 => rw [decode?, encode?, fromUTF8?_eq_some_iff, Option.some.injEq]
  | latin1 => rw [latin1_decode?_eq_some_iff, latin1_encode?_eq_some_iff]

theorem decode_eq_ok_iff : charset.decode bytes path = .ok text ↔ charset.decode? bytes = some text := by
  unfold decode
  cases charset.decode? bytes <;> simp

theorem encode_eq_ok_iff : charset.encode text path = .ok bytes ↔ charset.encode? text = some bytes := by
  unfold encode
  cases charset.encode? text <;> simp

theorem decode_eq_error_iff :
    charset.decode bytes path = .error (.encoding "decode" path charset.name) ↔
      ¬∃ text, charset.decode? bytes = some text := by
  unfold decode
  cases charset.decode? bytes <;> simp

theorem encode_eq_error_iff :
    charset.encode text path = .error (.encoding "encode" path charset.name) ↔
      ¬∃ bytes, charset.encode? text = some bytes := by
  unfold encode
  cases charset.encode? text <;> simp

/-- **Reading and writing undo each other.** In either charset, whatever the paths are called, bytes are
read as a text exactly if the text is written as these bytes. Latin-1 reads everything, each byte as
the character of its number, and it refuses to write a text exactly if there is a character above
U+00FF. UTF-8 writes everything, each character as its shortest spelling, and it refuses to read
exactly what is no row of such spellings; then after some text there is a fault. A byte order mark at
the beginning is read as a character. -/
theorem decode_encode_exact :
    (∀ (charset : Charset) (bytes : ByteArray) (text path goal : String),
      charset.decode bytes path = .ok text ↔ charset.encode text goal = .ok bytes) ∧
    (∀ (bytes : ByteArray) (path : String), ∃ text, latin1.decode bytes path = .ok text ∧
      text.toList.map Char.toNat = bytes.toList.map UInt8.toNat) ∧
    (∀ text path : String, latin1.encode text path = .error (.encoding "encode" path "latin1") ↔
      ∃ c ∈ text.toList, 0xFF < c.toNat) ∧
    (∀ text path : String, (∃ bytes, latin1.encode text path = .ok bytes) ↔
      ∀ c ∈ text.toList, c.toNat ≤ 0xFF) ∧
    (∀ text path : String, ∃ bytes, utf8.encode text path = .ok bytes ∧
      Utf8.Spelled text.toList bytes.toList) ∧
    (∀ (bytes : ByteArray) (path : String),
      utf8.decode bytes path = .error (.encoding "decode" path "utf-8") ↔
        ∀ chars, ¬Utf8.Spelled chars bytes.toList) ∧
    (∀ (bytes : ByteArray) (path : String),
      utf8.decode bytes path = .error (.encoding "decode" path "utf-8") ↔
        ∃ chars front rest, bytes.toList = front ++ rest ∧ Utf8.Spelled chars front ∧ Utf8.Fault rest) ∧
    ∀ (bytes : ByteArray) (path : String),
      utf8.decode ("\uFEFF".toUTF8 ++ bytes) path = (utf8.decode bytes path).map ("\uFEFF" ++ ·) := by
  refine ⟨fun charset bytes text path goal => ?_, fun bytes path => ?_, fun text path => ?_,
    fun text path => ?_, fun text path => ?_, fun bytes path => ?_, fun bytes path => ?_,
    fun bytes path => ?_⟩
  · rw [decode_eq_ok_iff, decode?_eq_some_iff, encode_eq_ok_iff]
  · exact ⟨_, rfl, latin1_decode?_eq_some_iff.mp rfl⟩
  · rw [show "latin1" = latin1.name from rfl, encode_eq_error_iff, exists_latin1_encode?_iff]
    simp
  · simp only [encode_eq_ok_iff, exists_latin1_encode?_iff]
  · exact ⟨_, rfl, spelled_toList_iff.mpr rfl⟩
  · rw [show "utf-8" = utf8.name from rfl, decode_eq_error_iff, decode?, exists_fromUTF8?_iff,
      not_exists]
  · rw [show "utf-8" = utf8.name from rfl, decode_eq_error_iff, decode?, exists_fromUTF8?_iff]
    constructor
    · intro h
      exact (Utf8.spelled_or_fault bytes.toList).resolve_left h
    · rintro ⟨chars, front, rest, hbytes, hfront, hfault⟩ ⟨others, hall⟩
      exact hfault.not_spelled hfront (hbytes ▸ hall)
  · simp only [decode, decode?, fromUTF8?_marked]
    cases String.fromUTF8? bytes <;> rfl

end Charset

/-- A smaller text has smaller bytes. -/
theorem bytesOf_lt (h : text < goal) : Text.bytesOf text < Text.bytesOf goal :=
  (Charset.spelled_toList_iff.mpr rfl).lt (Charset.spelled_toList_iff.mpr rfl) h

end Precompiler
