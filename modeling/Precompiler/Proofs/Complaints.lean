import Mathlib.Algebra.Group.Nat.Defs
import Mathlib.Data.List.Infix
import Mathlib.Data.List.TakeWhile
import Precompiler.Engine.Process

/-! The complaints of a process.

A process may write any bytes, and they are read as text all the same. Read so, an ASCII byte is the character
of ASCII, wherever it stands, and every other character is read out of bytes beyond ASCII (`Text.reads_lossy`).
So a text of ASCII occurs in what is read just where its bytes occur in what was written
(`Text.Reads.infix_iff`), and what a failed process means hangs on its bytes alone
(`Outcome.complains_exitFailure`). -/
namespace Precompiler

namespace Text

/-! ### Reading any bytes -/

/-- The character of an ASCII byte. -/
def asciiChar (b : UInt8) : Char := Char.ofNat b.toNat

theorem toNat_asciiChar {b : UInt8} (h : b < 0x80) : (asciiChar b).toNat = b.toNat := by
  have hlt : b.toNat < 0x80 := h
  have hvalid : b.toNat.isValidChar := .inl (by omega)
  rw [asciiChar, Char.ofNat, dif_pos hvalid]
  rfl

/-- Bytes read as characters: an ASCII byte as its character, and some bytes beyond ASCII as one beyond it. -/
inductive Reads : List UInt8 → List Char → Prop where
  | nil : Reads [] []
  | ascii {b : UInt8} {bytes : List UInt8} {chars : List Char} : b < 0x80 → Reads bytes chars →
      Reads (b :: bytes) (asciiChar b :: chars)
  | wide {chunk bytes : List UInt8} {c : Char} {chars : List Char} : chunk ≠ [] → (∀ b ∈ chunk, 0x80 ≤ b) →
      0x80 ≤ c.toNat → Reads bytes chars → Reads (chunk ++ bytes) (c :: chars)

variable {bytes more part : List UInt8} {chars others done : List Char} {b : UInt8} {p : Pending}

theorem Reads.append (h : Reads bytes chars) (h' : Reads more others) : Reads (bytes ++ more) (chars ++ others) := by
  induction h with
  | nil => exact h'
  | ascii hb _ ih => exact .ascii hb ih
  | wide hne hchunk hc _ ih =>
    rw [List.append_assoc]
    exact .wide hne hchunk hc ih

theorem reads_wide {c : Char} (hne : bytes ≠ []) (hbytes : ∀ b ∈ bytes, 0x80 ≤ b) (hc : 0x80 ≤ c.toNat) :
    Reads bytes [c] := by
  have hread : Reads (bytes ++ []) [c] := .wide hne hbytes hc .nil
  rwa [List.append_nil] at hread

/-! ### Characters under way -/

/-- The least number that a character under way can come to. -/
def Pending.least (p : Pending) : Nat := (p.bits * 64 + p.low.toNat % 64) * 64 ^ (p.needed - 1)

/-- All numbers that a character under way can come to are below this one. -/
def Pending.bound (p : Pending) : Nat := (p.bits * 64 + p.high.toNat % 64 + 1) * 64 ^ (p.needed - 1)

/-- Whatever a character under way comes to is a character, and one beyond ASCII. -/
structure Pending.IsFit (p : Pending) : Prop where
  continues : 0x80 ≤ p.low.toNat ∧ p.high.toNat ≤ 0xBF
  needs : 1 ≤ p.needed
  wide : 0x80 ≤ p.least
  valid : p.bound ≤ 0xD800 ∨ 0xE000 ≤ p.least ∧ p.bound ≤ 0x110000

instance decidableIsFit (p : Pending) : Decidable p.IsFit :=
  decidable_of_iff ((0x80 ≤ p.low.toNat ∧ p.high.toNat ≤ 0xBF) ∧ 1 ≤ p.needed ∧ 0x80 ≤ p.least ∧
      (p.bound ≤ 0xD800 ∨ 0xE000 ≤ p.least ∧ p.bound ≤ 0x110000))
    ⟨fun ⟨hcontinues, hneeds, hwide, hvalid⟩ => ⟨hcontinues, hneeds, hwide, hvalid⟩,
      fun h => ⟨h.continues, h.needs, h.wide, h.valid⟩⟩

/-- What a byte announces: itself if it is ASCII, and otherwise a character beyond ASCII, or nothing. -/
def Announces (b : UInt8) : Option (Nat × UInt8 × UInt8) → Prop
  | some (0, _, _) => b < 0x80
  | some (n + 1, low, high) => 0x80 ≤ b ∧ Pending.IsFit ⟨n + 1, low, high, leadBits b⟩
  | none => 0x80 ≤ b

instance decidableAnnounces (b : UInt8) (lead : Option (Nat × UInt8 × UInt8)) : Decidable (Announces b lead) :=
  match lead with
  | some (0, _, _) => inferInstanceAs (Decidable (b < 0x80))
  | some (n + 1, low, high) => inferInstanceAs (Decidable (0x80 ≤ b ∧ Pending.IsFit ⟨n + 1, low, high, leadBits b⟩))
  | none => inferInstanceAs (Decidable (0x80 ≤ b))

theorem announces_leadOf (b : UInt8) : Announces b (leadOf b) := by
  have hall : ∀ n < 256, Announces (UInt8.ofNat n) (leadOf (UInt8.ofNat n)) := by decide +kernel
  have hb := hall b.toNat b.toNat_lt
  rwa [UInt8.ofNat_toNat] at hb

theorem Pending.IsFit.continued (h : p.IsFit) (hlow : p.low ≤ b) (hhigh : b ≤ p.high) (hneeded : 1 < p.needed) :
    Pending.IsFit ⟨p.needed - 1, 0x80, 0xBF, p.bits * 64 + b.toNat % 64⟩ := by
  obtain ⟨⟨hfrom, hto⟩, _, hwide, hvalid⟩ := h
  have hlow' : p.low.toNat ≤ b.toNat := hlow
  have hhigh' : b.toNat ≤ p.high.toNat := hhigh
  obtain ⟨n, hn⟩ : ∃ n, p.needed = n + 2 := ⟨p.needed - 2, by omega⟩
  -- The numbers that are still possible are some of those that were.
  have hleast : p.least ≤ Pending.least ⟨p.needed - 1, 0x80, 0xBF, p.bits * 64 + b.toNat % 64⟩ := by
    unfold Pending.least
    rw [hn, show (0x80 : UInt8).toNat % 64 = 0 by decide, show n + 2 - 1 = n + 1 from rfl, Nat.add_sub_cancel,
      Nat.pow_succ', ← Nat.mul_assoc]
    exact Nat.mul_le_mul_right _ (by dsimp only; omega)
  have hbound : Pending.bound ⟨p.needed - 1, 0x80, 0xBF, p.bits * 64 + b.toNat % 64⟩ ≤ p.bound := by
    unfold Pending.bound
    rw [hn, show (0xBF : UInt8).toNat % 64 = 63 by decide, show n + 2 - 1 = n + 1 from rfl, Nat.add_sub_cancel,
      Nat.pow_succ', ← Nat.mul_assoc]
    exact Nat.mul_le_mul_right _ (by dsimp only; omega)
  have hneeds : 1 ≤ p.needed - 1 := by omega
  have hends : 0x80 ≤ (0x80 : UInt8).toNat ∧ (0xBF : UInt8).toNat ≤ 0xBF := by decide
  refine ⟨hends, hneeds, hwide.trans hleast, ?_⟩
  rcases hvalid with hbelow | ⟨habove, hbelow⟩
  · exact .inl (hbound.trans hbelow)
  · exact .inr ⟨habove.trans hleast, hbound.trans hbelow⟩

theorem Pending.IsFit.completed (h : p.IsFit) (hlow : p.low ≤ b) (hhigh : b ≤ p.high) (hneeded : p.needed ≤ 1) :
    0x80 ≤ (Char.ofNat (p.bits * 64 + b.toNat % 64)).toNat := by
  obtain ⟨⟨hfrom, hto⟩, hneeds, hwide, hvalid⟩ := h
  have hlow' : p.low.toNat ≤ b.toNat := hlow
  have hhigh' : b.toNat ≤ p.high.toNat := hhigh
  have hone : p.needed = 1 := by omega
  simp only [Pending.least, Pending.bound, hone, Nat.sub_self, Nat.pow_zero, Nat.mul_one] at hwide hvalid
  have hchar : (p.bits * 64 + b.toNat % 64).isValidChar := by
    rcases hvalid with hbelow | ⟨habove, hbelow⟩
    · exact .inl (by omega)
    · exact .inr ⟨by omega, by omega⟩
  have htoNat : (Char.ofNat (p.bits * 64 + b.toNat % 64)).toNat = p.bits * 64 + b.toNat % 64 := by
    rw [Char.ofNat, dif_pos hchar]
    rfl
  rw [htoNat]
  omega

/-! ### From bytes to characters -/

/-- How far some bytes have been read: to the end, or to a character under way. -/
inductive Standing : List UInt8 → List Char × Option Pending → Prop where
  | between {bytes : List UInt8} {done : List Char} : Reads bytes done.reverse → Standing bytes (done, none)
  | within {front chunk : List UInt8} {done : List Char} {p : Pending} : Reads front done.reverse → chunk ≠ [] →
      (∀ b ∈ chunk, 0x80 ≤ b) → p.IsFit → Standing (front ++ chunk) (done, some p)

theorem standing_beginByte (h : Reads bytes done.reverse) (b : UInt8) :
    Standing (bytes ++ [b]) (beginByte done b) := by
  have hlead := announces_leadOf b
  unfold beginByte
  generalize leadOf b = lead at hlead
  rcases lead with _ | ⟨_ | n, low, high⟩
  · have hb : ∀ other ∈ [b], 0x80 ≤ other := by
      rw [List.forall_mem_singleton]
      exact hlead
    refine .between ?_
    rw [List.reverse_cons]
    exact h.append (reads_wide (by simp) hb (by decide))
  · refine .between ?_
    rw [List.reverse_cons]
    exact h.append (.ascii hlead .nil)
  · exact .within h (by simp) (by simpa using hlead.1) hlead.2

theorem Standing.readByte {state : List Char × Option Pending} (h : Standing bytes state) (b : UInt8) :
    Standing (bytes ++ [b]) (readByte state b) := by
  cases h with
  | between hread => exact standing_beginByte hread b
  | @within front chunk done p hread hne hchunk hfit =>
    rw [Text.readByte]
    by_cases hbounds : p.low ≤ b ∧ b ≤ p.high
    · rw [if_pos hbounds, List.append_assoc]
      obtain ⟨hlow, hhigh⟩ := hbounds
      have hb : 0x80 ≤ b := Nat.le_trans hfit.continues.1 hlow
      have hchunk' : ∀ other ∈ chunk ++ [b], 0x80 ≤ other :=
        List.forall_mem_append.mpr ⟨hchunk, by simpa using hb⟩
      by_cases hneeded : p.needed ≤ 1
      · rw [if_pos hneeded]
        refine .between ?_
        rw [List.reverse_cons]
        exact hread.append (reads_wide (by simp) hchunk' (hfit.completed hlow hhigh hneeded))
      · rw [if_neg hneeded]
        exact .within hread (by simp) hchunk' (hfit.continued hlow hhigh (by omega))
    · rw [if_neg hbounds]
      refine standing_beginByte ?_ b
      rw [List.reverse_cons]
      exact hread.append (reads_wide hne hchunk (by decide))

theorem standing_foldl (bytes : List UInt8) : Standing bytes (bytes.foldl readByte ([], none)) := by
  induction bytes using List.reverseRecOn with
  | nil => exact .between .nil
  | append_singleton bytes b ih =>
    rw [List.foldl_append]
    exact ih.readByte b

theorem reads_lossy (bytes : List UInt8) : Reads bytes (lossy bytes).toList := by
  have hend := standing_foldl bytes
  unfold lossy
  generalize bytes.foldl readByte ([], none) = state at hend
  cases hend with
  | between hread => rwa [String.toList_ofList]
  | within hread hne hchunk _ =>
    rw [String.toList_ofList, List.reverse_cons]
    exact hread.append (reads_wide hne hchunk (by decide))

/-! ### Texts of ASCII in it -/

theorem Reads.split (h : Reads bytes (chars ++ others)) :
    ∃ front back, bytes = front ++ back ∧ Reads front chars ∧ Reads back others := by
  induction chars generalizing bytes with
  | nil => exact ⟨[], bytes, rfl, .nil, h⟩
  | cons c chars ih =>
    cases h with
    | ascii hb hrest =>
      obtain ⟨front, back, rfl, hfront, hback⟩ := ih hrest
      exact ⟨_ :: front, back, rfl, .ascii hb hfront, hback⟩
    | wide hne hchunk hc hrest =>
      obtain ⟨front, back, rfl, hfront, hback⟩ := ih hrest
      exact ⟨_ ++ front, back, (List.append_assoc ..).symm, .wide hne hchunk hc hfront, hback⟩

theorem Reads.eq_of_ascii (hpart : ∀ b ∈ part, b < 0x80) (h : Reads bytes (part.map asciiChar)) : bytes = part := by
  induction part generalizing bytes with
  | nil =>
    cases h
    rfl
  | cons b part ih =>
    obtain ⟨hb, hrest⟩ := List.forall_mem_cons.mp hpart
    rw [List.map_cons] at h
    generalize hchar : asciiChar b = c at h
    cases h with
    | @ascii other _ _ hother hread =>
      have hsame : b.toNat = other.toNat := by rw [← toNat_asciiChar hb, hchar, toNat_asciiChar hother]
      rw [UInt8.toNat_inj.mp hsame, ih hrest hread]
    | wide _ _ hc _ =>
      rw [← hchar, toNat_asciiChar hb] at hc
      exact absurd hb (Nat.not_lt.mpr hc)

theorem Reads.starts (hpart : ∀ b ∈ part, b < 0x80) (h : Reads (part ++ more) chars) :
    ∃ rest, chars = part.map asciiChar ++ rest := by
  induction part generalizing chars with
  | nil => exact ⟨chars, rfl⟩
  | cons b part ih =>
    obtain ⟨hb, hrest⟩ := List.forall_mem_cons.mp hpart
    generalize hall : b :: part ++ more = all at h
    cases h with
    | nil => cases hall
    | ascii _ hread =>
      obtain ⟨rfl, rfl⟩ := List.cons.inj hall
      obtain ⟨rest, rfl⟩ := ih hrest hread
      exact ⟨rest, rfl⟩
    | @wide chunk _ _ _ hne hchunk _ _ =>
      obtain ⟨first, chunk, rfl⟩ := List.exists_cons_of_ne_nil hne
      obtain ⟨rfl, _⟩ := List.cons.inj hall
      exact absurd hb (Nat.not_lt.mpr (hchunk b List.mem_cons_self))

theorem Reads.finds {front : List UInt8} (hb : b < 0x80) (h : Reads (front ++ b :: more) chars) :
    ∃ before after, chars = before ++ after ∧ Reads (b :: more) after := by
  generalize hall : front ++ b :: more = all at h
  induction h generalizing front with
  | nil => simp at hall
  | ascii hother hread ih =>
    rcases front with _ | ⟨first, front⟩
    · refine ⟨[], _, rfl, ?_⟩
      rw [List.nil_append] at hall
      rw [hall]
      exact .ascii hother hread
    · obtain ⟨rfl, hrest⟩ := List.cons.inj hall
      obtain ⟨before, after, rfl, hafter⟩ := ih hrest
      exact ⟨_ :: before, after, rfl, hafter⟩
  | @wide chunk bytes c chars hne hchunk hc hread ih =>
    -- The byte cannot stand within the chunk, so it stands behind it.
    obtain ⟨front', rfl⟩ : ∃ front', front = chunk ++ front' := by
      rcases List.append_eq_append_iff.mp hall with ⟨rest, rfl, hrest⟩ | ⟨rest, rfl, _⟩
      · rcases rest with _ | ⟨first, rest⟩
        · exact ⟨[], by simp⟩
        · obtain ⟨rfl, _⟩ := List.cons.inj hrest
          exact absurd hb (Nat.not_lt.mpr (hchunk b (by simp)))
      · exact ⟨rest, rfl⟩
    rw [List.append_assoc] at hall
    obtain ⟨before, after, rfl, hafter⟩ := ih (List.append_cancel_left hall)
    exact ⟨c :: before, after, rfl, hafter⟩

/-- A text of ASCII occurs in what is read just where its bytes occur. -/
theorem Reads.infix_iff (h : Reads bytes chars) (hpart : ∀ b ∈ part, b < 0x80) :
    part.map asciiChar <:+: chars ↔ part <:+: bytes := by
  constructor
  · rintro ⟨before, after, rfl⟩
    obtain ⟨front, back, rfl, hfront, hback⟩ := h.split
    obtain ⟨front, own, rfl, _, hown⟩ := hfront.split
    exact ⟨front, back, by rw [hown.eq_of_ascii hpart]⟩
  · rintro ⟨front, back, rfl⟩
    rcases part with _ | ⟨b, part⟩
    · exact List.nil_infix
    · rw [List.append_assoc, List.cons_append] at h
      obtain ⟨before, after, rfl, hafter⟩ := h.finds (hpart b List.mem_cons_self)
      obtain ⟨rest, rfl⟩ := Reads.starts hpart hafter
      exact ⟨before, rest, List.append_assoc ..⟩

/-! ### Blanks at the ends -/

/-- A text without blanks at its two ends that is the other one but for such blanks. -/
structure IsTrimmed (text trimmed : String) : Prop where
  margins : ∃ front back, text.toList = front ++ trimmed.toList ++ back ∧ ∀ c ∈ front ++ back, isBlank c = true
  starts : ∀ c ∈ trimmed.toList.head?, isBlank c = false
  ends : ∀ c ∈ trimmed.toList.getLast?, isBlank c = false

theorem isBlank_of_dropWhile {text : List Char} {c : Char} (h : c ∈ (text.dropWhile isBlank).head?) :
    isBlank c = false := by
  have hfirst := List.head?_dropWhile_not isBlank text
  rw [Option.mem_def.mp h] at hfirst
  exact hfirst

theorem isTrimmed_trim (text : String) : IsTrimmed text (trim text) := by
  have hmiddle : text.toList.dropWhile isBlank = (trim text).toList ++
      ((text.toList.dropWhile isBlank).reverse.takeWhile isBlank).reverse := by
    rw [trim, String.toList_ofList, trimChars, ← List.reverse_append, List.takeWhile_append_dropWhile,
      List.reverse_reverse]
  refine ⟨⟨text.toList.takeWhile isBlank, ((text.toList.dropWhile isBlank).reverse.takeWhile isBlank).reverse,
      ?_, fun c hc => ?_⟩, fun c hc => ?_, fun c hc => ?_⟩
  · rw [List.append_assoc, ← hmiddle, List.takeWhile_append_dropWhile]
  · rcases List.mem_append.mp hc with hc | hc
    · exact List.all_eq_true.mp List.all_takeWhile c hc
    · exact List.all_eq_true.mp List.all_takeWhile c (List.mem_reverse.mp hc)
  · have hfirst : c ∈ (text.toList.dropWhile isBlank).head? := by
      rw [hmiddle]
      exact List.mem_head?_append_of_mem_head? hc
    exact isBlank_of_dropWhile hfirst
  · rw [trim, String.toList_ofList, trimChars, List.getLast?_reverse] at hc
    exact isBlank_of_dropWhile hc

end Text

/-! ### What complaints mean -/

namespace Outcome

theorem occursIn_iff {part text : List Char} : occursIn part text = true ↔ part <:+: text := by
  induction text with
  | nil => simp [occursIn]
  | cons c text ih => rw [occursIn, Bool.or_eq_true, ih, List.isPrefixOf_iff_prefix, List.infix_cons_iff]

/-- The bytes by which a process tells that a module is missing. -/
def missingModule : List UInt8 := "Cannot find module".toUTF8.toList

/-- What the complaints of a failed process mean: its module is not there, if they say so anywhere, and otherwise
the template is rejected in their words, the blanks around them left out. -/
inductive Complains (engineModule : String) (errors : ByteArray) : Failure → Prop where
  | missing : missingModule <:+: errors.toList →
      Complains engineModule errors (.missingTool engineModule engineModule)
  | rejected {message : String} : ¬missingModule <:+: errors.toList →
      Text.IsTrimmed (Text.lossy errors.toList) message → Complains engineModule errors (.compile "" message)

theorem complains_exitFailure (engineModule : String) (errors : ByteArray) :
    Complains engineModule errors (exitFailure engineModule (Text.lossy errors.toList)) := by
  have hchars : missingModule.map Text.asciiChar = "Cannot find module".toList := by decide +kernel
  have hoccurs : occursIn "Cannot find module".toList (Text.lossy errors.toList).toList = true ↔
      missingModule <:+: errors.toList := by
    rw [occursIn_iff, ← hchars]
    exact (Text.reads_lossy errors.toList).infix_iff (by decide +kernel)
  unfold exitFailure
  split
  next hmissing => exact .missing (hoccurs.mp hmissing)
  next hnot => exact .rejected (mt hoccurs.mpr hnot) (Text.isTrimmed_trim _)

end Outcome

end Precompiler
