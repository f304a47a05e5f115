import Mathlib.Algebra.Group.Nat.Defs
import Mathlib.Data.List.TakeWhile
import Mathlib.Tactic.SplitIfs
import Precompiler.Charset

/-! UTF-8, by the bits of its bytes.

A character is spelled by a first byte, which tells how many bytes follow it, and by these. What is
left of the bytes makes up a number (`Spells`). Some numbers can be spelled in several ways, of which
only the shortest counts, and some are no characters. So bytes are a text if they can be cut into
shortest spellings of characters (`Spelled`), and this can be done in one way only
(`IsSpelling.spelled_append_iff`).

The core library writes a character just so (`isSpelling_iff`), and a smaller text has smaller bytes
(`Spelled.lt`). Bytes that it does not take as a text are wrong at a place that can be told: after a
text something begins that is a `Fault` (`spelled_or_fault`), and what begins with a fault is no text
(`Fault.not_spelled`). -/
namespace Precompiler.Utf8

/-! ### Spellings -/

/-- A byte that goes on with a character: `10xxxxxx`. -/
def GoesOn (b : UInt8) : Prop := 0x80 ≤ b.toNat ∧ b.toNat < 0xC0

instance decidableGoesOn (b : UInt8) : Decidable (GoesOn b) := inferInstanceAs (Decidable (_ ∧ _))

/-- How many bytes a first byte tells of: none as `0xxxxxxx`, and up to three as `110xxxxx`,
`1110xxxx` and `11110xxx`. -/
def announced? (b : UInt8) : Option Nat :=
  if b.toNat < 0x80 then some 0
  else if b.toNat < 0xC0 then none
  else if b.toNat < 0xE0 then some 1
  else if b.toNat < 0xF0 then some 2
  else if b.toNat < 0xF8 then some 3
  else none

/-- The least first byte that tells of so many bytes. -/
def mark : Nat → Nat
  | 0 => 0
  | 1 => 0xC0
  | 2 => 0xE0
  | _ => 0xF0

/-- A number with the six free bits of one more byte. -/
def shift (n : Nat) (b : UInt8) : Nat := n * 64 + b.toNat % 64

/-- Bytes spell a number: a first byte and as many as it tells of, their free bits one after
another. -/
inductive Spells : Nat → List UInt8 → Prop where
  | of {first : UInt8} {tail : List UInt8} : announced? first = some tail.length →
      (∀ b ∈ tail, GoesOn b) →
      Spells (tail.foldl shift (first.toNat - mark tail.length)) (first :: tail)

/-- The least number that takes so many bytes. -/
def least : Nat → Nat
  | 0 | 1 => 0
  | 2 => 0x80
  | 3 => 0x800
  | 4 => 0x10000
  | _ => 0x200000

/-- The shortest spelling of a character. -/
structure IsSpelling (c : Char) (bytes : List UInt8) : Prop where
  spells : Spells c.toNat bytes
  shortest : least bytes.length ≤ c.toNat

/-- The shortest spellings of characters, one after another. -/
inductive Spelled : List Char → List UInt8 → Prop where
  | nil : Spelled [] []
  | cons {c : Char} {chars : List Char} {front rest : List UInt8} : IsSpelling c front →
      Spelled chars rest → Spelled (c :: chars) (front ++ rest)

variable {n m k : Nat} {c : Char} {chars others : List Char}
  {front other rest more bytes tail : List UInt8} {first : UInt8}

theorem announced?_eq_some_iff :
    announced? first = some k ↔
      (k = 0 ∧ first.toNat < 0x80) ∨ (k = 1 ∧ 0xC0 ≤ first.toNat ∧ first.toNat < 0xE0) ∨
        (k = 2 ∧ 0xE0 ≤ first.toNat ∧ first.toNat < 0xF0) ∨
        (k = 3 ∧ 0xF0 ≤ first.toNat ∧ first.toNat < 0xF8) := by
  unfold announced?
  split_ifs <;> simp <;> omega

theorem announced?_eq_none_iff : announced? first = none ↔ GoesOn first ∨ 0xF8 ≤ first.toNat := by
  unfold announced? GoesOn
  split_ifs <;> simp <;> omega

/-! ### One character -/

/-- The bits of a first byte and of the bytes after it can be read back. -/
theorem foldl_shift_inj {others : List UInt8} (hlength : tail.length = others.length)
    (htail : ∀ b ∈ tail, GoesOn b) (hothers : ∀ b ∈ others, GoesOn b)
    (h : tail.foldl shift n = others.foldl shift m) : n = m ∧ tail = others := by
  induction tail generalizing others n m with
  | nil =>
    obtain rfl := List.length_eq_zero_iff.mp hlength.symm
    exact ⟨h, rfl⟩
  | cons b tail ih =>
    obtain _ | ⟨b', others⟩ := others
    · cases hlength
    obtain ⟨hb, htail⟩ := List.forall_mem_cons.mp htail
    obtain ⟨hb', hothers⟩ := List.forall_mem_cons.mp hothers
    obtain ⟨hshift, rfl⟩ := ih (Nat.succ.inj hlength) htail hothers h
    unfold GoesOn at hb hb'
    unfold shift at hshift
    refine ⟨by omega, ?_⟩
    rw [show b = b' from UInt8.toNat_inj.mp (by omega)]

theorem foldl_shift_lt (n : Nat) (tail : List UInt8) :
    tail.foldl shift n < (n + 1) * 64 ^ tail.length := by
  induction tail generalizing n with
  | nil => simp
  | cons b tail ih =>
    calc tail.foldl shift (shift n b) < (shift n b + 1) * 64 ^ tail.length := ih _
      _ ≤ ((n + 1) * 64) * 64 ^ tail.length := Nat.mul_le_mul_right _ (by unfold shift; omega)
      _ = (n + 1) * 64 ^ (b :: tail).length := by rw [List.length_cons, Nat.pow_succ', Nat.mul_assoc]

/-- A number is too small for more bytes than spell it. -/
theorem Spells.lt_least (h : Spells n bytes) : n < least (bytes.length + 1) := by
  obtain @⟨first, tail, hfirst, _⟩ := h
  refine Nat.lt_of_lt_of_le (foldl_shift_lt _ tail) ?_
  rcases announced?_eq_some_iff.mp hfirst with ⟨hk, hbits⟩ | ⟨hk, hbits⟩ | ⟨hk, hbits⟩ | ⟨hk, hbits⟩ <;>
    simp only [List.length_cons, hk, mark, least] <;> omega

theorem least_mono (h : k ≤ m) : least k ≤ least m := by
  induction h with
  | refl => exact Nat.le_refl _
  | @step m _ ih =>
    refine Nat.le_trans ih ?_
    rcases m with _ | _ | _ | _ | _ | m <;> simp [least]

theorem mark_le (h : announced? first = some k) : mark k ≤ first.toNat := by
  rcases announced?_eq_some_iff.mp h with ⟨rfl, hbits⟩ | ⟨rfl, hbits⟩ | ⟨rfl, hbits⟩ | ⟨rfl, hbits⟩ <;>
    simp only [mark] <;> omega

/-- A number has one shortest spelling. -/
theorem Spells.eq_of_shortest (h : Spells n bytes) (hother : Spells n other)
    (hleast : least bytes.length ≤ n) (hleast' : least other.length ≤ n) : bytes = other := by
  have hlength : bytes.length = other.length := by
    have hlt := h.lt_least
    have hlt' := hother.lt_least
    rcases Nat.lt_trichotomy bytes.length other.length with hless | heq | hless
    · exact absurd (Nat.le_trans (least_mono hless) hleast') (Nat.not_le.mpr hlt)
    · exact heq
    · exact absurd (Nat.le_trans (least_mono hless) hleast) (Nat.not_le.mpr hlt')
  generalize hn : n = m at hother
  obtain @⟨first, tail, hfirst, htail⟩ := h
  obtain @⟨first', tail', hfirst', htail'⟩ := hother
  have htails : tail.length = tail'.length := Nat.succ.inj hlength
  obtain ⟨hbits, rfl⟩ := foldl_shift_inj htails htail htail' hn
  have hmark := mark_le hfirst
  have hmark' := mark_le hfirst'
  rw [show first = first' from UInt8.toNat_inj.mp (by omega)]

/-- The core library writes a character as a shortest spelling. -/
theorem isSpelling_utf8EncodeChar (c : Char) : IsSpelling c (String.utf8EncodeChar c) := by
  have hc : c.toNat < 0x110000 := by
    rcases c.valid with h | ⟨_, h⟩
    · exact Nat.lt_trans h (by decide)
    · exact h
  have hof : ∀ {first : UInt8} {tail : List UInt8}, announced? first = some tail.length →
      (∀ b ∈ tail, GoesOn b) → c.toNat = tail.foldl shift (first.toNat - mark tail.length) →
      least (tail.length + 1) ≤ c.toNat → IsSpelling c (first :: tail) :=
    fun hfirst htail hbits hleast => ⟨hbits ▸ .of hfirst htail, hleast⟩
  unfold String.utf8EncodeChar
  rw [show c.val.toNat = c.toNat from rfl]
  dsimp only
  split_ifs with h₁ h₂ h₃ <;>
    refine hof (announced?_eq_some_iff.mpr ?_) ?_ ?_ ?_ <;>
    simp [GoesOn, shift, mark, least] <;> omega

theorem isSpelling_iff : IsSpelling c bytes ↔ String.utf8EncodeChar c = bytes := by
  constructor
  · intro h
    have hown := isSpelling_utf8EncodeChar c
    exact hown.spells.eq_of_shortest h.spells hown.shortest h.shortest
  · rintro rfl
    exact isSpelling_utf8EncodeChar c

/-- What is spelled begins with a byte that tells of the others. -/
theorem Spells.opens (h : Spells n bytes) :
    ∃ first tail, bytes = first :: tail ∧ announced? first = some tail.length ∧ ∀ b ∈ tail, GoesOn b := by
  obtain @⟨first, tail, hfirst, htail⟩ := h
  exact ⟨first, tail, rfl, hfirst, htail⟩

/-- What is spelled ends where its first byte says. -/
theorem Spells.append_inj (h : Spells n front) (hother : Spells m other)
    (heq : front ++ rest = other ++ more) : front = other ∧ rest = more := by
  refine List.append_inj heq ?_
  obtain ⟨first, tail, rfl, hfirst, _⟩ := h.opens
  obtain ⟨first', tail', rfl, hfirst', _⟩ := hother.opens
  obtain ⟨rfl, _⟩ := List.cons.inj heq
  rw [List.length_cons, List.length_cons, Option.some.inj (hfirst.symm.trans hfirst')]

theorem Spells.number_eq (h : Spells n bytes) (hother : Spells m bytes) : n = m := by
  obtain ⟨_, _⟩ := h
  cases hother
  rfl

/-! ### Texts -/

/-- Characters are spelled as the core library writes them. -/
theorem spelled_iff : Spelled chars bytes ↔ chars.flatMap String.utf8EncodeChar = bytes := by
  constructor
  · intro h
    induction h with
    | nil => rfl
    | cons hfront _ ih => rw [List.flatMap_cons, ih, isSpelling_iff.mp hfront]
  · rintro rfl
    induction chars with
    | nil => exact .nil
    | cons c chars ih => exact .cons (isSpelling_utf8EncodeChar c) ih

/-- What begins with the spelling of a character is a text that begins with the character. -/
theorem IsSpelling.spelled_append_iff (h : IsSpelling c front) :
    Spelled others (front ++ rest) ↔ ∃ chars, others = c :: chars ∧ Spelled chars rest := by
  constructor
  · intro hall
    generalize hbytes : front ++ rest = bytes at hall
    cases hall with
    | nil =>
      obtain ⟨_, _, rfl, _⟩ := h.spells.opens
      cases hbytes
    | @cons c' chars _ _ hother hmore =>
      obtain ⟨rfl, rfl⟩ := h.spells.append_inj hother.spells hbytes
      rw [Char.toNat_inj.mp (h.spells.number_eq hother.spells)]
      exact ⟨chars, rfl, hmore⟩
  · rintro ⟨chars, rfl, hrest⟩
    exact .cons h hrest

/-! ### Order -/

/-- Of two numbers with as many bytes after the first one the smaller has the smaller beginning, or else the
smaller bytes. -/
theorem lt_of_foldl_shift_lt {others : List UInt8} (hlength : tail.length = others.length)
    (htail : ∀ b ∈ tail, GoesOn b) (hothers : ∀ b ∈ others, GoesOn b)
    (h : tail.foldl shift n < others.foldl shift m) : n < m ∨ n = m ∧ tail ++ rest < others ++ more := by
  induction tail generalizing others n m with
  | nil =>
    obtain rfl := List.length_eq_zero_iff.mp hlength.symm
    exact .inl h
  | cons b tail ih =>
    obtain _ | ⟨b', others⟩ := others
    · cases hlength
    obtain ⟨hb, htail⟩ := List.forall_mem_cons.mp htail
    obtain ⟨hb', hothers⟩ := List.forall_mem_cons.mp hothers
    have hshift := ih (Nat.succ.inj hlength) htail hothers h
    unfold GoesOn at hb hb'
    unfold shift at hshift
    by_cases hlt : n < m
    · exact .inl hlt
    refine .inr ⟨by omega, List.cons_lt_cons_iff.mpr ?_⟩
    rcases hshift with hbits | ⟨hbits, hrest⟩
    · have hless : b.toNat < b'.toNat := by omega
      exact .inl hless
    · exact .inr ⟨UInt8.toNat_inj.mp (by omega), hrest⟩

/-- The shortest spelling of a smaller number is smaller, whatever follows. -/
theorem Spells.append_lt (h : Spells n bytes) (hother : Spells m other) (hleast : least bytes.length ≤ n)
    (hlt : n < m) : bytes ++ rest < other ++ more := by
  have hlength : bytes.length ≤ other.length := by
    by_contra hmore
    have hless := Nat.lt_of_lt_of_le hother.lt_least (least_mono (Nat.lt_of_not_le hmore))
    omega
  obtain @⟨first, tail, hfirst, htail⟩ := h
  obtain @⟨first', tail', hfirst', htail'⟩ := hother
  refine List.cons_lt_cons_iff.mpr ?_
  rcases Nat.lt_or_eq_of_le (Nat.le_of_succ_le_succ hlength) with hfewer | hsame
  · have hannounced : first.toNat < first'.toNat := by
      rcases announced?_eq_some_iff.mp hfirst with hbits | hbits | hbits | hbits <;>
        rcases announced?_eq_some_iff.mp hfirst' with hbits' | hbits' | hbits' | hbits' <;> omega
    exact .inl hannounced
  · have hmark := mark_le hfirst
    have hmark' := mark_le hfirst'
    rw [← hsame] at hmark' hlt
    rcases lt_of_foldl_shift_lt hsame htail htail' hlt with hless | ⟨heq, hrest⟩
    · have hfirsts : first.toNat < first'.toNat := by omega
      exact .inl hfirsts
    · exact .inr ⟨UInt8.toNat_inj.mp (by omega), hrest⟩

/-- Texts have the order of their bytes. -/
theorem Spelled.lt {spelled : List UInt8} (h : Spelled chars bytes) (hother : Spelled others spelled)
    (hlt : chars < others) : bytes < spelled := by
  induction h generalizing others spelled with
  | nil =>
    cases hother with
    | nil => cases hlt
    | cons hfront _ =>
      obtain ⟨first, tail, rfl, _⟩ := hfront.spells.opens
      exact List.nil_lt_cons ..
  | cons hfront _ ih =>
    cases hother with
    | nil => cases hlt
    | cons hfront' hrest' =>
      rcases List.cons_lt_cons_iff.mp hlt with hchar | ⟨rfl, hchars⟩
      · exact hfront.spells.append_lt hfront'.spells hfront.shortest hchar
      · rw [hfront.spells.eq_of_shortest hfront'.spells hfront.shortest hfront'.shortest]
        exact List.append_left_lt (ih hrest' hchars)

/-! ### What is no text -/

/-- What is wrong where bytes begin that no character begins with. -/
inductive Fault : List UInt8 → Prop where
  /-- A byte that goes on with a character stands where one begins. -/
  | stray {b : UInt8} {rest : List UInt8} : GoesOn b → Fault (b :: rest)
  /-- A first byte as of five bytes or more, for numbers that are too great. -/
  | excessive {b : UInt8} {rest : List UInt8} : 0xF8 ≤ b.toNat → Fault (b :: rest)
  /-- The bytes end, or another character begins, before there are as many as there should be. -/
  | truncated {first : UInt8} {tail rest : List UInt8} {k : Nat} : announced? first = some k →
      tail.length < k → (∀ b ∈ tail, GoesOn b) → (∀ b ∈ rest.head?, ¬GoesOn b) →
      Fault (first :: (tail ++ rest))
  | overlong {n : Nat} {front rest : List UInt8} : Spells n front → n < least front.length →
      Fault (front ++ rest)
  | surrogate {n : Nat} {front rest : List UInt8} : Spells n front → 0xD800 ≤ n → n < 0xE000 →
      Fault (front ++ rest)
  /-- The number is greater than that of any character. -/
  | beyond {n : Nat} {front rest : List UInt8} : Spells n front → 0x10FFFF < n → Fault (front ++ rest)

theorem exists_char (h : n < 0xD800 ∨ 0xE000 ≤ n ∧ n ≤ 0x10FFFF) : ∃ c : Char, c.toNat = n := by
  have hvalid : n.isValidChar := h.imp_right fun h => ⟨by omega, by omega⟩
  exact ⟨Char.ofNat n, by rw [Char.ofNat, dif_pos hvalid]; rfl⟩

/-- Where something begins, a character is spelled or there is a fault. -/
theorem isSpelling_or_fault (first : UInt8) (rest : List UInt8) :
    (∃ c front more, IsSpelling c front ∧ first :: rest = front ++ more) ∨ Fault (first :: rest) := by
  rcases hfirst : announced? first with _ | k
  · rcases announced?_eq_none_iff.mp hfirst with hstray | hexcess
    · exact .inr (.stray hstray)
    · exact .inr (.excessive hexcess)
  -- The bytes that go on are enough for the first one, or they are too few.
  generalize hgo : rest.takeWhile (decide <| GoesOn ·) = going
  generalize hend : rest.dropWhile (decide <| GoesOn ·) = ending
  have hrest : rest = going ++ ending := by rw [← hgo, ← hend, List.takeWhile_append_dropWhile]
  have hgoing : ∀ b ∈ going, GoesOn b := fun b hb => by
    rw [← hgo] at hb
    simpa using List.mem_takeWhile_imp hb
  by_cases hfew : going.length < k
  · refine .inr (hrest ▸ .truncated hfirst hfew hgoing fun b hb => ?_)
    have hstop := List.head?_dropWhile_not (decide <| GoesOn ·) rest
    rw [hend, Option.mem_def.mp hb] at hstop
    simpa using hstop
  · have hlength : (going.take k).length = k := by rw [List.length_take]; omega
    have hspells := Spells.of (hlength.symm ▸ hfirst) fun b hb => hgoing b (List.mem_of_mem_take hb)
    have hall : first :: rest = (first :: going.take k) ++ (going.drop k ++ ending) := by
      rw [List.cons_append, ← List.append_assoc, List.take_append_drop, hrest]
    generalize (going.take k).foldl shift _ = n at hspells
    rw [hall]
    by_cases hshort : n < least (first :: going.take k).length
    · exact .inr (.overlong hspells hshort)
    by_cases hbeyond : 0x10FFFF < n
    · exact .inr (.beyond hspells hbeyond)
    by_cases hsurrogate : 0xD800 ≤ n ∧ n < 0xE000
    · exact .inr (.surrogate hspells hsurrogate.1 hsurrogate.2)
    obtain ⟨c, rfl⟩ := exists_char (n := n) (by omega)
    exact .inl ⟨c, _, _, ⟨hspells, Nat.le_of_not_lt hshort⟩, rfl⟩

/-- Where a character is spelled there is no fault. -/
theorem IsSpelling.not_fault (h : IsSpelling c front) : ¬Fault (front ++ rest) := by
  obtain ⟨hspells, hshortest⟩ := h
  generalize hall : front ++ rest = all
  intro hfault
  have hvalid : c.toNat < 0xD800 ∨ 0xDFFF < c.toNat ∧ c.toNat < 0x110000 := c.valid
  -- What is spelled wrongly is spelled by the same bytes, so it is the same number.
  have hsame : ∀ {n : Nat} {other more : List UInt8}, Spells n other → front ++ rest = other ++ more →
      n = c.toNat ∧ other = front := fun hother heq => by
    obtain ⟨rfl, -⟩ := hspells.append_inj hother heq
    exact ⟨hother.number_eq hspells, rfl⟩
  cases hfault with
  | overlong hother hshort =>
    obtain ⟨rfl, rfl⟩ := hsame hother hall
    omega
  | surrogate hother hlow hhigh =>
    obtain ⟨rfl, -⟩ := hsame hother hall
    omega
  | beyond hother hbeyond =>
    obtain ⟨rfl, -⟩ := hsame hother hall
    omega
  | stray hstray =>
    obtain ⟨first, tail, rfl, hfirst, _⟩ := hspells.opens
    obtain ⟨rfl, -⟩ := List.cons.inj hall
    cases hfirst.symm.trans (announced?_eq_none_iff.mpr (.inl hstray))
  | excessive hexcess =>
    obtain ⟨first, tail, rfl, hfirst, _⟩ := hspells.opens
    obtain ⟨rfl, -⟩ := List.cons.inj hall
    cases hfirst.symm.trans (announced?_eq_none_iff.mpr (.inr hexcess))
  | @truncated _ going ending k hother hfew _ hends =>
    obtain ⟨first, tail, rfl, hfirst, htail⟩ := hspells.opens
    obtain ⟨rfl, hrest⟩ : first = _ ∧ tail ++ rest = going ++ ending := List.cons.inj hall
    obtain rfl := Option.some.inj (hfirst.symm.trans hother)
    have hgoing : going <+: tail ++ rest := hrest ▸ List.prefix_append going ending
    obtain ⟨missing, rfl⟩ :=
      List.prefix_of_prefix_length_le hgoing (List.prefix_append tail rest) (Nat.le_of_lt hfew)
    obtain _ | ⟨b, missing⟩ := missing
    · simp at hfew
    rw [List.append_assoc, List.append_cancel_left_eq] at hrest
    exact hends b (by simp [← hrest]) (htail b (by simp))

/-- Bytes are a text, or after a text there is a fault. -/
theorem spelled_or_fault (bytes : List UInt8) :
    (∃ chars, Spelled chars bytes) ∨
      ∃ chars front rest, bytes = front ++ rest ∧ Spelled chars front ∧ Fault rest := by
  induction hlength : bytes.length using Nat.strongRecOn generalizing bytes with
  | _ n ih =>
    obtain _ | ⟨first, rest⟩ := bytes
    · exact .inl ⟨[], .nil⟩
    rcases isSpelling_or_fault first rest with ⟨c, front, more, hfront, hall⟩ | hfault
    · have hless : more.length < n := by
        obtain ⟨_, _, rfl, _⟩ := hfront.spells.opens
        rw [← hlength, hall, List.length_append, List.length_cons]
        omega
      rw [hall]
      rcases ih more.length hless more rfl with ⟨chars, hmore⟩ | ⟨chars, good, bad, rfl, hgood, hfault⟩
      · exact .inl ⟨c :: chars, .cons hfront hmore⟩
      · exact .inr ⟨c :: chars, front ++ good, bad, (List.append_assoc ..).symm, .cons hfront hgood, hfault⟩
    · exact .inr ⟨[], [], first :: rest, rfl, .nil, hfault⟩

theorem Fault.ne_nil (h : Fault bytes) : bytes ≠ [] := by
  have hspelled : ∀ {n : Nat} {front : List UInt8} (rest : List UInt8), Spells n front →
      front ++ rest ≠ [] := fun rest hfront => by
    obtain ⟨_, _, rfl, _⟩ := hfront.opens
    simp
  cases h with
  | stray _ | excessive _ | truncated _ _ _ _ => simp
  | overlong hfront _ | surrogate hfront _ _ | beyond hfront _ => exact hspelled _ hfront

/-- What has a fault after a text is no text. -/
theorem Fault.not_spelled (hfault : Fault rest) (h : Spelled chars front) :
    ¬Spelled others (front ++ rest) := by
  intro hall
  induction h generalizing others with
  | nil =>
    rw [List.nil_append] at hall
    cases hall with
    | nil => exact hfault.ne_nil rfl
    | cons hfront _ => exact hfront.not_fault hfault
  | cons hfront _ ih =>
    rw [List.append_assoc] at hall
    obtain ⟨_, _, hmore⟩ := hfront.spelled_append_iff.mp hall
    exact ih hmore

end Precompiler.Utf8
