import NotebookSim.Page
/-!
A cursor reads back as the offset it was written for: the alphabet is read back letter by letter,
the groups of base64 byte by byte, and the JSON text member by member. Tokens hold nothing but
letters, digits, hyphens and underscores.
-/
namespace NotebookSim

namespace Text.Base64

theorem value?_letter {v : Nat} (sixBits : v < 64) : value? (letter v) = some v := by
  have all : ∀ v < 64, value? (letter v) = some v := by decide
  exact all v sixBits

theorem ofNat_eq_of_eq_toNat {n : Nat} {a : UInt8} (h : n = a.toNat) : UInt8.ofNat n = a := by
  rw [h, UInt8.ofNat_toNat]

/-- No byte is lost in a group, whole or not, and the spare bits of the last one are zero. -/
theorem decode?_encode (bytes : List UInt8) : decode? (encode bytes) = some bytes := by
  induction bytes using encode.induct with
  | case1 a b c rest ih =>
    have ha := a.toNat_lt
    have hb := b.toNat_lt
    have hc := c.toNat_lt
    have first : UInt8.ofNat (a.toNat / 4 * 4 + (a.toNat % 4 * 16 + b.toNat / 16) / 16) = a :=
      ofNat_eq_of_eq_toNat (by omega)
    have second : UInt8.ofNat ((a.toNat % 4 * 16 + b.toNat / 16) % 16 * 16 +
        (b.toNat % 16 * 4 + c.toNat / 64) / 4) = b := ofNat_eq_of_eq_toNat (by omega)
    have third : UInt8.ofNat ((b.toNat % 16 * 4 + c.toNat / 64) % 4 * 64 + c.toNat % 64) = c :=
      ofNat_eq_of_eq_toNat (by omega)
    simp only [encode, decode?, ih]
    rw [value?_letter (by omega), value?_letter (by omega), value?_letter (by omega),
      value?_letter (by omega)]
    simp only [Option.bind_eq_bind, Option.bind_some, first, second, third]
    rfl
  | case2 a b =>
    have ha := a.toNat_lt
    have hb := b.toNat_lt
    have first : UInt8.ofNat (a.toNat / 4 * 4 + (a.toNat % 4 * 16 + b.toNat / 16) / 16) = a :=
      ofNat_eq_of_eq_toNat (by omega)
    have second : UInt8.ofNat ((a.toNat % 4 * 16 + b.toNat / 16) % 16 * 16 +
        b.toNat % 16 * 4 / 4) = b := ofNat_eq_of_eq_toNat (by omega)
    have spare : b.toNat % 16 * 4 % 4 = 0 := by omega
    simp only [encode, decode?]
    rw [value?_letter (by omega), value?_letter (by omega), value?_letter (by omega)]
    simp only [Option.bind_eq_bind, Option.bind_some, if_pos spare, first, second]
    rfl
  | case3 a =>
    have ha := a.toNat_lt
    have first : UInt8.ofNat (a.toNat / 4 * 4 + a.toNat % 4 * 16 / 16) = a :=
      ofNat_eq_of_eq_toNat (by omega)
    have spare : a.toNat % 4 * 16 % 16 = 0 := by omega
    simp only [encode, decode?]
    rw [value?_letter (by omega), value?_letter (by omega)]
    simp only [Option.bind_eq_bind, Option.bind_some, if_pos spare, first]
    rfl
  | case4 => rfl

/-- The characters that need no escape in an address. -/
def IsLetter (c : Char) : Prop :=
  'A' ≤ c ∧ c ≤ 'Z' ∨ 'a' ≤ c ∧ c ≤ 'z' ∨ '0' ≤ c ∧ c ≤ '9' ∨ c = '-' ∨ c = '_'

instance (c : Char) : Decidable (IsLetter c) :=
  inferInstanceAs (Decidable ('A' ≤ c ∧ c ≤ 'Z' ∨ 'a' ≤ c ∧ c ≤ 'z' ∨ '0' ≤ c ∧ c ≤ '9' ∨
    c = '-' ∨ c = '_'))

theorem isLetter_letter {v : Nat} (sixBits : v < 64) : IsLetter (letter v) := by
  have all : ∀ v < 64, IsLetter (letter v) := by decide
  exact all v sixBits

theorem isLetter_of_mem_encode {bytes : List UInt8} {c : Char} (written : c ∈ encode bytes) :
    IsLetter c := by
  induction bytes using encode.induct with
  | case1 x y z rest ih =>
    have hx := x.toNat_lt
    have hy := y.toNat_lt
    have hz := z.toNat_lt
    simp only [encode, List.mem_cons] at written
    obtain rfl | rfl | rfl | rfl | later := written
    · exact isLetter_letter (by omega)
    · exact isLetter_letter (by omega)
    · exact isLetter_letter (by omega)
    · exact isLetter_letter (by omega)
    · exact ih later
  | case2 x y =>
    have hx := x.toNat_lt
    have hy := y.toNat_lt
    simp only [encode, List.mem_cons, List.not_mem_nil, or_false] at written
    obtain rfl | rfl | rfl := written <;> exact isLetter_letter (by omega)
  | case3 x =>
    have hx := x.toNat_lt
    simp only [encode, List.mem_cons, List.not_mem_nil, or_false] at written
    obtain rfl | rfl := written <;> exact isLetter_letter (by omega)
  | case4 => cases written

end Text.Base64

namespace Text

theorem digitsValue_digits (n : Nat) : digitsValue (digits n) = n := Nat.ofDigitChars_ten_toDigits

theorem isDigit_of_mem_digits {n : Nat} {c : Char} (h : c ∈ digits n) : c.isDigit = true :=
  Nat.isDigit_of_mem_toDigits (by decide) (by decide) h

/-- Only zero is written with a zero in front. -/
theorem digits_leading_zero {n : Nat} {ds : List Char} (h : digits n = '0' :: ds) : ds = [] := by
  induction n using Nat.strongRecOn generalizing ds with
  | ind n ih =>
    unfold digits at h
    rw [Nat.toDigits_eq_if (by decide)] at h
    split at h
    · exact (List.cons.inj h).2.symm
    · next large =>
      -- the quotient would start with a zero as well, so it would be zero
      obtain ⟨d, front⟩ : ∃ d, digits (n / 10) = '0' :: d := by
        cases front : digits (n / 10) with
        | nil => exact absurd front Nat.toDigits_ne_nil
        | cons c d =>
          have shown : Nat.toDigits 10 (n / 10) = c :: d := front
          rw [shown, List.cons_append] at h
          exact ⟨d, by rw [(List.cons.inj h).1]⟩
      have alone := ih (n / 10) (by omega) front
      have zero : n / 10 = 0 := by
        rw [← digitsValue_digits (n / 10), front, alone]
        rfl
      omega

end Text

namespace Cursor

/-! ## The bytes of the text -/

theorem toNat_lt_of_isDigit {c : Char} (h : c.isDigit = true) : c.toNat < 256 := by
  simp only [Char.isDigit, Bool.and_eq_true, decide_eq_true_eq] at h
  have upper : c.val.toNat ≤ 57 := h.2
  exact Nat.lt_of_le_of_lt upper (by decide)

theorem toNat_lt_of_mem_text {offset : Nat} {c : Char} (h : c ∈ text offset) : c.toNat < 256 := by
  have around : ∀ x ∈ ['\x7b', '"', 'o', 'f', 'f', 's', 'e', 't', '"', ':', '\x7d'],
      x.toNat < 256 := by simp
  simp only [text, offsetName, List.mem_append, List.mem_cons] at h around
  by_cases digit : c ∈ Text.digits offset
  · exact toNat_lt_of_isDigit (Text.isDigit_of_mem_digits digit)
  · exact around c (by simpa [digit, or_assoc] using h)

theorem chars_of_bytes {cs : List Char} (bytes : ∀ c ∈ cs, c.toNat < 256) :
    (cs.map fun c => UInt8.ofNat c.toNat).map (fun b => Char.ofNat b.toNat) = cs := by
  rw [List.map_map]
  refine (List.map_congr_left fun c hc => ?_).trans (List.map_id cs)
  have kept : (UInt8.ofNat c.toNat).toNat = c.toNat :=
    Nat.mod_eq_of_lt (bytes c hc)
  simp only [Function.comp, kept, Char.ofNat_toNat, id]

/-! ## The members of the text -/

theorem integerPart?_digits (n : Nat) {c : Char} (rest : List Char) (ends : c.isDigit = false) :
    Json.integerPart? (Text.digits n ++ c :: rest) = some (Text.digits n, c :: rest) := by
  have all : ∀ x ∈ Text.digits n, x.isDigit = true := fun _ => Text.isDigit_of_mem_digits
  have taken : Json.takeDigits (Text.digits n ++ c :: rest) = (Text.digits n, c :: rest) := by
    unfold Json.takeDigits
    rw [List.takeWhile_append_of_pos all, List.dropWhile_append_of_pos all]
    simp [ends]
  unfold Json.integerPart?
  rw [taken]
  split
  · next none => exact absurd (congrArg Prod.fst none) Nat.toDigits_ne_nil
  · next zeros =>
    have alone := Text.digits_leading_zero (congrArg Prod.fst zeros)
    cases alone
  · next same => rw [same]

theorem skipBlank_digits (n : Nat) (rest : List Char) :
    Json.skipBlank (Text.digits n ++ rest) = Text.digits n ++ rest := by
  cases shown : Text.digits n with
  | nil => exact absurd shown Nat.toDigits_ne_nil
  | cons c ds =>
    have digit : c.isDigit = true := Text.isDigit_of_mem_digits (shown ▸ List.mem_cons_self)
    have visible : Json.isBlank c = false := by
      cases blank : Json.isBlank c with
      | false => rfl
      | true =>
        simp only [Json.isBlank, Bool.or_eq_true, beq_iff_eq] at blank
        obtain ((rfl | rfl) | rfl) | rfl := blank <;> cases digit
    simp [Json.skipBlank, visible]

theorem readOffset_digits {n : Nat} (word : n ≤ Json.greatestWord) (rest : List Char) :
    readOffset (Text.digits n ++ '\x7d' :: rest) = some (n, '\x7d' :: rest) := by
  unfold readOffset
  rw [skipBlank_digits, integerPart?_digits n rest (by decide)]
  simp [Text.digitsValue_digits, word]

theorem readName_offsetName (rest : List Char) :
    readName ('"' :: (offsetName ++ '"' :: ':' :: rest)) = some (offsetName, rest) := by
  have body : Json.stringBody? (offsetName ++ '"' :: ':' :: rest) =
      some (offsetName, ':' :: rest) := rfl
  have taken : (offsetName ++ '"' :: ':' :: rest).take
      ((offsetName ++ '"' :: ':' :: rest).length - (':' :: rest).length) =
      offsetName ++ ['"'] := by
    have seven : (offsetName ++ '"' :: ':' :: rest).length - (':' :: rest).length = 7 := by
      simp [offsetName]
    rw [seven]
    rfl
  have valid : isUtf8 (offsetName ++ ['"']) = true := by decide +kernel
  have opened : Json.skipBlank ('"' :: (offsetName ++ '"' :: ':' :: rest)) =
      '"' :: (offsetName ++ '"' :: ':' :: rest) := rfl
  have colon : Json.skipBlank (':' :: rest) = ':' :: rest := rfl
  unfold readName
  simp only [opened, body, taken, valid, colon, if_true]

theorem readMembers_offset {n : Nat} (word : n ≤ Json.greatestWord) (fuel : Nat) :
    readMembers (fuel + 1) none
      ('"' :: (offsetName ++ '"' :: ':' :: (Text.digits n ++ ['\x7d']))) = some (n, []) := by
  have closed : Json.skipBlank ['\x7d'] = ['\x7d'] := rfl
  unfold readMembers
  simp only [readName_offsetName, if_true, readOffset_digits word, Option.map_some, closed]

theorem readText_text {n : Nat} (word : n ≤ Json.greatestWord) : readText (text n) = some n := by
  have shape : text n =
      '\x7b' :: '"' :: (offsetName ++ '"' :: ':' :: (Text.digits n ++ ['\x7d'])) := by
    simp [text]
  have opened (rest : List Char) : Json.skipBlank ('\x7b' :: rest) = '\x7b' :: rest := rfl
  have ended : (Json.skipBlank []).isEmpty = true := rfl
  rw [shape]
  unfold readText
  simp only [opened, readMembers_offset word, ended, if_true]

/-- The codec loses no offset of 64 bits. -/
theorem decode?_encode {offset : Nat} (word : offset ≤ Json.greatestWord) :
    decode? (encode offset) = some offset := by
  unfold decode? encode
  rw [String.toList_ofList, Text.Base64.decode?_encode]
  simp only [chars_of_bytes fun _ => toNat_lt_of_mem_text]
  exact readText_text word

/-- Every offset of 64 bits has a token of characters that need no escape, the token is read as that
offset, and it is the token of no other offset. -/
theorem encode_reads_back (offset : Nat) (word : offset ≤ Json.greatestWord) :
    (∀ c ∈ (encode offset).toList, Text.Base64.IsLetter c) ∧
    decode? (encode offset) = some offset ∧
    ∀ other, other ≤ Json.greatestWord → encode other = encode offset → other = offset := by
  have back := decode?_encode word
  refine ⟨?_, back, ?_⟩
  · intro c shown
    unfold encode at shown
    rw [String.toList_ofList] at shown
    exact Text.Base64.isLetter_of_mem_encode shown
  · intro other word' same
    have back' := decode?_encode word'
    rw [same, back] at back'
    exact (Option.some.inj back').symm

/-- The last offset of all, and the one before it. -/
theorem encode_reads_back_greatestWord :
    18446744073709551615 ≤ Json.greatestWord ∧
    decode? (encode 18446744073709551615) = some 18446744073709551615 ∧
    encode 18446744073709551614 ≠ encode 18446744073709551615 := by
  have word : 18446744073709551615 ≤ Json.greatestWord := by decide
  obtain ⟨-, back, alone⟩ := encode_reads_back 18446744073709551615 word
  refine ⟨word, back, fun same => ?_⟩
  cases alone 18446744073709551614 (by decide) same

end Cursor
end NotebookSim
