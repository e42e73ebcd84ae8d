import Stencil.Text.Encoding
/-!
# Stencil.Proofs.Utf8 -- texts in UTF-8

The bytes that a text is written in are those of the standard library's strings, and reading them
gives the text back. What has been read and where it stood do not matter to what follows, so it is
enough to look at one character; the range of the first byte tells how many bytes follow it, and
that of the second keeps out the code points that need fewer bytes and those that are no characters.
-/

namespace Stencil.Text

/-- The bytes of a text in UTF-8. -/
def utf8Of (s : List Char) : List UInt8 := (String.ofList s).toUTF8.data.toList

/-! ## Writing -/

theorem toNat_cases (c : Char) : c.toNat < 0xd800 ∨ 0xdfff < c.toNat ∧ c.toNat < 0x110000 :=
  c.valid

/-- Characters are written as the strings of the standard library hold them. -/
theorem utf8Bytes_eq (c : Char) : utf8Bytes c = String.utf8EncodeChar c := by
  have hc := toNat_cases c
  have hval : c.val.toNat = c.toNat := rfl
  rw [utf8Bytes, String.utf8EncodeChar, hval]
  generalize c.toNat = n at hc
  simp only [Nat.div_one, Nat.add_comm 0x80]
  by_cases h1 : n < 0x80
  · rw [if_pos h1, if_pos (by omega)]
  by_cases h2 : n < 0x800
  · have hlead : n / 64 % 32 + 0xc0 = 0xc0 + n / 64 := by omega
    rw [if_neg h1, if_pos h2, if_neg (by omega), if_pos (by omega), hlead]
  by_cases h3 : n < 0x10000
  · have hlead : n / 4096 % 16 + 0xe0 = 0xe0 + n / 4096 := by omega
    rw [if_neg h1, if_neg h2, if_pos h3, if_neg (by omega), if_neg (by omega), if_pos (by omega),
      hlead]
  · have hlead : n / 262144 % 8 + 0xf0 = 0xf0 + n / 262144 := by omega
    rw [if_neg h1, if_neg h2, if_neg h3, if_neg (by omega), if_neg (by omega), if_neg (by omega),
      hlead]

/-- Texts are written character by character. -/
theorem utf8Of_eq_flatMap (s : List Char) : utf8Of s = s.flatMap utf8Bytes := by
  have hbytes : utf8Bytes = String.utf8EncodeChar := funext utf8Bytes_eq
  rw [utf8Of, String.toUTF8, String.toByteArray_ofList, List.utf8Encode, List.data_toByteArray,
    hbytes]

theorem utf8Of_append (s r : List Char) : utf8Of (s ++ r) = utf8Of s ++ utf8Of r := by
  rw [utf8Of_eq_flatMap, List.flatMap_append, ← utf8Of_eq_flatMap, ← utf8Of_eq_flatMap]

/-- Every text can be written. -/
theorem encode_utf8 (s : List Char) : Encoding.utf8.encode s = .ok (utf8Of s) := by
  have hwrites : s.findIdx? (!Encoding.utf8.writes ·) = none := by
    rw [List.findIdx?_eq_none_iff]
    intro c _
    have hc := toNat_cases c
    have hlt : c.toNat < 0x110000 := by omega
    simp [Encoding.writes, Encoding.bound, hlt]
  rw [Encoding.encode, hwrites, utf8Of_eq_flatMap]
  rfl

/-! ## Reading -/

section Reading

variable {i : Nat} {acc : List Char} {b : UInt8} {r rest : List UInt8}

theorem decodeUtf8From_of_ascii (h : b.toNat < 0x80) :
    decodeUtf8From i acc (b :: r) = decodeUtf8From (i + 1) (Char.ofNat b.toNat :: acc) r := by
  rw [decodeUtf8From, if_pos h]

/-- The bits of a first byte that belong to the code point, when `need` bytes follow it. -/
def leadBits (need b : Nat) : Nat :=
  if need == 1 then b % 32 else if need == 2 then b % 16 else b % 8

theorem decodeUtf8From_of_tail {need lo hi n : Nat} (hb : 0x80 ≤ b.toNat)
    (hshape : utf8Shape b.toNat = some (need, lo, hi))
    (htail : utf8Tail (leadBits need b.toNat) 1 need lo hi r = .ok (n, rest)) :
    decodeUtf8From i acc (b :: r) = decodeUtf8From (i + 1 + need) (Char.ofNat n :: acc) rest := by
  rw [leadBits] at htail
  rw [decodeUtf8From, if_neg (by omega), hshape]
  simp only
  split
  · next heq => rw [htail] at heq; cases heq
  · next heq => rw [htail] at heq; cases heq; rfl

theorem utf8Tail_zero (value seen lo hi : Nat) :
    utf8Tail value seen 0 lo hi r = .ok (value, r) := by
  rw [utf8Tail]

theorem utf8Tail_cons {value seen need lo hi : Nat} (hlo : lo ≤ b.toNat) (hhi : b.toNat ≤ hi) :
    utf8Tail value seen (need + 1) lo hi (b :: r) =
      utf8Tail (value * 64 + b.toNat % 64) (seen + 1) need 0x80 0xbf r := by
  rw [utf8Tail, if_pos (by simp [hlo, hhi])]

end Reading

/-! ## One character -/

/-- A byte that continues a character. -/
theorem toNat_tail (n : Nat) : (UInt8.ofNat (0x80 + n % 64)).toNat = 0x80 + n % 64 :=
  UInt8.toNat_ofNat_of_lt' (by change _ < 256; omega)

theorem utf8Shape_of_two {n : Nat} (hlo : 0xc2 ≤ n) (hhi : n ≤ 0xdf) :
    utf8Shape n = some (1, 0x80, 0xbf) := by
  rw [utf8Shape, if_pos (by simp [hlo, hhi])]

theorem utf8Shape_of_three {n : Nat} (hlo : 0xe0 ≤ n) (hhi : n ≤ 0xef) :
    utf8Shape n = some (2, if n = 0xe0 then 0xa0 else 0x80, if n = 0xed then 0x9f else 0xbf) := by
  have hcases : n = 0xe0 ∨ n = 0xed ∨ (n ≠ 0xe0 ∧ n ≠ 0xed) := by omega
  rcases hcases with rfl | rfl | ⟨h1, h2⟩
  · rfl
  · rfl
  · have hnot : ¬ n ≤ 0xdf := by omega
    have hlow : 0xe1 ≤ n := by omega
    simp [utf8Shape, h1, h2, hnot, hlow, hhi]

theorem utf8Shape_of_four {n : Nat} (hlo : 0xf0 ≤ n) (hhi : n ≤ 0xf4) :
    utf8Shape n = some (3, if n = 0xf0 then 0x90 else 0x80, if n = 0xf4 then 0x8f else 0xbf) := by
  have hcases : n = 0xf0 ∨ n = 0xf1 ∨ n = 0xf2 ∨ n = 0xf3 ∨ n = 0xf4 := by omega
  rcases hcases with rfl | rfl | rfl | rfl | rfl <;> rfl

section Widths

variable {i n : Nat} {acc : List Char} {r : List UInt8}

theorem decodeUtf8From_two (hlo : 0x80 ≤ n) (hhi : n < 0x800) :
    decodeUtf8From i acc (UInt8.ofNat (0xc0 + n / 64) :: UInt8.ofNat (0x80 + n % 64) :: r) =
      decodeUtf8From (i + 2) (Char.ofNat n :: acc) r := by
  have hb : (UInt8.ofNat (0xc0 + n / 64)).toNat = 0xc0 + n / 64 :=
    UInt8.toNat_ofNat_of_lt' (by change _ < 256; omega)
  have ht := toNat_tail n
  have hvalue : leadBits 1 (0xc0 + n / 64) * 64 + (0x80 + n % 64) % 64 = n := by
    show (0xc0 + n / 64) % 32 * 64 + _ = n
    omega
  have htail : utf8Tail (leadBits 1 (0xc0 + n / 64)) 1 1 0x80 0xbf
      (UInt8.ofNat (0x80 + n % 64) :: r) = .ok (n, r) := by
    rw [utf8Tail_cons (by omega) (by omega), utf8Tail_zero, ht, hvalue]
  exact decodeUtf8From_of_tail (by omega) (utf8Shape_of_two (by omega) (by omega)) (hb.symm ▸ htail)

/-- Smaller code points take two bytes, and the surrogates are no characters. -/
theorem decodeUtf8From_three (hlo : 0x800 ≤ n) (hhi : n < 0x10000)
    (hchar : n < 0xd800 ∨ 0xdfff < n) :
    decodeUtf8From i acc (UInt8.ofNat (0xe0 + n / 4096) :: UInt8.ofNat (0x80 + n / 64 % 64) ::
        UInt8.ofNat (0x80 + n % 64) :: r) =
      decodeUtf8From (i + 3) (Char.ofNat n :: acc) r := by
  have hb : (UInt8.ofNat (0xe0 + n / 4096)).toNat = 0xe0 + n / 4096 :=
    UInt8.toNat_ofNat_of_lt' (by change _ < 256; omega)
  have ht := toNat_tail n
  have ht' := toNat_tail (n / 64)
  have hvalue : (leadBits 2 (0xe0 + n / 4096) * 64 + (0x80 + n / 64 % 64) % 64) * 64 +
      (0x80 + n % 64) % 64 = n := by
    show ((0xe0 + n / 4096) % 16 * 64 + _) * 64 + _ = n
    omega
  have htail : utf8Tail (leadBits 2 (0xe0 + n / 4096)) 1 2
      (if 0xe0 + n / 4096 = 0xe0 then 0xa0 else 0x80)
      (if 0xe0 + n / 4096 = 0xed then 0x9f else 0xbf)
      (UInt8.ofNat (0x80 + n / 64 % 64) :: UInt8.ofNat (0x80 + n % 64) :: r) = .ok (n, r) := by
    rw [utf8Tail_cons (by split <;> omega) (by split <;> omega),
      utf8Tail_cons (by omega) (by omega), utf8Tail_zero, ht, ht', hvalue]
  exact decodeUtf8From_of_tail (by omega) (utf8Shape_of_three (by omega) (by omega))
    (hb.symm ▸ htail)

theorem decodeUtf8From_four (hlo : 0x10000 ≤ n) (hhi : n < 0x110000) :
    decodeUtf8From i acc (UInt8.ofNat (0xf0 + n / 262144) :: UInt8.ofNat (0x80 + n / 4096 % 64) ::
        UInt8.ofNat (0x80 + n / 64 % 64) :: UInt8.ofNat (0x80 + n % 64) :: r) =
      decodeUtf8From (i + 4) (Char.ofNat n :: acc) r := by
  have hb : (UInt8.ofNat (0xf0 + n / 262144)).toNat = 0xf0 + n / 262144 :=
    UInt8.toNat_ofNat_of_lt' (by change _ < 256; omega)
  have ht := toNat_tail n
  have ht' := toNat_tail (n / 64)
  have ht'' := toNat_tail (n / 4096)
  have hvalue : ((leadBits 3 (0xf0 + n / 262144) * 64 + (0x80 + n / 4096 % 64) % 64) * 64 +
      (0x80 + n / 64 % 64) % 64) * 64 + (0x80 + n % 64) % 64 = n := by
    show (((0xf0 + n / 262144) % 8 * 64 + _) * 64 + _) * 64 + _ = n
    omega
  have htail : utf8Tail (leadBits 3 (0xf0 + n / 262144)) 1 3
      (if 0xf0 + n / 262144 = 0xf0 then 0x90 else 0x80)
      (if 0xf0 + n / 262144 = 0xf4 then 0x8f else 0xbf)
      (UInt8.ofNat (0x80 + n / 4096 % 64) :: UInt8.ofNat (0x80 + n / 64 % 64) ::
        UInt8.ofNat (0x80 + n % 64) :: r) = .ok (n, r) := by
    rw [utf8Tail_cons (by split <;> omega) (by split <;> omega),
      utf8Tail_cons (by omega) (by omega), utf8Tail_cons (by omega) (by omega), utf8Tail_zero,
      ht, ht', ht'', hvalue]
  exact decodeUtf8From_of_tail (by omega) (utf8Shape_of_four (by omega) (by omega))
    (hb.symm ▸ htail)

end Widths

/-- A character is read from its bytes, whatever stands behind them. -/
theorem decodeUtf8From_bytes (i : Nat) (acc : List Char) (c : Char) (r : List UInt8) :
    ∃ j, decodeUtf8From i acc (utf8Bytes c ++ r) = decodeUtf8From j (c :: acc) r := by
  have hc := toNat_cases c
  have hchar := Char.ofNat_toNat c
  rw [utf8Bytes]
  generalize c.toNat = n at hc hchar
  simp only [Nat.div_one]
  by_cases h1 : n < 0x80
  · have hb : (UInt8.ofNat n).toNat = n := UInt8.toNat_ofNat_of_lt' (by change _ < 256; omega)
    refine ⟨i + 1, ?_⟩
    rw [if_pos h1, List.singleton_append, decodeUtf8From_of_ascii (by omega), hb, hchar]
  by_cases h2 : n < 0x800
  · refine ⟨i + 2, ?_⟩
    rw [if_neg h1, if_pos h2, ← hchar]
    exact decodeUtf8From_two (by omega) h2
  by_cases h3 : n < 0x10000
  · refine ⟨i + 3, ?_⟩
    rw [if_neg h1, if_neg h2, if_pos h3, ← hchar]
    exact decodeUtf8From_three (by omega) h3 (by omega)
  · refine ⟨i + 4, ?_⟩
    rw [if_neg h1, if_neg h2, if_neg h3, ← hchar]
    exact decodeUtf8From_four (by omega) (by omega)

/-- **Reading gives back what has been written.** -/
theorem decodeUtf8_utf8Of (s : List Char) : decodeUtf8 (utf8Of s) = .ok s := by
  have hfrom : ∀ (s : List Char) (i : Nat) (acc : List Char),
      decodeUtf8From i acc (s.flatMap utf8Bytes) = .ok (acc.reverse ++ s) := by
    intro s
    induction s with
    | nil => intro i acc; rw [List.flatMap_nil, decodeUtf8From, List.append_nil]
    | cons c s ih =>
      intro i acc
      obtain ⟨j, hj⟩ := decodeUtf8From_bytes i acc c (s.flatMap utf8Bytes)
      rw [List.flatMap_cons, hj, ih, List.reverse_cons, List.append_assoc, List.singleton_append]
  rw [utf8Of_eq_flatMap]
  exact hfrom s 0 []

end Stencil.Text
