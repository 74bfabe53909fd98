import Mathlib
import Telemetry.Text.Utf8

/-!
Text that is written in UTF-8 and read again.

The scan takes the bytes of a character from between characters to between characters, having found
the character, and on the way is always inside one. So a text is read back from its bytes; and of
the beginning of its bytes nothing more than the characters that have ended is read, and one
replacement for the character that has not.
-/

namespace Telemetry.Text.Utf8

variable {n v : Nat} {found : List Char}

/-! ### Bytes as numbers -/

lemma first_ofNat (hn : n < 256) (found : List Char) :
    first (UInt8.ofNat n) found =
      if n < 0x80 then ⟨none, Char.ofNat n :: found⟩
      else if 0xc2 ≤ n ∧ n ≤ 0xdf then ⟨some ⟨1, 0x80, 0xbf, n - 0xc0⟩, found⟩
      else if n = 0xe0 then ⟨some ⟨2, 0xa0, 0xbf, 0⟩, found⟩
      else if n = 0xed then ⟨some ⟨2, 0x80, 0x9f, 0xd⟩, found⟩
      else if 0xe1 ≤ n ∧ n ≤ 0xef then ⟨some ⟨2, 0x80, 0xbf, n - 0xe0⟩, found⟩
      else if n = 0xf0 then ⟨some ⟨3, 0x90, 0xbf, 0⟩, found⟩
      else if 0xf1 ≤ n ∧ n ≤ 0xf3 then ⟨some ⟨3, 0x80, 0xbf, n - 0xf0⟩, found⟩
      else if n = 0xf4 then ⟨some ⟨3, 0x80, 0x8f, 4⟩, found⟩
      else ⟨none, replacement :: found⟩ := by
  simp only [first, UInt8.lt_iff_toNat_lt, UInt8.le_iff_toNat_le, ← UInt8.toNat_inj,
    UInt8.toNat_ofNat_of_lt' hn]
  rfl

lemma step_pending {owed : Nat} {least greatest : UInt8} {bits : Nat} (hn : n < 256)
    (low : least.toNat ≤ n) (high : n ≤ greatest.toNat) :
    step ⟨some ⟨owed, least, greatest, bits⟩, found⟩ (UInt8.ofNat n) =
      if owed ≤ 1 then ⟨none, Char.ofNat (bits * 64 + n % 64) :: found⟩
      else ⟨some ⟨owed - 1, 0x80, 0xbf, bits * 64 + n % 64⟩, found⟩ := by
  have hin : least ≤ UInt8.ofNat n ∧ UInt8.ofNat n ≤ greatest := by
    rw [UInt8.le_iff_toNat_le, UInt8.le_iff_toNat_le, UInt8.toNat_ofNat_of_lt' hn]
    exact ⟨low, high⟩
  simp only [step, if_pos hin, UInt8.toNat_ofNat_of_lt' hn]

/-! ### The first byte of each length

The first byte leaves the bits that stand in it, and a range that the second byte is in. -/

lemma first_two (low : 0x80 ≤ v) (high : v ≤ 0x7ff) (found : List Char) :
    first (UInt8.ofNat (v / 64 % 32 + 0xc0)) found = ⟨some ⟨1, 0x80, 0xbf, v / 64⟩, found⟩ := by
  have hbits : v / 64 % 32 + 0xc0 - 0xc0 = v / 64 := by omega
  rw [first_ofNat (by omega), if_neg (by omega), if_pos (by omega), hbits]

lemma first_three (low : 0x800 ≤ v) (high : v ≤ 0xffff) (valid : v < 0xd800 ∨ 0xdfff < v) :
    ∃ least greatest : UInt8,
      (∀ found, first (UInt8.ofNat (v / 4096 % 16 + 0xe0)) found =
        ⟨some ⟨2, least, greatest, v / 4096⟩, found⟩) ∧
      least.toNat ≤ v / 64 % 64 + 0x80 ∧ v / 64 % 64 + 0x80 ≤ greatest.toNat := by
  have hbits : v / 4096 % 16 + 0xe0 - 0xe0 = v / 4096 := by omega
  -- after e0 the overlong forms are kept out, and after ed the surrogates
  by_cases he0 : v / 4096 = 0
  · refine ⟨0xa0, 0xbf, fun found => ?_, ?_, ?_⟩
    · rw [first_ofNat (by omega), if_neg (by omega), if_neg (by omega), if_pos (by omega), he0]
    all_goals simp only [UInt8.toNat_ofNat]; omega
  by_cases hed : v / 4096 = 13
  · refine ⟨0x80, 0x9f, fun found => ?_, ?_, ?_⟩
    · rw [first_ofNat (by omega), if_neg (by omega), if_neg (by omega), if_neg (by omega),
        if_pos (by omega), hed]
    all_goals simp only [UInt8.toNat_ofNat]; omega
  · refine ⟨0x80, 0xbf, fun found => ?_, ?_, ?_⟩
    · rw [first_ofNat (by omega), if_neg (by omega), if_neg (by omega), if_neg (by omega),
        if_neg (by omega), if_pos (by omega), hbits]
    all_goals simp only [UInt8.toNat_ofNat]; omega

lemma first_four (low : 0x10000 ≤ v) (high : v ≤ 0x10ffff) :
    ∃ least greatest : UInt8,
      (∀ found, first (UInt8.ofNat (v / 262144 % 8 + 0xf0)) found =
        ⟨some ⟨3, least, greatest, v / 262144⟩, found⟩) ∧
      least.toNat ≤ v / 4096 % 64 + 0x80 ∧ v / 4096 % 64 + 0x80 ≤ greatest.toNat := by
  have hbits : v / 262144 % 8 + 0xf0 - 0xf0 = v / 262144 := by omega
  -- after f0 the overlong forms are kept out, and after f4 what lies above the last code point
  by_cases hf0 : v / 262144 = 0
  · refine ⟨0x90, 0xbf, fun found => ?_, ?_, ?_⟩
    · rw [first_ofNat (by omega), if_neg (by omega), if_neg (by omega), if_neg (by omega),
        if_neg (by omega), if_neg (by omega), if_pos (by omega), hf0]
    all_goals simp only [UInt8.toNat_ofNat]; omega
  by_cases hf4 : v / 262144 = 4
  · refine ⟨0x80, 0x8f, fun found => ?_, ?_, ?_⟩
    · rw [first_ofNat (by omega), if_neg (by omega), if_neg (by omega), if_neg (by omega),
        if_neg (by omega), if_neg (by omega), if_neg (by omega), if_neg (by omega),
        if_pos (by omega), hf4]
    all_goals simp only [UInt8.toNat_ofNat]; omega
  · refine ⟨0x80, 0xbf, fun found => ?_, ?_, ?_⟩
    · rw [first_ofNat (by omega), if_neg (by omega), if_neg (by omega), if_neg (by omega),
        if_neg (by omega), if_neg (by omega), if_neg (by omega), if_pos (by omega), hbits]
    all_goals simp only [UInt8.toNat_ofNat]; omega

/-! ### A character -/

/-- The bytes take the scan from between characters to behind the character, and every proper
beginning of them leaves it inside. -/
def Spells (bs : Octets) (c : Char) : Prop :=
  ∀ found, bs.foldl step ⟨none, found⟩ = ⟨none, c :: found⟩ ∧
    ∀ k, 0 < k → k < bs.length → ∃ p, (bs.take k).foldl step ⟨none, found⟩ = ⟨some p, found⟩

def Ends (p : Pending) (bs : Octets) (c : Char) : Prop :=
  ∀ found, bs.foldl step ⟨some p, found⟩ = ⟨none, c :: found⟩ ∧
    ∀ k, k < bs.length → ∃ q, (bs.take k).foldl step ⟨some p, found⟩ = ⟨some q, found⟩

lemma Ends.spells {p : Pending} {b : UInt8} {bs : Octets} {c : Char} (h : Ends p bs c)
    (hfirst : ∀ found, first b found = ⟨some p, found⟩) : Spells (b :: bs) c := by
  intro found
  have hstep : step ⟨none, found⟩ b = ⟨some p, found⟩ := hfirst found
  obtain ⟨hall, hinside⟩ := h found
  refine ⟨by rw [List.foldl_cons, hstep, hall], fun k hpos hk => ?_⟩
  obtain ⟨k, rfl⟩ : ∃ j, k = j + 1 := ⟨k - 1, by omega⟩
  rw [List.take_succ_cons, List.foldl_cons, hstep]
  exact hinside k (by simpa using hk)

/-- A byte in its range goes on with the six low bits in it. -/
lemma step_within {m : Nat} {least greatest : UInt8} (low : least.toNat ≤ m % 64 + 0x80)
    (high : m % 64 + 0x80 ≤ greatest.toNat) (owed bits : Nat) (found : List Char) :
    step ⟨some ⟨owed, least, greatest, bits⟩, found⟩ (UInt8.ofNat (m % 64 + 0x80)) =
      if owed ≤ 1 then ⟨none, Char.ofNat (bits * 64 + m % 64) :: found⟩
      else ⟨some ⟨owed - 1, 0x80, 0xbf, bits * 64 + m % 64⟩, found⟩ := by
  have hlow : (m % 64 + 0x80) % 64 = m % 64 := by omega
  rw [step_pending (by omega) low high, hlow]

lemma ends_last {bits m v : Nat} (hv : bits * 64 + m % 64 = v) :
    Ends ⟨1, 0x80, 0xbf, bits⟩ [UInt8.ofNat (m % 64 + 0x80)] (Char.ofNat v) := by
  intro found
  refine ⟨?_, fun k hk => ?_⟩
  · rw [← hv]
    exact step_within (by simp only [UInt8.toNat_ofNat]; omega)
      (by simp only [UInt8.toNat_ofNat]; omega) 1 bits found
  · obtain rfl : k = 0 := by simpa using hk
    exact ⟨_, rfl⟩

lemma Ends.within {owed bits m v : Nat} {least greatest : UInt8} {bs : Octets} {c : Char}
    (h : Ends ⟨owed + 1, 0x80, 0xbf, v⟩ bs c) (hv : bits * 64 + m % 64 = v)
    (low : least.toNat ≤ m % 64 + 0x80) (high : m % 64 + 0x80 ≤ greatest.toNat) :
    Ends ⟨owed + 2, least, greatest, bits⟩ (UInt8.ofNat (m % 64 + 0x80) :: bs) c := by
  intro found
  have hstep := step_within low high (owed + 2) bits found
  rw [if_neg (by omega), hv] at hstep
  obtain ⟨hall, hinside⟩ := h found
  refine ⟨by rw [List.foldl_cons, hstep]; exact hall, fun k hk => ?_⟩
  rcases k with _ | k
  · exact ⟨_, rfl⟩
  · rw [List.take_succ_cons, List.foldl_cons, hstep]
    exact hinside k (by simpa using hk)

lemma Ends.later {owed bits m v : Nat} {bs : Octets} {c : Char}
    (h : Ends ⟨owed + 1, 0x80, 0xbf, v⟩ bs c) (hv : bits * 64 + m % 64 = v) :
    Ends ⟨owed + 2, 0x80, 0xbf, bits⟩ (UInt8.ofNat (m % 64 + 0x80) :: bs) c :=
  h.within hv (by simp only [UInt8.toNat_ofNat]; omega) (by simp only [UInt8.toNat_ofNat]; omega)

/-- The bytes of a character spell it. -/
lemma spells_encode (c : Char) : Spells (String.utf8EncodeChar c) c := by
  have hchar : c = Char.ofNat c.val.toNat := (Char.ofNat_toNat c).symm
  have hvalid : c.val.toNat < 0xd800 ∨ 0xdfff < c.val.toNat ∧ c.val.toNat < 0x110000 := c.valid
  unfold String.utf8EncodeChar
  generalize c.val.toNat = v at hchar hvalid ⊢
  subst hchar
  dsimp only
  split_ifs with h1 h2 h3
  · intro found
    refine ⟨?_, fun k hpos hk => ?_⟩
    · show first (UInt8.ofNat v) found = _
      rw [first_ofNat (by omega), if_pos (by omega)]
    · simp only [List.length_cons, List.length_nil] at hk
      omega
  · have hend := ends_last (show v / 64 * 64 + v % 64 = v by omega)
    exact hend.spells fun found => first_two (by omega) (by omega) found
  · obtain ⟨least, greatest, hfirst, low, high⟩ :=
      first_three (v := v) (by omega) (by omega) (by omega)
    have hend := ends_last (show v / 64 * 64 + v % 64 = v by omega)
    exact (hend.within (by omega) low high).spells hfirst
  · obtain ⟨least, greatest, hfirst, low, high⟩ := first_four (v := v) (by omega) (by omega)
    have hend := ends_last (show v / 64 * 64 + v % 64 = v by omega)
    have hthird : Ends ⟨2, 0x80, 0xbf, v / 4096⟩
        [UInt8.ofNat (v / 64 % 64 + 0x80), UInt8.ofNat (v % 64 + 0x80)] (Char.ofNat v) :=
      hend.later (by omega)
    exact (hthird.within (by omega) low high).spells hfirst

/-! ### A text -/

lemma foldl_chars (cs found : List Char) :
    (cs.flatMap String.utf8EncodeChar).foldl step ⟨none, found⟩ = ⟨none, cs.reverse ++ found⟩ := by
  induction cs generalizing found with
  | nil => rfl
  | cons c cs ih =>
    rw [List.flatMap_cons, List.foldl_append, (spells_encode c found).1, ih]
    simp

/-- **A text is read back from its bytes.** -/
theorem decode_encode (s : String) : decode (encode s) = s := by
  rw [decode, encode, foldl_chars, finish]
  simp

/-- When the beginning of the bytes of some characters gives all the characters, what was cut off
is less than a character. -/
lemma length_of_take_finish {cs : List Char} {k : Nat} (found : List Char)
    (h : finish (((cs.flatMap String.utf8EncodeChar).take k).foldl step ⟨none, found⟩) =
      found.reverse ++ cs) : (cs.flatMap String.utf8EncodeChar).length ≤ k + 3 := by
  induction cs generalizing k found with
  | nil => simp
  | cons c cs ih =>
    obtain ⟨hall, hinside⟩ := spells_encode c found
    have hsize := c.utf8Size_le_four
    rw [← String.length_utf8EncodeChar] at hsize
    rw [List.flatMap_cons] at h ⊢
    rw [List.length_append]
    rcases Nat.lt_or_ge k (String.utf8EncodeChar c).length with hk | hk
    · rw [List.take_append_of_le_length (by omega)] at h
      rcases Nat.eq_zero_or_pos k with rfl | hpos
      · simp [finish] at h
      · -- the cut is inside the character, which the replacement stands for: it is the last
        obtain ⟨p, hp⟩ := hinside k hpos hk
        rw [hp] at h
        have hlast : cs = [] := by simpa [finish] using congrArg List.length h
        rw [hlast, List.flatMap_nil, List.length_nil]
        omega
    · rw [List.take_append, List.take_of_length_le hk, List.foldl_append, hall] at h
      have hmore := ih (c :: found) (by rw [h, List.reverse_cons, List.append_assoc]; rfl)
      omega

/-- Bytes cut off from a text are noticed, unless they are fewer than a character takes. -/
lemma length_of_decode_take {s : String} {k : Nat} (h : decode ((encode s).take k) = s) :
    (encode s).length ≤ k + 3 := by
  have hchars := congrArg String.toList h
  rw [decode, String.toList_ofList] at hchars
  exact length_of_take_finish [] hchars

/-- Written with its length reduced to sixteen bits, a text is read back only when it is short
enough for that. -/
lemma length_of_decode_reduced {s : String}
    (h : decode ((encode s).take ((encode s).length % 65536)) = s) :
    (encode s).length ≤ 65535 := by
  have := length_of_decode_take h
  omega

lemma length_encode (s : String) : (encode s).length = s.utf8ByteSize := by
  rw [← String.size_toByteArray, ← String.utf8Encode_toList, List.utf8Encode,
    List.size_toByteArray]
  rfl

end Telemetry.Text.Utf8
