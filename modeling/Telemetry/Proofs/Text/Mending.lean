import Telemetry.Proofs.Text.Utf8Scan

/-!
Bytes that are read as a text and written again.

What is no UTF-8 comes back as replacement characters, so bytes are mended on the way. UTF-8 comes
back as it was, and nothing else does. Mended bytes may be more than there were: a byte that begins
no character is replaced by three.
-/

namespace Telemetry.Text.Utf8

variable {bs : Octets}

/-- What is written for the text that bytes are read as. -/
def mend (bs : Octets) : Octets := encode (decode bs)

lemma length_mend (bs : Octets) : (mend bs).length = (decode bs).utf8ByteSize := length_encode _

lemma mend_eq_self_iff : mend bs = bs ↔ bs.toByteArray.IsValidUTF8 := by
  refine ⟨fun h => ⟨(decode bs).toList, ?_⟩, ?_⟩
  · rw [List.utf8Encode, List.toByteArray_inj]
    exact h.symm
  · rintro ⟨cs, hcs⟩
    obtain rfl : bs = encode (String.ofList cs) := by
      rw [List.utf8Encode, List.toByteArray_inj] at hcs
      rw [hcs, encode, String.toList_ofList]
    rw [mend, decode_encode]

/-- Bytes that are the beginning of what they are mended to, as far as a length reduced to sixteen
bits goes, are all of it. -/
lemma mend_eq_self_of_take (h : bs = (mend bs).take ((mend bs).length % 65536)) :
    mend bs = bs := by
  have hread : decode ((mend bs).take ((mend bs).length % 65536)) = decode bs := by rw [← h]
  have hfits : (mend bs).length ≤ 65535 := length_of_decode_reduced hread
  rw [Nat.mod_eq_of_lt (by omega), List.take_length] at h
  exact h.symm

lemma decode_replicate {b : UInt8} (hb : ∀ found, first b found = ⟨none, replacement :: found⟩)
    (n : Nat) : decode (List.replicate n b) = String.ofList (List.replicate n replacement) := by
  have hscan : ∀ found, (List.replicate n b).foldl step ⟨none, found⟩ =
      ⟨none, List.replicate n replacement ++ found⟩ := by
    induction n with
    | zero => intro found; rfl
    | succ n ih =>
      intro found
      have hstep : step ⟨none, found⟩ b = ⟨none, replacement :: found⟩ := hb found
      rw [List.replicate_succ, List.foldl_cons, hstep, ih, List.replicate_succ',
        List.append_assoc, List.singleton_append]
  rw [decode, hscan, finish]
  simp

/-- Bytes that begin no character are written three times as many. -/
lemma length_mend_replicate {b : UInt8}
    (hb : ∀ found, first b found = ⟨none, replacement :: found⟩) (n : Nat) :
    (mend (List.replicate n b)).length = n * 3 := by
  have hthree : (String.utf8EncodeChar replacement).length = 3 := by decide
  rw [mend, decode_replicate hb, encode, String.toList_ofList, List.length_flatMap,
    List.map_replicate, hthree, List.sum_replicate, smul_eq_mul]

end Telemetry.Text.Utf8
