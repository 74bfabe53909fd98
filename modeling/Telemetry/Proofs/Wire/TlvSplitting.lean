import Telemetry.Proofs.Wire.Loops
import Telemetry.Proofs.Wire.TlvList

/-!
What a list of TLVs is refused for.

Any bytes are entries whose values fit their length field, and behind them the end, or an entry that
has begun and is not there as a whole. In the first case the bytes are the list and are read as it.
In the second the reader comes as far as the torn entry and calls the message truncated. It does not
ask for more bytes: the container has been cut off at its declared length, and none will come.
-/

namespace Telemetry.Wire

open Reader

variable {ε : Type} [HasFault ε] {bs left : Octets}

lemma Reader.run_slice_overrun {part : String} {n : Nat} (few : bs.length < n) :
    (slice part n : Reader ε Octets).run bs =
      (.error (HasFault.ofFault (.overrun part n bs.length)), bs) := by
  simp [run, slice, Octets.cut?_eq_none few]

namespace Tlv

/-- An entry has begun and is not there as a whole: what is wrong with it, the bytes that are left
where this is found, and the bytes where it begins. -/
inductive Torn (message : String) : Fault → Octets → Octets → Prop where
  /-- Less than a type and a length. -/
  | header {bs : Octets} (begun : bs ≠ []) (few : bs.length < 4) :
    Torn message (.brokenTlv message bs.length) bs bs
  /-- Less of the value than the length says. -/
  | value {type length : UInt16} {left : Octets} (few : left.length < length.toNat) :
    Torn message (.overrun message length.toNat left.length) left
      (Octets.ofUInt16 type ++ (Octets.ofUInt16 length ++ left))

variable {message : String} {f : Fault}

lemma Torn.kind (h : Torn message f left bs) : f.kind = .truncated := by
  cases h <;> rfl

lemma Torn.isInsufficient (h : Torn message f left bs) : f.isInsufficient = false := by
  rw [Fault.isInsufficient, h.kind]
  rfl

/-! ### One entry -/

lemma run_read_few (few : bs.length < 4) : (read message : Reader ε Tlv).run bs =
    (.error (HasFault.ofFault (.brokenTlv message bs.length)), bs) := by
  have hrest : (Reader.rest : Reader ε Octets).run bs = (.ok bs, bs) := rfl
  have hholds : ¬ Octets.holds 4 bs = true := mt Octets.holds_iff.mp (Nat.not_le_of_lt few)
  unfold read
  rw [run_bind_of_ok hrest, if_pos (by simpa using hholds)]
  rfl

lemma run_read_header (type length : UInt16) (behind : Octets) :
    (read message : Reader ε Tlv).run
        (Octets.ofUInt16 type ++ (Octets.ofUInt16 length ++ behind)) =
      (do
        let value ← slice message length.toNat
        return ⟨type, value⟩ : Reader ε Tlv).run behind := by
  generalize hbs : Octets.ofUInt16 type ++ (Octets.ofUInt16 length ++ behind) = bs
  have hrest : (Reader.rest : Reader ε Octets).run bs = (.ok bs, bs) := rfl
  have hholds : Octets.holds 4 bs = true := by
    rw [Octets.holds_iff, ← hbs]
    simp only [List.length_append, Octets.length_ofUInt16]
    omega
  unfold read
  rw [run_bind_of_ok hrest, if_neg (by simp [hholds]), ← hbs, run_bind_u16, run_bind_u16]

lemma torn_of_breaks {e : ε} (h : Breaks (read message) e left bs) :
    ∃ f, Torn message f left bs ∧ e = HasFault.ofFault f := by
  obtain ⟨begun, hread⟩ := h
  rcases Nat.lt_or_ge bs.length 4 with few | enough
  · rw [run_read_few few] at hread
    cases hread
    exact ⟨_, .header begun few, rfl⟩
  obtain ⟨type, mid, rfl⟩ := Octets.exists_ofUInt16 (show 2 ≤ bs.length by omega)
  rw [List.length_append, Octets.length_ofUInt16] at enough
  obtain ⟨length, behind, rfl⟩ := Octets.exists_ofUInt16 (show 2 ≤ mid.length by omega)
  rw [run_read_header] at hread
  rcases Nat.lt_or_ge behind.length length.toNat with few | enough
  · rw [run_bind_of_error (run_slice_overrun few)] at hread
    cases hread
    exact ⟨_, .value few, rfl⟩
  · -- with the value there the entry is whole, and it is read
    have hvalue : (slice message length.toNat : Reader ε Octets).run behind =
        (.ok (behind.take length.toNat), behind.drop length.toNat) := by
      simp [run_slice_ok, enough]
    rw [run_bind_of_ok hvalue] at hread
    cases hread

/-! ### Lists -/

/-- **A list of TLVs is split exactly.** Bytes are read as a list when they are the written forms of
its entries, one after the other, and every value has at most 65535 bytes, which may be none. All
other bytes are such entries and behind them a torn one, and the list is refused for what is wrong
with that: the message is truncated, and no further bytes are asked for. -/
theorem readAll_splits (message : String) (bs : Octets) :
    (∀ ts, (readAll message : Reader ε (List Tlv)).run bs = (.ok ts, []) ↔
      (∀ t ∈ ts, t.value.length ≤ 65535) ∧ bs = ts.flatMap encode) ∧
    ((¬ ∃ ts : List Tlv, (∀ t ∈ ts, t.value.length ≤ 65535) ∧ bs = ts.flatMap encode) →
      ∃ (ts : List Tlv) (tail left : Octets) (f : Fault),
        (∀ t ∈ ts, t.value.length ≤ 65535) ∧ bs = ts.flatMap encode ++ tail ∧
        Torn message f left tail ∧
        (readAll message : Reader ε (List Tlv)).run bs = (.error (HasFault.ofFault f), left) ∧
        f.kind = .truncated ∧ f.isInsufficient = false) := by
  refine ⟨fun ts => ?_, fun hnone => ?_⟩
  · rw [run_readAll]
    exact and_iff_right rfl
  have hexact : Exact (read message : Reader ε Tlv) Fits encode := read_exact message
  obtain ⟨ts, tail, hfits, rfl, htail⟩ := hexact.exists_cut encode_ne_nil bs
  rcases htail with rfl | ⟨e, left, hbreaks⟩
  · exact absurd ⟨ts, hfits, List.append_nil _⟩ hnone
  obtain ⟨f, htorn, rfl⟩ := torn_of_breaks hbreaks
  have hfails := hexact.run_untilEnd_broken encode_ne_nil hfits hbreaks
  exact ⟨ts, tail, left, f, hfits, rfl, htorn, hfails, htorn.kind, htorn.isInsufficient⟩

/-- A name and an empty value are a list. With a value behind them that is a byte too short they
are none, nor with three bytes of a header. -/
theorem readAll_splits_torn :
    let whole : Octets := [0, 2, 0, 3, 114, 116, 114, 0, 0, 0, 0]
    let split := (readAll "peer up" : Reader Fault (List Tlv)).run
    split whole = (.ok [⟨2, [114, 116, 114]⟩, ⟨0, []⟩], []) ∧
      split (whole ++ [0, 1, 0, 3, 97, 98]) = (.error (.overrun "peer up" 3 2), [97, 98]) ∧
      (Fault.overrun "peer up" 3 2).kind = .truncated ∧
      split (whole ++ [0, 1, 0]) = (.error (.brokenTlv "peer up" 3), [0, 1, 0]) ∧
      (Fault.brokenTlv "peer up" 3).kind = .truncated := by
  intro whole split
  have hrefused : ∀ bs f left, split bs = (.error f, left) → f.kind = .truncated := by
    intro bs f left hsplit
    obtain ⟨haccepts, hrefuses⟩ := @readAll_splits Fault _ "peer up" bs
    have hnone : ¬ ∃ ts : List Tlv, (∀ t ∈ ts, t.value.length ≤ 65535) ∧
        bs = ts.flatMap encode := by
      rintro ⟨ts, hts⟩
      cases hsplit.symm.trans ((haccepts ts).mpr hts)
    obtain ⟨_, _, _, g, -, -, -, hrun, hkind, -⟩ := hrefuses hnone
    cases hsplit.symm.trans hrun
    exact hkind
  have hvalue : split (whole ++ [0, 1, 0, 3, 97, 98]) =
      (.error (.overrun "peer up" 3 2), [97, 98]) := by decide +kernel
  have hheader : split (whole ++ [0, 1, 0]) = (.error (.brokenTlv "peer up" 3), [0, 1, 0]) := by
    decide +kernel
  have haccepted : split whole = (.ok [⟨2, [114, 116, 114]⟩, ⟨0, []⟩], []) :=
    ((readAll_splits "peer up" whole).1 _).mpr ⟨by decide, by decide⟩
  refine ⟨haccepted, hvalue, ?_, hheader, ?_⟩
  · exact hrefused _ _ _ hvalue
  · exact hrefused _ _ _ hheader

end Tlv

end Telemetry.Wire
