import Telemetry.Bmp.RouterMessage
import Telemetry.Proofs.Text.Utf8Scan
import Telemetry.Proofs.Wire.TlvList

/-!
Which lists of texts and reasons are read back: those whose texts fit a length field of two bytes.

A text that does not fit is written whole, with its length reduced. Whoever reads the list finds
the beginning of the text there, and never the text.
-/

namespace Telemetry.Bmp

open Wire Reader

variable {rest : Octets}

namespace TextTlv

variable {τ : Type} [Code τ]

/-- The text is no longer than a length field can say. -/
def Fits (t : TextTlv τ) : Prop := t.text.utf8ByteSize ≤ 65535

lemma ofTlv_eq_ok {t : Tlv} {x : TextTlv τ} :
    ofTlv t = .ok x ↔ Code.number x.type = t.type.toNat ∧ Text.Utf8.decode t.value = x.text := by
  obtain ⟨type, text⟩ := x
  simp only [ofTlv, bind_eq_ok, pure_eq_ok, member_eq_ok, TextTlv.mk.injEq]
  refine ⟨?_, ?_⟩
  · rintro ⟨_, hnumber, rfl, htext⟩
    exact ⟨hnumber, htext⟩
  · rintro ⟨hnumber, htext⟩
    exact ⟨_, hnumber, rfl, htext⟩

/-- Of types that are numbered in two bytes exactly the texts that fit are read back. -/
lemma run_readAll (small : ∀ t ∈ (Code.members : List τ), Code.number t < 65536) {message : String}
    {ts : List (TextTlv τ)} :
    (readAll τ message).run (encodeAll ts) = (.ok ts, rest) ↔ rest = [] ∧ ∀ t ∈ ts, t.Fits := by
  refine Tlv.run_typed_write (fun t ht => ⟨?_, ?_⟩) fun t ht => ?_
  · show (Text.Utf8.encode t.text).length ≤ 65535
    rwa [Text.Utf8.length_encode]
  · have hnumber : (UInt16.ofNat (Code.number t.type)).toNat = Code.number t.type :=
      UInt16.toNat_ofNat_of_lt' (Code.number_lt small t.type)
    exact ofTlv_eq_ok.mpr ⟨hnumber.symm, Text.Utf8.decode_encode t.text⟩
  · have hfits := Text.Utf8.length_of_decode_reduced (ofTlv_eq_ok.mp ht).2
    rwa [Text.Utf8.length_encode] at hfits

end TextTlv

namespace TerminationTlv

def Fits : TerminationTlv → Prop
  | text s => s.utf8ByteSize ≤ 65535
  | reason _ => True

lemma ofTlv_text (bs : Octets) :
    ofTlv ⟨UInt16.ofNat (Code.number TerminationTlvType.string), bs⟩ =
      .ok (text (Text.Utf8.decode bs)) :=
  rfl

lemma ofTlv_reason (r : TerminationReason) : ofTlv (toTlv (reason r)) = .ok (reason r) := by
  cases r <;> rfl

lemma run_readAll {ts : List TerminationTlv} :
    readAll.run (encodeAll ts) = (.ok ts, rest) ↔ rest = [] ∧ ∀ t ∈ ts, t.Fits := by
  refine Tlv.run_typed_write (fun t ht => ?_) fun t ht => ?_
  · cases t with
    | text s =>
      have hlength : (Text.Utf8.encode s).length ≤ 65535 := by rwa [Text.Utf8.length_encode]
      refine ⟨hlength, ?_⟩
      rw [toTlv, ofTlv_text, Text.Utf8.decode_encode]
    | reason r =>
      refine ⟨?_, ofTlv_reason r⟩
      simp [Tlv.Fits, toTlv]
  · cases t with
    | text s =>
      rw [toTlv, ofTlv_text, Except.ok.injEq, text.injEq] at ht
      have hfits := Text.Utf8.length_of_decode_reduced ht
      rwa [Text.Utf8.length_encode] at hfits
    | reason r => trivial

end TerminationTlv

end Telemetry.Bmp
