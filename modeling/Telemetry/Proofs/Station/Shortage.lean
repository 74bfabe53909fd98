import Telemetry.Proofs.Sflow.Shortage
import Telemetry.Proofs.Netflow.Shortage

/-!
What a datagram that is too short says.

A datagram comes as a whole, so one that is too short was cut on its way and is of no use. Both
parsers of datagrams say so of what is around the samples and flowsets only: where one of these lies
about its length, or holds something that ends too early, no further byte would help.
-/

namespace Telemetry.Station

open Netflow.TemplateCache (Positive)

/-- **Only the frame of a datagram can be too short.** Either mode asks an sFlow datagram for more
bytes exactly when it ends inside its header, of 28 bytes or of 40, and no field in front of that
end is invalid. A NetFlow packet is asked for more exactly when it ends so inside its header of 20
bytes, or when flowsets that are whole and can be read stand in front of one to three bytes more.
What fails in a sample or in a flowset never asks for more; and with a cache whose templates make
records of at least one byte, that is so for each template that data can meet behind the first pass,
and the loop over their records ends and does not fail. -/
theorem datagram_insufficient_iff :
    (∀ mode d, (∃ e rest, (Sflow.Datagram.read mode).run d = (.error e, rest) ∧
        e.isInsufficient = true) ↔ Sflow.Header.Unfinished d) ∧
    (∀ (part : Sflow.Part) e, part.sample = .error e → e.isInsufficient = false) ∧
    (∀ (s : Netflow.WireSet) e, s.content = .error e → e.isInsufficient = false) ∧
    ∀ exporter cache d, Positive cache →
      let decoded := Netflow.decode exporter cache d
      ((∃ e, decoded.answer = .error e ∧ e.isInsufficient = true) ↔
        Netflow.Header.Unfinished d ∨ Netflow.EndsInHead d) ∧
      ∀ source id t, decoded.cache.get? exporter source id = some t → 1 ≤ t.recordLength ∧
        ∀ body, (∃ g, t.RecordLoop [] body g) ∧
          ∀ g, t.RecordLoop [] body g → g.failure = none := by
  refine ⟨fun mode d => ?_, fun _ _ h => Sflow.Part.isInsufficient_of_sample h,
    fun _ _ h => Netflow.WireSet.isInsufficient_of_content h, fun exporter cache d hcache => ?_⟩
  · rw [← Sflow.Datagram.failsShort_read_iff mode]
    refine ⟨?_, ?_⟩
    · rintro ⟨e, rest, hrun, hshort⟩
      exact ⟨e, by rw [hrun], hshort⟩
    · rintro ⟨e, he, hshort⟩
      exact ⟨e, _, Prod.ext he rfl, hshort⟩
  · refine ⟨Netflow.decode_short_iff exporter cache d, fun source id t hfound => ?_⟩
    have hnonempty : 1 ≤ t.recordLength := hcache.decode exporter d exporter source id t hfound
    exact ⟨hnonempty, Netflow.Template.recordLoop_ends hnonempty⟩

/-- An agent's address that is cut, and three bytes behind data with a template. -/
theorem datagram_insufficient_cut :
    let router := Ip.v4 (Block.ofNat 4 0x0a000001)
    let t : Netflow.Template := ⟨256, [], [⟨.inBytes, 4⟩]⟩
    let cache := (Netflow.TemplateCache.empty 8).insertAll router 7 [t]
    let packet := Netflow.packetBytes ⟨9, 1, 0, 0, 0, 7⟩ [⟨256, [1, 2, 3, 4, 5], by decide⟩]
    Positive cache ∧
      (∀ mode, ∃ e rest, (Sflow.Datagram.read mode).run [0, 0, 0, 5, 0, 0, 0, 1, 10, 0] =
        (.error e, rest) ∧ e.isInsufficient = true) ∧
      (∃ e, (Netflow.decode router cache (packet ++ [1, 0, 0])).answer = .error e ∧
        e.isInsufficient = true) ∧
      ∃ g, t.RecordLoop [] [1, 2, 3, 4, 5] g ∧ g.failure = none := by
  intro router t cache packet
  obtain ⟨hsflow, -, -, hnetflow⟩ := datagram_insufficient_iff
  have hcache : Positive cache :=
    (Netflow.TemplateCache.positive_empty 8).insertAll router 7 (by decide)
  obtain ⟨hshort, hdata⟩ := hnetflow router cache (packet ++ [1, 0, 0]) hcache
  have hdangling : Netflow.EndsInHead (packet ++ [1, 0, 0]) :=
    ⟨_, _, [[]], [1, 0, 0], rfl, rfl, .cons rfl .nil, by decide, by decide⟩
  obtain ⟨-, hloop⟩ := hdata 7 256 t (by decide)
  obtain ⟨⟨g, hg⟩, hends⟩ := hloop [1, 2, 3, 4, 5]
  refine ⟨hcache, fun mode => (hsflow mode _).mpr ?_, hshort.mpr (.inr hdangling), g, hg,
    hends g hg⟩
  exact Sflow.Header.Unfinished.fields (d := [10, 0]) .ipv4 (by decide)

end Telemetry.Station
