import Mathlib
import Telemetry.Proofs.Netflow.Flowsets

/-!
The order of the flowsets in a packet.

Templates go to the cache in the order of the packet, so that order matters: of two templates with
one id the last is in force, and at the limit the first ones are kept. Nothing else does. Data are
decoded with what the cache knows at the end of the packet, so they may stand anywhere, and skipped
flowsets may stand anywhere or nowhere.
-/

namespace Telemetry

/-- A list rearranged: each member is moved to a place of the other list, where it stands again, and
the `fixed` ones keep their order. -/
structure Rearrangement {α : Type} (fixed : α → Bool) (as bs : List α) where
  move : Fin as.length ≃ Fin bs.length
  same : ∀ i, bs.get (move i) = as.get i
  inOrder : ∀ i j, i < j → fixed (as.get i) = true → fixed (as.get j) = true → move i < move j

namespace Rearrangement

variable {α : Type} {fixed : α → Bool} {as bs : List α}

def places (fixed : α → Bool) (as : List α) : List (Fin as.length) :=
  (List.finRange as.length).filter fun i => fixed (as.get i)

lemma map_places (fixed : α → Bool) (as : List α) :
    (places fixed as).map as.get = as.filter fixed := by
  conv_rhs => rw [← List.map_get_finRange as]
  rw [List.filter_map]
  rfl

lemma sorted_places (fixed : α → Bool) (as : List α) : (places fixed as).Pairwise (· < ·) :=
  (List.pairwise_lt_finRange _).filter _

lemma mem_places {i : Fin as.length} : i ∈ places fixed as ↔ fixed (as.get i) = true := by
  simp [places]

/-- The places of the fixed members are moved to the places of the fixed members, in order. -/
lemma map_move_places (r : Rearrangement fixed as bs) :
    (places fixed as).map r.move = places fixed bs := by
  have hsorted : ((places fixed as).map r.move).Pairwise (· < ·) := by
    rw [List.pairwise_map]
    exact (sorted_places fixed as).imp_of_mem fun hi hj hij =>
      r.inOrder _ _ hij (mem_places.mp hi) (mem_places.mp hj)
  have hmem : ∀ j, j ∈ (places fixed as).map r.move ↔ j ∈ places fixed bs := by
    intro j
    obtain ⟨i, rfl⟩ := r.move.surjective j
    rw [List.mem_map_of_injective r.move.injective, mem_places, mem_places, r.same]
  have hperm := (List.perm_ext_iff_of_nodup hsorted.nodup (sorted_places fixed bs).nodup).mpr hmem
  exact hperm.eq_of_pairwise' hsorted (sorted_places fixed bs)

lemma filter_eq (r : Rearrangement fixed as bs) : bs.filter fixed = as.filter fixed := by
  rw [← map_places, ← map_places, ← r.map_move_places, List.map_map]
  exact List.map_congr_left fun i _ => r.same i

def symm (r : Rearrangement fixed as bs) : Rearrangement fixed bs as where
  move := r.move.symm
  same j := by rw [← r.same, Equiv.apply_symm_apply]
  inOrder i j hij hi hj := by
    rw [← r.move.apply_symm_apply i, r.same] at hi
    rw [← r.move.apply_symm_apply j, r.same] at hj
    by_contra hnot
    rcases Nat.eq_or_lt_of_le (not_lt.mp hnot) with heq | hlt
    · exact hij.ne (r.move.symm.injective (Fin.ext heq)).symm
    · have := r.inOrder _ _ hlt hj hi
      rw [r.move.apply_symm_apply, r.move.apply_symm_apply] at this
      exact absurd hij this.asymm

variable {β : Type} {R : α → β → Prop} {xs ys : List β}

/-- If the members have partners, so have the rearranged ones. -/
lemma exists_forall₂ (r : Rearrangement fixed as bs) (h : List.Forall₂ R as xs) :
    ∃ ys, List.Forall₂ R bs ys := by
  obtain ⟨hlength, hget⟩ := List.forall₂_iff_get.mp h
  refine ⟨List.ofFn fun j => xs.get (Fin.cast hlength (r.move.symm j)),
    List.forall₂_iff_get.mpr ⟨by simp, fun j hj hj' => ?_⟩⟩
  have hsame := r.symm.same ⟨j, hj⟩
  have hpartner := hget (r.move.symm ⟨j, hj⟩) (Fin.is_lt _) (hlength ▸ Fin.is_lt _)
  rw [← hsame, List.get_ofFn]
  exact hpartner

/-- Where a member has one partner only, the partners are rearranged as the members are. -/
lemma getElem?_move (r : Rearrangement fixed as bs) (unique : ∀ a x y, R a x → R a y → x = y)
    (hxs : List.Forall₂ R as xs) (hys : List.Forall₂ R bs ys) (i : Fin as.length) :
    ys[(r.move i : Nat)]? = xs[(i : Nat)]? := by
  obtain ⟨hxlength, hxget⟩ := List.forall₂_iff_get.mp hxs
  obtain ⟨hylength, hyget⟩ := List.forall₂_iff_get.mp hys
  have hi : (i : Nat) < xs.length := hxlength ▸ i.isLt
  have hj : (r.move i : Nat) < ys.length := hylength ▸ (r.move i).isLt
  have hx := hxget i i.isLt hi
  have hy := hyget (r.move i) (r.move i).isLt hj
  rw [Fin.eta, r.same] at hy
  rw [List.getElem?_eq_getElem hi, List.getElem?_eq_getElem hj]
  exact congrArg some (unique _ _ _ hy hx)

end Rearrangement

namespace Netflow

open Wire Reader

variable {exporter : Ip} {cache : TemplateCache} {header : Header} {first second : List WireSet}

lemma announcedBy_filter (sets : List WireSet) :
    announcedBy (sets.filter WireSet.announces) = announcedBy sets := by
  induction sets with
  | nil => rfl
  | cons s sets ih =>
    unfold announcedBy at ih ⊢
    cases hs : s.announces with
    | true =>
      simp only [List.filter_cons, hs, if_true, upToFailure]
      cases s.content with
      | error e => rfl
      | ok r => simp only [List.flatMap_cons, ih]
    | false =>
      obtain ⟨r, hr, hnone⟩ := WireSet.content_of_silent hs
      simp only [List.filter_cons, hs, Bool.false_eq_true, if_false, upToFailure, hr,
        List.flatMap_cons, hnone, List.nil_append, ih]

lemma filter_announces_meaningful (sets : List WireSet) :
    (WireSet.meaningful sets).filter WireSet.announces = sets.filter WireSet.announces := by
  rw [WireSet.meaningful, List.filter_filter]
  refine List.filter_congr fun s _ => ?_
  cases hs : s.announces with
  | false => rfl
  | true => simp [WireSet.isReserved_of_announces hs]

lemma announcedBy_rearranged
    (r : Rearrangement WireSet.announces (WireSet.meaningful first) (WireSet.meaningful second)) :
    announcedBy second = announcedBy first := by
  rw [← announcedBy_filter second, ← announcedBy_filter first, ← filter_announces_meaningful,
    ← filter_announces_meaningful first, r.filter_eq]

lemma cache_rearranged
    (r : Rearrangement WireSet.announces (WireSet.meaningful first) (WireSet.meaningful second)) :
    (decode exporter cache (packetBytes header second)).cache =
      (decode exporter cache (packetBytes header first)).cache := by
  by_cases hversion : header.version = Header.version9
  · rw [cache_decode hversion, cache_decode hversion, announcedBy_rearranged r]
  · rw [(decode_of_version hversion).2, (decode_of_version hversion).2]

lemma isOk_rearranged
    (r : Rearrangement WireSet.announces (WireSet.meaningful first) (WireSet.meaningful second))
    (h : (decode exporter cache (packetBytes header first)).answer.isOk = true) :
    (decode exporter cache (packetBytes header second)).answer.isOk = true := by
  by_cases hversion : header.version = Header.version9
  · cases hfirst : (decode exporter cache (packetBytes header first)).answer with
    | error e => rw [hfirst] at h; cases h
    | ok p =>
      obtain ⟨-, hall⟩ := (answer_decode hversion).mp hfirst
      rw [← cache_rearranged r] at hall
      obtain ⟨fs, hfs⟩ := r.exists_forall₂ hall
      rw [(answer_decode (p := ⟨header, fs⟩) hversion).mpr ⟨rfl, hfs⟩]
      rfl
  · rw [(decode_of_version hversion).1] at h
    cases h

/-- **The order of flowsets does not matter.** Take the flowsets of a packet in another order, that
of the flowsets of templates among themselves excepted, and add or leave out reserved ones. The
packet leaves the cache the same; it is decoded if it was before; and then each flowset has been
decoded to the same, in its new place. -/
theorem decode_rearranged (exporter : Ip) (cache : TemplateCache) (header : Header)
    (first second : List WireSet)
    (r : Rearrangement WireSet.announces (WireSet.meaningful first) (WireSet.meaningful second)) :
    let a := decode exporter cache (packetBytes header first)
    let b := decode exporter cache (packetBytes header second)
    b.cache = a.cache ∧ b.answer.isOk = a.answer.isOk ∧
      ∀ p q, a.answer = .ok p → b.answer = .ok q →
        q.header = p.header ∧
        p.flowSets.length = (WireSet.meaningful first).length ∧
        q.flowSets.length = (WireSet.meaningful second).length ∧
        ∀ i, q.flowSets[(r.move i : Nat)]? = p.flowSets[(i : Nat)]? := by
  intro a b
  refine ⟨cache_rearranged r, ?_, fun p q hp hq => ?_⟩
  · exact Bool.eq_iff_iff.mpr ⟨isOk_rearranged r.symm, isOk_rearranged r⟩
  · by_cases hversion : header.version = Header.version9
    · obtain ⟨hpheader, hpall⟩ := (answer_decode hversion).mp hp
      obtain ⟨hqheader, hqall⟩ := (answer_decode hversion).mp hq
      rw [← cache_rearranged r] at hpall
      refine ⟨hqheader.trans hpheader.symm, hpall.length_eq.symm, hqall.length_eq.symm,
        r.getElem?_move (fun s f g hf hg => ?_) hpall hqall⟩
      exact Option.some.inj (Except.ok.inj (hf.symm.trans hg))
    · have hfails : a.answer = .error (.unsupportedVersion header.version) :=
        (decode_of_version hversion).1
      rw [hp] at hfails
      cases hfails

/-- Data between two templates of their id: moved to the front, with a skipped flowset behind them,
they are decoded by the second template as before. -/
theorem decode_rearranged_redefined :
    let router := Ip.v4 (Block.ofNat 4 0x0a000001)
    let header : Header := ⟨9, 3, 0, 0, 0, 7⟩
    let narrow : WireSet := ⟨0, [1, 0, 0, 1, 0, 1, 0, 1], by decide⟩
    let wide : WireSet := ⟨0, [1, 0, 0, 1, 0, 1, 0, 2], by decide⟩
    let data : WireSet := ⟨256, [1, 2], by decide⟩
    let skipped : WireSet := ⟨5, [], by decide⟩
    let a := decode router (.empty 8) (packetBytes header [narrow, data, wide])
    let b := decode router (.empty 8) (packetBytes header [data, skipped, narrow, wide])
    b.cache = a.cache ∧ b.answer.isOk = true ∧
      ∀ p q, a.answer = .ok p → b.answer = .ok q →
        q.flowSets[0]? = p.flowSets[1]? ∧
        p.flowSets[1]? = some (.data 256 [⟨[], [⟨.inBytes, .unsigned 258⟩]⟩]) := by
  intro router header narrow wide data skipped a b
  let r : Rearrangement WireSet.announces (WireSet.meaningful [narrow, data, wide])
      (WireSet.meaningful [data, skipped, narrow, wide]) :=
    { move := (Equiv.swap 0 1 : Equiv.Perm (Fin 3))
      same := by decide
      inOrder := by decide }
  obtain ⟨hcache, hok, hsame⟩ :=
    decode_rearranged router (.empty 8) header [narrow, data, wide] [data, skipped, narrow, wide] r
  have hdecoded : a.answer.map (·.flowSets[1]?) =
      .ok (some (.data 256 [⟨[], [⟨.inBytes, .unsigned 258⟩]⟩])) := by decide
  refine ⟨hcache, hok.trans (by decide), fun p q hp hq => ⟨?_, ?_⟩⟩
  · exact (hsame p q hp hq).2.2.2 ⟨1, by decide⟩
  · rw [hp] at hdecoded
    exact Except.ok.inj hdecoded

end Netflow

end Telemetry
