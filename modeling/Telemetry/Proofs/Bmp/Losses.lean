import Telemetry.Proofs.Bmp.Moments

/-!
What the decoder says it has lost when it is back in sync.

The number in that event is the count of the stream: all bytes skipped so far, those of earlier
searches among them. So it is what the search before has reported, and the bytes of this search.
Only the first search of a stream reports its own loss; the numbers reported do not add up to what
was skipped as soon as there are two of them.
-/

namespace Telemetry.Bmp.Decoder

open Telemetry.Bmp.Frame

/-- Of positive numbers, the last is their sum only if it is alone. -/
lemma sum_eq_last_iff {ns : List Nat} (positive : ∀ n ∈ ns, 0 < n) :
    ns.sum = ns.getLast?.getD 0 ↔ ns.length ≤ 1 := by
  rcases List.eq_nil_or_concat ns with rfl | ⟨init, last, rfl⟩
  · simp
  rw [List.concat_eq_append, List.sum_append, List.getLast?_concat]
  cases init with
  | nil => simp
  | cons n rest =>
    have hn : 0 < n := positive n (by simp)
    simp only [List.sum_cons, List.sum_nil, Option.getD_some, List.length_append, List.length_cons,
      List.length_nil]
    omega

namespace Drained

def reports (s : Drained) : List Nat := s.events.filterMap Event.reported?

/-- The last of them, zero where there is none. -/
def lastReport (s : Drained) : Nat := s.reports.getLast?.getD 0

variable {s t : Drained}

lemma reports_eq (s : Drained) : s.reports = s.syncEvents.filterMap Event.reported? := by
  rw [reports, syncEvents, List.filterMap_filter]
  congr 1
  funext e
  cases e <;> rfl

lemma reports_of_quiet (quiet : t.syncEvents = s.syncEvents) : t.reports = s.reports := by
  rw [reports_eq, reports_eq, quiet]

lemma reports_concat {e : Event} (hevents : t.events = s.events ++ [e]) :
    t.reports = s.reports ++ e.reported?.toList := by
  rw [reports, hevents, List.filterMap_append]
  cases h : e.reported? <;> simp [reports, h]

structure Told (s : Drained) : Prop where
  positive : ∀ n ∈ s.reports, 0 < n
  inSync : s.decoder.resyncing = false → s.decoder.stats.skipped = s.lastReport
  searching : s.decoder.resyncing = true → s.lastReport < s.decoder.stats.skipped

lemma Told.lastReport_le (h : Told s) : s.lastReport ≤ s.decoder.stats.skipped := by
  cases hsync : s.decoder.resyncing with
  | false => exact (h.inSync hsync).ge
  | true => exact (h.searching hsync).le

lemma told_start (maxLength : Nat) : Told (start maxLength) :=
  ⟨by simp [reports, start], fun _ => rfl, nofun⟩

lemma Told.congr (h : Told s) (hreports : t.reports = s.reports)
    (inSync : t.decoder.resyncing = false → s.decoder.resyncing = false ∧
      t.decoder.stats.skipped = s.decoder.stats.skipped)
    (searching : t.decoder.resyncing = true → s.lastReport < t.decoder.stats.skipped) :
    Told t where
  positive := hreports ▸ h.positive
  inSync ht := by
    rw [(inSync ht).2, h.inSync (inSync ht).1, lastReport, lastReport, hreports]
  searching ht := by
    rw [lastReport, hreports]
    exact searching ht

end Drained

open Drained (Told told_start reports_of_quiet events_ne_of_quiet)

namespace Run

variable {maxLength : Nat} (r : Run maxLength)

lemma told (i : Nat) : Told (r.moment i) := by
  induction i with
  | zero =>
    rw [r.first]
    exact told_start maxLength
  | succ i ih =>
    cases r.turn i with
    | still decoder _ quiet =>
      refine ih.congr (reports_of_quiet quiet) (fun h => ?_) fun h => ?_
      · rw [decoder] at h ⊢
        exact ⟨h, rfl⟩
      · rw [decoder] at h ⊢
        exact ih.searching h
    | lose _ after stats _ events =>
      refine ih.congr ?_ (fun h => absurd (h.symm.trans after) (by decide)) fun _ => ?_
      · simpa [Event.reported?] using Drained.reports_concat events
      · rw [stats]
        exact Nat.lt_succ_of_le ih.lastReport_le
    | search _ after stats _ quiet =>
      refine ih.congr (reports_of_quiet quiet) (fun h => absurd (h.symm.trans after) (by decide))
        fun _ => ?_
      rw [stats]
      exact Nat.lt_succ_of_le ih.lastReport_le
    | take before after stats _ quiet | drop before after stats _ quiet =>
      refine ih.congr (reports_of_quiet quiet) (fun _ => ⟨before, by rw [stats]⟩) fun h => ?_
      exact absurd (after.symm.trans h) (by decide)
    | find before after stats _ events =>
      -- the one moment at which something is reported: all that has been skipped by then
      have hreports : (r.moment (i + 1)).reports =
          (r.moment i).reports ++ [(r.moment i).decoder.stats.skipped] := by
        simpa [Event.reported?] using Drained.reports_concat events
      refine ⟨?_, fun _ => ?_, fun h => absurd (after.symm.trans h) (by decide)⟩
      · have hskipped : 0 < (r.moment i).decoder.stats.skipped :=
          (Nat.zero_le _).trans_lt (ih.searching before)
        rw [hreports]
        simpa [or_imp, forall_and] using ⟨ih.positive, hskipped⟩
      · simp [Drained.lastReport, hreports, stats]

/-- From moment `k` to the next, the decoder says that it is back in sync, with this number. -/
def ReturnsAt (k n : Nat) : Prop :=
  (r.moment (k + 1)).events = (r.moment k).events ++ [.backInSync n]

/-- The bytes skipped in the search that goes on at a moment; none where there is no search. -/
inductive Unfinished (i : Nat) : Nat → Prop where
  | search {j : Nat} (since : r.Since j i) : Unfinished i
    ((r.moment i).decoder.stats.skipped - (r.moment j).decoder.stats.skipped)
  | none (inSync : ¬ r.Between i) : Unfinished i 0

variable {r} {i j k m n : Nat}

lemma exists_returnsAt (h : n ∈ (r.moment i).reports) : ∃ k < i, r.ReturnsAt k n := by
  induction i with
  | zero =>
    rw [r.first] at h
    cases h
  | succ i ih =>
    have earlier (h : n ∈ (r.moment i).reports) : ∃ k < i + 1, r.ReturnsAt k n := by
      obtain ⟨k, hk, hreturns⟩ := ih h
      exact ⟨k, Nat.lt_succ_of_lt hk, hreturns⟩
    cases r.turn i with
    | still _ _ quiet | search _ _ _ _ quiet | take _ _ _ _ quiet | drop _ _ _ _ quiet =>
      exact earlier (reports_of_quiet quiet ▸ h)
    | lose _ _ _ _ events =>
      rw [Drained.reports_concat events] at h
      exact earlier (by simpa [Event.reported?] using h)
    | find _ _ _ _ events =>
      rw [Drained.reports_concat events, List.mem_append] at h
      obtain h | h := h
      · exact earlier h
      · obtain rfl : n = _ := by simpa [Event.reported?] using h
        exact ⟨i, Nat.lt_succ_self i, events⟩

/-- What is reported is all that has been skipped, at the end of a search. -/
lemma ReturnsAt.turn (h : r.ReturnsAt k n) :
    r.Between k ∧ n = (r.moment k).decoder.stats.skipped ∧
      (r.moment (k + 1)).decoder.stats.skipped = n := by
  rw [between_iff]
  cases r.turn k with
  | find before _ stats _ events =>
    have hsaid := List.append_cancel_left (events.symm.trans h)
    cases hsaid
    exact ⟨before, rfl, by rw [stats]⟩
  | still _ _ quiet | search _ _ _ _ quiet | take _ _ _ _ quiet | drop _ _ _ _ quiet =>
    exact absurd h (events_ne_of_quiet quiet rfl)
  | lose _ _ _ _ events =>
    have hsaid := List.append_cancel_left (events.symm.trans h)
    cases hsaid

lemma Since.reports (h : r.Since j i) : (r.moment i).reports = (r.moment j).reports := by
  refine h.induction (P := fun k => (r.moment k).reports = (r.moment j).reports) ?_
    fun k hk same ih => ?_
  · obtain ⟨header, hsaid⟩ := h.2.1
    simpa [Event.reported?] using Drained.reports_concat hsaid
  · rw [reports_of_quiet (turn_searching hk.resyncing same).2.1, ih]

lemma Since.skipped_lt (h : r.Since j i) :
    (r.moment j).decoder.stats.skipped < (r.moment i).decoder.stats.skipped := by
  refine h.induction (P := fun k => (r.moment j).decoder.stats.skipped <
    (r.moment k).decoder.stats.skipped) ?_ fun k hk same ih => ?_
  · rw [h.2.1.turn.2.2.1]
    exact Nat.lt_succ_self _
  · exact ih.trans_le (turn_searching hk.resyncing same).2.2

/-- All that was skipped before a search has been reported by the search before it. -/
lemma Since.skipped_before (h : r.Since j i) :
    (r.moment j).decoder.stats.skipped = (r.moment j).lastReport :=
  (r.told j).inSync h.2.1.turn.1

/-- What has been skipped is what was reported last, and what is skipped since. -/
lemma Unfinished.skipped (h : r.Unfinished i m) :
    (r.moment i).decoder.stats.skipped = (r.moment i).lastReport + m := by
  cases h with
  | @search j since =>
    have hbefore : (r.moment i).lastReport = (r.moment j).decoder.stats.skipped := by
      rw [since.skipped_before, Drained.lastReport, since.reports]
      rfl
    have := since.skipped_lt
    omega
  | none inSync =>
    rw [between_iff, Bool.not_eq_true] at inSync
    exact (r.told i).inSync inSync

/-- **A return reports all that was skipped on the stream.** Whatever is done with a fresh decoder is
part of a run, and of every run this holds. The number reported at a return is the count of skipped
bytes; that is the number reported last before the search, if any, and the bytes of this search,
which are at least one. So the number is that of the search itself exactly if nothing was reported
before. At every moment the count is the number reported last and the bytes of an unfinished search;
so the numbers reported and those bytes add up to the count exactly as long as at most one number
has been reported. -/
theorem reports_total (maxLength : Nat) :
    (∀ acts, ∃ r : Run maxLength, ∃ i, r.moment i = Drained.performed maxLength acts) ∧
      ∀ r : Run maxLength,
        (∀ k n, r.ReturnsAt k n →
          n = (r.moment (k + 1)).decoder.stats.skipped ∧ r.Between k ∧
            ∀ j, r.Since j k →
              let loss :=
                (r.moment k).decoder.stats.skipped - (r.moment j).decoder.stats.skipped
              0 < loss ∧ n = (r.moment j).lastReport + loss ∧
                (n = loss ↔ (r.moment j).reports = [])) ∧
        ∀ i m, r.Unfinished i m →
          (r.moment i).decoder.stats.skipped = (r.moment i).lastReport + m ∧
            ((r.moment i).reports.sum + m = (r.moment i).decoder.stats.skipped ↔
              (r.moment i).reports.length ≤ 1) := by
  refine ⟨exists_run maxLength, fun r => ⟨fun k n hreturns => ?_, fun i m hm => ?_⟩⟩
  · obtain ⟨hbetween, hn, hafter⟩ := hreturns.turn
    refine ⟨hafter.symm, hbetween, fun j since => ?_⟩
    intro loss
    have hlt := since.skipped_lt
    have hbefore := since.skipped_before
    have hsum : n = (r.moment j).lastReport + loss := by omega
    refine ⟨by omega, hsum, ?_⟩
    calc n = loss ↔ (r.moment j).lastReport = 0 := by omega
      _ ↔ (r.moment j).reports = [] := ?_
    refine ⟨fun hzero => ?_, fun hnil => by rw [Drained.lastReport, hnil]; rfl⟩
    -- a number that was reported is not zero
    by_contra hne
    have hlast := (r.told j).positive _ (List.getLast_mem hne)
    rw [Drained.lastReport, List.getLast?_eq_some_getLast hne] at hzero
    exact absurd hzero hlast.ne'
  · have hskipped := hm.skipped
    refine ⟨hskipped, ?_⟩
    rw [hskipped, Nat.add_right_cancel_iff]
    exact sum_eq_last_iff (r.told i).positive

/-- Two searches that have ended, of one byte and of two, and one that has not. At
the end of the second, three bytes are reported. -/
theorem reports_total_thrice :
    let message : Octets := [3, 0, 0, 0, 6, 4]
    let garbage : Octets := List.replicate 7 255
    let acts : List Act :=
      [.op (.append ([255] ++ message ++ [255, 255] ++ message ++ garbage)), .op .decode,
        .op .decode, .op .decode]
    let s := Drained.performed 1000 acts
    s.reports = [1, 3] ∧ s.decoder.stats.skipped = 5 ∧
      (∃ m, s.decoder.stats.skipped = s.lastReport + m ∧
        s.reports.sum + m ≠ s.decoder.stats.skipped) ∧
      ∃ (r : Run 1000) (j k : Nat), r.Since j k ∧ r.ReturnsAt k 3 ∧
        0 < (r.moment k).decoder.stats.skipped - (r.moment j).decoder.stats.skipped ∧
        (r.moment (k + 1)).decoder.stats.skipped = 3 := by
  intro message garbage acts s
  have hs : s.reports = [1, 3] ∧ s.decoder.stats.skipped = 5 ∧ s.decoder.resyncing = true := by
    decide +kernel
  obtain ⟨hruns, htotals⟩ := reports_total 1000
  obtain ⟨r, i, hi⟩ : ∃ r : Run 1000, ∃ i, r.moment i = s := hruns acts
  clear_value s
  subst hi
  obtain ⟨j, since⟩ := between_iff.mpr hs.2.2
  obtain ⟨hskipped, hsum⟩ := (htotals r).2 i _ (.search since)
  obtain ⟨k, -, hreturns⟩ := exists_returnsAt (r := r) (i := i) (n := 3) (by simp [hs.1])
  obtain ⟨hcount, ⟨j', since'⟩, hown⟩ := (htotals r).1 k 3 hreturns
  refine ⟨hs.1, hs.2.1, ⟨_, hskipped, fun heq => ?_⟩, r, j', k, since', hreturns,
    (hown j' since').1, hcount.symm⟩
  have := hsum.mp heq
  simp [hs.1] at this

/-- **A report that is not of its own search.** Behind a message that was found behind one byte of
garbage, one more byte of garbage and one more message: two bytes are reported and one was skipped,
and the numbers reported add up to three, of two bytes that were skipped in all. -/
theorem second_report_not_own :
    let message : Octets := [3, 0, 0, 0, 6, 4]
    let fed : Act := .op (.append ([255] ++ message ++ [255] ++ message))
    let s := Drained.performed 1000 [fed, .op .decode]
    let t := Drained.performed 1000 [fed, .op .decode, .op .decode]
    s.decoder.resyncing = false ∧ t.decoder.resyncing = false ∧
      t.events = s.events ++ [.lostSync ([255] ++ message.take 5), .backInSync 2] ∧
      t.decoder.stats.skipped - s.decoder.stats.skipped = 1 ∧
      t.reports.sum ≠ t.decoder.stats.skipped := by
  decide +kernel

end Run

end Telemetry.Bmp.Decoder
