import Telemetry.Proofs.Sflow.Framing

/-!
Strict and lenient decoding.

Both modes read the same header and the same samples, up to the bytes in which no whole sample
begins, and fail alike there. They part only behind that: strict mode refuses such bytes, and a
number of samples other than the announced one, and lenient mode takes what there is.
-/

namespace Telemetry.Sflow

open Wire Reader

variable {d left : Octets} {header : Header} {samples : List Sample}

namespace Error

/-- The errors that say that a datagram does not hold exactly what it announces. -/
def isStrict : Error → Bool
  | trailingBytes _ | sampleCountMismatch .. => true
  | _ => false

def IsShared (e : Error) : Prop := e.isStrict = false

@[simp] lemma isShared_wire : AdmitsFaults IsShared := fun _ => rfl

@[simp] lemma isShared_inSample (e : Error) : IsShared e.inSample ↔ IsShared e := by
  cases e <;> rfl

end Error

open Error (IsShared)

@[simp] lemma DataFormat.failsOnly_read : FailsOnly DataFormat.read IsShared :=
  .bind (by simp) (by simp)

@[simp] lemma Tagged.failsOnly_read (form : Form) (shift : Nat) :
    FailsOnly (Tagged.read form shift) IsShared := by
  cases form with
  | compact => exact .bind (by simp) (by simp)
  | expanded => exact .bind (by simp) fun _ => .bind (by simp) (by simp)

@[simp] lemma FlowData.failsOnly_read (format : DataFormat) :
    FailsOnly (FlowData.read format) IsShared := by
  have hraw : FailsOnly RawHeader.read IsShared := by
    unfold RawHeader.read
    repeat' with_reducible refine .bind ?_ fun _ => ?_
    all_goals simp
  unfold FlowData.read
  split_ifs
  · exact hraw.bind (by simp)
  · exact .bind (by simp) (by simp)

@[simp] lemma CounterData.failsOnly_read (format : DataFormat) :
    FailsOnly (CounterData.read format) IsShared := by
  have hinterface : FailsOnly InterfaceCounters.read IsShared := by
    unfold InterfaceCounters.read
    repeat' with_reducible refine .bind ?_ fun _ => ?_
    all_goals simp
  unfold CounterData.read
  split_ifs
  · exact hinterface.bind (by simp)
  · exact .bind (by simp) (by simp)

lemma Record.failsOnly_readAll {δ : Type} {content : DataFormat → Reader Error δ}
    (h : ∀ format, FailsOnly (content format) IsShared) (part : String) :
    FailsOnly (Record.readAll part content) IsShared := by
  have hrecord : FailsOnly (Record.read part content) IsShared := by
    unfold Record.read
    repeat' with_reducible refine .bind ?_ fun _ => ?_
    all_goals simp [h]
  exact .bind (by simp) fun _ => hrecord.times _

@[simp] lemma Sample.failsOnly_readBody (format : DataFormat) :
    FailsOnly (Sample.readBody format) IsShared := by
  have hflow : ∀ form, FailsOnly (FlowSample.read form) IsShared := by
    intro form
    unfold FlowSample.read
    repeat' with_reducible refine .bind ?_ fun _ => ?_
    all_goals simp [Record.failsOnly_readAll]
  have hcounter : ∀ form, FailsOnly (CounterSample.read form) IsShared := by
    intro form
    unfold CounterSample.read
    repeat' with_reducible refine .bind ?_ fun _ => ?_
    all_goals simp [Record.failsOnly_readAll]
  unfold Sample.readBody
  dsimp only
  split
  · exact (hflow _).bind (by simp)
  · exact (hcounter _).bind (by simp)
  · exact (hflow _).bind (by simp)
  · exact (hcounter _).bind (by simp)
  · exact .bind (by simp) (by simp)

lemma Sample.failsOnly_readAll : FailsOnly Sample.readAll IsShared := by
  have hsample : FailsOnly Sample.read IsShared := by
    unfold Sample.read
    repeat' with_reducible refine .bind ?_ fun _ => ?_
    all_goals simp
  exact hsample.whileLeft _

lemma Header.failsOnly_read : FailsOnly Header.read IsShared := by
  unfold Header.read
  refine .bind (by simp) fun version => ?_
  split_ifs
  · exact failsOnly_fail rfl
  · refine .bind (by simp) fun type => ?_
    cases type <;> (repeat' with_reducible refine .bind ?_ fun _ => ?_) <;> simp

lemma Datagram.isStrict_of_check {e : Error} (h : Datagram.check header samples left = .error e) :
    e.isStrict = true := by
  unfold Datagram.check at h
  split_ifs at h <;> cases h <;> rfl

/-- What the modes make of a datagram whose samples all have a meaning. -/
lemma read_of_holds (h : Holds d header samples left) :
    (Datagram.read .lenient).run d = (.ok ⟨⟨header, samples⟩, left.length⟩, []) ∧
      (Datagram.read .strict).run d = match Datagram.check header samples left with
        | .ok () => (.ok ⟨⟨header, samples⟩, left.length⟩, [])
        | .error e => (.error e, left) := by
  obtain ⟨_, mid, hheader, hread⟩ := run_bind_ok.mp (run_readFront_ok.mpr h)
  obtain ⟨_, _, hsamples, hpure⟩ := run_bind_ok.mp hread
  obtain ⟨hpair, hleft⟩ := run_pure_ok.mp hpure
  cases hpair
  rw [hleft] at hsamples
  refine ⟨(run_bind_of_ok hheader).trans (run_bind_of_ok hsamples), ?_⟩
  refine (run_bind_of_ok hheader).trans ((run_bind_of_ok hsamples).trans ?_)
  have hrest : (Reader.rest : Reader Error Octets).run left = (.ok left, left) := rfl
  rw [run_bind_of_ok hrest]
  cases Datagram.check header samples left with
  | ok u => exact run_bind_of_ok rfl
  | error e => exact run_bind_of_error rfl

/-- Of the shared part both modes make the same. -/
lemma read_cases (d : Octets) :
    (∃ e rest, IsShared e ∧ ∀ mode, (Datagram.read mode).run d = (.error e, rest)) ∨
    ∃ header samples left, Holds d header samples left ∧
      (Datagram.read .lenient).run d = (.ok ⟨⟨header, samples⟩, left.length⟩, []) ∧
      (Datagram.read .strict).run d = match Datagram.check header samples left with
        | .ok () => (.ok ⟨⟨header, samples⟩, left.length⟩, [])
        | .error e => (.error e, left) := by
  rcases hheader : Header.read.run d with ⟨e | header, mid⟩
  · refine .inl ⟨e, mid, Header.failsOnly_read d e mid hheader, fun mode => ?_⟩
    exact run_bind_of_error hheader
  rcases hsamples : Sample.readAll.run mid with ⟨e | samples, left⟩
  · refine .inl ⟨e, left, Sample.failsOnly_readAll mid e left hsamples, fun mode => ?_⟩
    exact (run_bind_of_ok hheader).trans (run_bind_of_error hsamples)
  · have hholds : Holds d header samples left :=
      run_readFront_ok.mp ((run_bind_of_ok hheader).trans (run_bind_of_ok hsamples))
    exact .inr ⟨header, samples, left, hholds, read_of_holds hholds⟩

/-- **The modes agree wherever they should.** What strict mode accepts lenient mode accepts alike.
An error that does not say that the datagram holds something else than it announces is an error of
both modes, and lenient mode has no others. Where strict mode refuses trailing bytes, lenient mode
gives the samples in front of them, and no whole sample begins in those bytes; where it refuses the
number of samples, lenient mode gives another number than announced, and every byte is in a whole
sample. -/
theorem modes_agree (d : Octets) :
    let strict := (Datagram.read .strict).run d
    let lenient := (Datagram.read .lenient).run d
    (∀ p rest, strict = (.ok p, rest) → lenient = (.ok p, rest)) ∧
    (∀ e rest, strict = (.error e, rest) → e.isStrict = false → lenient = (.error e, rest)) ∧
    (∀ e rest, lenient = (.error e, rest) → strict = (.error e, rest)) ∧
    (∀ n rest, strict = (.error (.trailingBytes n), rest) →
      ∃ header samples left, lenient = (.ok ⟨⟨header, samples⟩, n⟩, []) ∧
        Holds d header samples left ∧ left ≠ [] ∧ left.length = n) ∧
    ∀ declared decoded rest, strict = (.error (.sampleCountMismatch declared decoded), rest) →
      ∃ header samples, lenient = (.ok ⟨⟨header, samples⟩, 0⟩, []) ∧
        Holds d header samples [] ∧ samples.length ≠ header.sampleCount.toNat ∧
        declared = header.sampleCount ∧ decoded = samples.length := by
  intro strict lenient
  rcases read_cases d with
    ⟨e, rest, hshared, hboth⟩ | ⟨header, samples, left, hholds, hlenient, hstrict⟩
  · have hs : strict = (.error e, rest) := hboth .strict
    have hl : lenient = (.error e, rest) := hboth .lenient
    rw [hs, hl]
    refine ⟨by simp, fun _ _ h _ => h, fun _ _ h => h, ?_, ?_⟩
    · intro n _ h
      cases h
      cases hshared
    · intro declared decoded _ h
      cases h
      cases hshared
  · have hl : lenient = _ := hlenient
    have hs : strict = _ := hstrict
    rw [hl, hs]
    cases hcheck : Datagram.check header samples left with
    | ok u => simp
    | error e =>
      refine ⟨by simp, ?_, by simp, ?_, ?_⟩
      · intro e' rest h hnot
        cases h
        rw [Datagram.isStrict_of_check hcheck] at hnot
        cases hnot
      · intro n rest h
        cases h
        obtain ⟨hleft, rfl⟩ := Datagram.check_eq_trailing.mp hcheck
        exact ⟨header, samples, left, rfl, hholds, hleft, rfl⟩
      · -- every byte is in a whole sample, and strict mode counts
        intro declared decoded rest h
        cases h
        obtain ⟨rfl, hcount, hdeclared, hdecoded⟩ := Datagram.check_eq_miscounted.mp hcheck
        exact ⟨header, samples, rfl, hholds, hcount, hdeclared, hdecoded⟩

end Telemetry.Sflow
