import Telemetry.Proofs.Bmp.RoundTrip
import Telemetry.Proofs.Wire.Growing

/-!
When more input could still make a message.

A message is incomplete when its header is, or when the header is valid and declares more bytes
than have come. This is when reading fails for want of bytes, and it never does otherwise: the
body is a slice of the declared length, and what a body lacks is its own fault. So every beginning
of a message asks for more, and an answer that has been given stays.
-/

namespace Telemetry.Bmp

open Wire Reader

variable {d content : Octets} {n k : Nat}

namespace Error

lemma isInsufficient_inBody (e : Error) : e.inBody.isInsufficient = false := by
  cases e with
  | wire f => exact f.isInsufficient_inSlice _
  | _ => rfl

def IsShort (e : Error) : Prop := e.isInsufficient = true

lemma admitsShort : AdmitsShort IsShort := fun _ _ => rfl

end Error

open Error

namespace CommonHeader

/-- The bytes begin with a valid header: version 3, a length that counts the header, and a known
type. The message has `n` bytes. -/
def Declares (d : Octets) (n : Nat) : Prop :=
  ∃ a b c e type content, d = 3 :: a :: b :: c :: e :: type :: content ∧
    Octets.value [a, b, c, e] = n ∧ commonHeaderLength ≤ n ∧
    ∃ t : MessageType, t.number = type.toNat

/-- The bytes end inside a header, and no field that is complete in them is invalid. -/
structure Unfinished (d : Octets) : Prop where
  few : d.length < commonHeaderLength
  version : ∀ v ∈ d.head?, v = 3
  length : 5 ≤ d.length → commonHeaderLength ≤ Octets.value ((d.drop 1).take 4)

lemma Declares.length_ge (h : Declares d n) : commonHeaderLength ≤ d.length := by
  obtain ⟨a, b, c, e, type, content, rfl, -⟩ := h
  simp [commonHeaderLength]

lemma Declares.counts (h : Declares d n) : commonHeaderLength ≤ n := by
  obtain ⟨a, b, c, e, type, content, -, -, hcounts, -⟩ := h
  exact hcounts

/-- The written form of a header that counts itself is what declares the length. -/
lemma declares_encode {h : CommonHeader} (counts : h.CountsItself) :
    Declares (h.encode ++ content) h.length.toNat := by
  obtain ⟨version, length, type⟩ := h
  obtain ⟨a, b, c, e, hfield⟩ : ∃ a b c e, Octets.ofUInt32 length = [a, b, c, e] :=
    ⟨_, _, _, _, rfl⟩
  have hversion : Octets.ofNat 1 (Code.number version) = [3] := by cases version; rfl
  refine ⟨a, b, c, e, UInt8.ofNat type.number, content, ?_, ?_, counts, type, ?_⟩
  · rw [encode, hversion, hfield]
    rfl
  · rw [← hfield, Octets.value_ofUInt32]
  · cases type <;> rfl

lemma Declares.exists_encode (h : Declares d n) :
    ∃ (header : CommonHeader) (content : Octets), header.CountsItself ∧
      header.length.toNat = n ∧ d = header.encode ++ content := by
  obtain ⟨a, b, c, e, type, content, rfl, hvalue, hcounts, t, ht⟩ := h
  have hlt : Octets.value [a, b, c, e] < 256 ^ 4 := Octets.value_lt _
  rw [hvalue] at hlt
  have hlength : (UInt32.ofNat n).toNat = n := UInt32.toNat_ofNat_of_lt' hlt
  refine ⟨⟨.bmp3, UInt32.ofNat n, t⟩, content, ?_, hlength, ?_⟩
  · rwa [CountsItself, hlength]
  · have hfield : Octets.ofUInt32 (UInt32.ofNat n) = [a, b, c, e] := by
      rw [← hvalue, Octets.ofUInt32_value rfl]
    have htype : Octets.ofNat 1 t.number = [type] := by rw [ht, Octets.ofNat_one]
    rw [encode, hfield, htype]
    rfl

/-- Bytes that stop inside a valid header are the beginning of one. -/
lemma Declares.unfinished_take (h : Declares d n) (hk : k < commonHeaderLength) :
    Unfinished (d.take k) := by
  have hd : k ≤ d.length := Nat.le_trans (Nat.le_of_lt hk) h.length_ge
  have hlength : (d.take k).length = k := by simp [hd]
  obtain ⟨a, b, c, e, type, content, rfl, hvalue, hcounts, -⟩ := h
  refine ⟨by rwa [hlength], fun v hv => ?_, fun hfive => ?_⟩
  · cases k with
    | zero => simp at hv
    | succ k => simpa using hv.symm
  · obtain rfl : k = 5 := by
      rw [hlength] at hfive
      exact Nat.le_antisymm (Nat.le_of_lt_succ hk) hfive
    simpa [hvalue] using hcounts

lemma Declares.take (h : Declares d n) (hk : commonHeaderLength ≤ k) : Declares (d.take k) n := by
  obtain ⟨a, b, c, e, type, content, rfl, hvalue, hcounts, htype⟩ := h
  obtain ⟨j, rfl⟩ := Nat.exists_eq_add_of_le hk
  refine ⟨a, b, c, e, type, content.take j, ?_, hvalue, hcounts, htype⟩
  rw [commonHeaderLength, Nat.add_comm]
  rfl

/-! ### Reading a header -/

/-- Behind the version stand the length and the type. -/
lemma run_read_behind (d : Octets) :
    read.run (3 :: d) = (do
      let length ← u32
      if length.toNat < commonHeaderLength then fail (.invalidMessageLength length)
      else
        let type ← code MessageType 1
        return ⟨.bmp3, length, type⟩ : Reader Error CommonHeader).run d :=
  run_bind_of_ok (run_u8_ok.mpr rfl)

lemma run_read_version {v : UInt8} (hv : v ≠ 3) (d : Octets) :
    read.run (v :: d) = (.error (.unsupportedVersion v), d) := by
  have hunknown : (Code.ofNumber? v.toNat : Option Version) = none := by
    cases h : (Code.ofNumber? v.toNat : Option Version) with
    | none => rfl
    | some version =>
      cases version
      exact absurd (UInt8.toNat_inj.mp (Code.number_of_ofNumber? h).symm) hv
  rw [read, run_bind_of_ok (run_u8_ok.mpr rfl), hunknown]
  rfl

lemma steady_read : Steady read IsShort := by
  refine (steady_u8 admitsShort).bind fun number => ?_
  split
  · exact steady_fail _
  · refine (steady_u32 admitsShort).bind fun length => ?_
    split_ifs
    · exact steady_fail _
    · exact (steady_code admitsShort 1).bind fun _ => steady_pure _

/-- Reading a header fails for want of bytes exactly when the header is unfinished. -/
lemma failsShort_iff (d : Octets) : FailsShort read IsShort d ↔ Unfinished d := by
  rcases d with _ | ⟨v, d⟩
  · exact iff_of_true (((failsShort_u8_iff admitsShort).mpr (by decide)).bind _)
      ⟨by decide, by simp, by simp⟩
  by_cases hv : v = 3
  case neg =>
    refine iff_of_false ?_ fun hu => hv (hu.version v rfl)
    rintro ⟨e, he, hshort⟩
    rw [run_read_version hv] at he
    cases he
    cases hshort
  subst hv
  rw [FailsShort, run_read_behind, ← FailsShort]
  rcases Nat.lt_or_ge d.length 4 with few | enough
  · refine iff_of_true (((failsShort_u32_iff admitsShort).mpr few).bind _) ⟨?_, by simp, ?_⟩
    · simp only [List.length_cons, commonHeaderLength]
      omega
    · simp only [List.length_cons]
      omega
  obtain ⟨a, b, c, e, d, rfl⟩ : ∃ a b c e rest, d = a :: b :: c :: e :: rest := by
    rcases d with _ | ⟨a, _ | ⟨b, _ | ⟨c, _ | ⟨e, d⟩⟩⟩⟩
    all_goals first
      | exact ⟨a, b, c, e, d, rfl⟩
      | simp at enough
  have hlength : (u32 : Reader Error UInt32).run (a :: b :: c :: e :: d) =
      (.ok (UInt32.ofNat (Octets.value [a, b, c, e])), d) := by
    rw [run_u32_ok, Octets.ofUInt32_value rfl]
    rfl
  have hlt : Octets.value [a, b, c, e] < 256 ^ 4 := Octets.value_lt _
  rw [failsShort_bind_of_ok hlength, UInt32.toNat_ofNat_of_lt' hlt]
  split_ifs with hcounts
  · -- the length is there, and impossible
    rw [failsShort_fail_iff]
    exact iff_of_false (by simp [IsShort, isInsufficient]) fun hu =>
      absurd (hu.length (by simp)) (Nat.not_le.mpr hcounts)
  · rw [failsShort_wrap_iff, failsShort_code_iff admitsShort fun n h => by cases h]
    refine ⟨fun few => ⟨?_, by simp, fun _ => Nat.not_lt.mp hcounts⟩, fun hu => ?_⟩
    · simp only [List.length_cons, commonHeaderLength]
      omega
    · have := hu.few
      simp only [List.length_cons, commonHeaderLength] at this
      omega

end CommonHeader

namespace Packet

open CommonHeader

variable {p : Packet} {rest : Octets}

def Insufficient (d : Octets) : Prop := ∃ e, (read.run d).1 = .error e ∧ e.isInsufficient = true

/-- What is made of a body that has been cut off. -/
def ofBody (header : CommonHeader) (body : Octets) : Reader Error Packet := do
  let (message, left) ←
    Reader.inside (Reader.mapError Error.inBody (Message.read header.type)) body
  if left.isEmpty then return ⟨header.version, header.length, header.type, message⟩
  else Reader.fail (.lengthMismatch header.length (header.length.toNat - left.length))

lemma read_eq : read = (do
    let header ← CommonHeader.read
    let body ← Reader.take (header.length.toNat - commonHeaderLength)
    ofBody header body : Reader Error Packet) := rfl

lemma settled_ofBody (header : CommonHeader) (body : Octets) :
    Settled (ofBody header body) IsShort := by
  refine (settled_inside fun e he hshort => ?_).bind fun answer => ?_
  · rcases h : (Message.read header.type) body with ⟨e' | message, left⟩
    · simp only [run, mapError, h] at he
      cases he
      rw [IsShort, isInsufficient_inBody] at hshort
      cases hshort
    · simp [run, mapError, h] at he
  · dsimp only
    split_ifs
    · exact settled_pure _
    · exact settled_fail (by simp [IsShort, isInsufficient])

lemma steady_read : Steady read IsShort := by
  rw [read_eq]
  exact CommonHeader.steady_read.bind fun header =>
    (steady_take admitsShort _).bind fun body => (settled_ofBody header body).steady

lemma insufficient_of_unfinished (h : Unfinished d) : Insufficient d :=
  ((failsShort_iff d).mpr h).bind _

/-- What is left to read behind a header. -/
lemma run_read_declared {header : CommonHeader} (counts : header.CountsItself) :
    read.run (header.encode ++ content) = (do
      let body ← Reader.take (header.length.toNat - commonHeaderLength)
      ofBody header body : Reader Error Packet).run content :=
  run_bind_of_ok ((CommonHeader.read_exact _ _ _).mpr ⟨counts, rfl⟩)

lemma insufficient_of_declares (h : Declares d n) (few : d.length < n) : Insufficient d := by
  obtain ⟨header, content, counts, rfl, rfl⟩ := h.exists_encode
  have hcontent : content.length < header.length.toNat - commonHeaderLength := by
    rw [List.length_append, CommonHeader.length_encode] at few
    omega
  rw [Insufficient, run_read_declared counts]
  exact ((failsShort_take_iff admitsShort).mpr hcontent).bind _

/-- The declared length is enough, and is all that is consumed. -/
lemma run_read_whole (h : Declares d n) (whole : d.length = n) :
    ¬ Insufficient d ∧ (read.run d).2 = [] := by
  obtain ⟨header, content, counts, rfl, rfl⟩ := h.exists_encode
  have hcontent : content.length = header.length.toNat - commonHeaderLength := by
    rw [List.length_append, CommonHeader.length_encode] at whole
    omega
  have htake : (Reader.take (header.length.toNat - commonHeaderLength) :
      Reader Error Octets).run content = (.ok content, []) :=
    run_take_ok.mpr ⟨hcontent, by simp⟩
  rw [Insufficient, run_read_declared counts, run_bind_of_ok htake]
  have hsettled := settled_ofBody header content
  exact ⟨hsettled.not_failsShort [], hsettled.run_snd []⟩

lemma run_read_append (h : ¬ Insufficient d) (more : Octets) :
    read.run (d ++ more) = ((read.run d).1, (read.run d).2 ++ more) :=
  (steady_read d more).resolve_left h

/-- Once the declared length is there, the bytes up to it give the answer, and those behind it are
left. -/
lemma run_read_take (h : Declares d n) (enough : n ≤ d.length) :
    ¬ Insufficient d ∧ ∀ more, read.run (d.take n ++ more) = ((read.run d).1, more) := by
  obtain ⟨hanswer, hleft⟩ := run_read_whole (h.take h.counts) (by simp [enough])
  have hmore := run_read_append hanswer
  have hd : (read.run d).1 = (read.run (d.take n)).1 := by
    rw [← List.take_append_drop n d, hmore, List.take_append_drop]
  refine ⟨?_, fun more => ?_⟩
  · rwa [Insufficient, hd]
  · rw [hmore, hleft, hd, List.nil_append]

/-- A header that is neither unfinished nor refused declares a length. -/
lemma exists_declares (h : Insufficient d) (hu : ¬ Unfinished d) : ∃ n, Declares d n := by
  rw [← failsShort_iff] at hu
  rcases hrun : CommonHeader.read.run d with ⟨e | header, content⟩
  · obtain ⟨e', he, hshort⟩ := h
    rw [read, run_bind_of_error hrun] at he
    cases he
    exact absurd ⟨e, by rw [hrun], hshort⟩ hu
  · obtain ⟨counts, rfl⟩ := (CommonHeader.read_exact _ _ _).mp hrun
    exact ⟨_, declares_encode counts⟩

/-- Reading asks for more exactly when the header, or what it declares, is not all there. -/
lemma insufficient_iff (d : Octets) :
    Insufficient d ↔ Unfinished d ∨ ∃ n, Declares d n ∧ d.length < n := by
  refine ⟨fun h => ?_, ?_⟩
  · by_cases hu : Unfinished d
    · exact .inl hu
    · obtain ⟨n, hn⟩ := exists_declares h hu
      exact .inr ⟨n, hn, Nat.lt_of_not_le fun enough => (run_read_take hn enough).1 h⟩
  · rintro (h | ⟨n, h, few⟩)
    · exact insufficient_of_unfinished h
    · exact insufficient_of_declares h few

lemma insufficient_take (h : Declares d n) (enough : n ≤ d.length) (hk : k < n) :
    Insufficient (d.take k) := by
  rcases Nat.lt_or_ge k commonHeaderLength with few | hheader
  · exact insufficient_of_unfinished (h.unfinished_take few)
  · refine insufficient_of_declares (h.take hheader) ?_
    rw [List.length_take]
    omega

/-- **More bytes are asked for exactly while a message is incomplete.** That is the case while the
header is unfinished, or is valid and declares more bytes than are there. Once they are there, the
answer is that of the declared bytes and no others, and the bytes behind them are left, whether the
answer is a packet or an error. So every beginning of a message that is accepted asks for more, and
an answer that does not ask for more stays when more bytes come. -/
theorem insufficient_exactly (d : Octets) :
    (Insufficient d ↔ Unfinished d ∨ ∃ n, Declares d n ∧ d.length < n) ∧
      (∀ n, Declares d n → n ≤ d.length →
        ∀ more, read.run (d.take n ++ more) = ((read.run d).1, more)) ∧
      (∀ p rest, read.run d = (.ok p, rest) → ∀ k < p.length.toNat, Insufficient (d.take k)) ∧
      (¬ Insufficient d →
        ∀ more, read.run (d ++ more) = ((read.run d).1, (read.run d).2 ++ more)) := by
  refine ⟨insufficient_iff d, fun n h enough => (run_read_take h enough).2, ?_, run_read_append⟩
  intro p rest hrun k hk
  obtain ⟨hcounts, body, rfl, hlength, -⟩ := run_read_ok.mp hrun
  have hdeclares : Declares
      (CommonHeader.encode ⟨p.version, p.length, p.type⟩ ++ (body ++ rest)) p.length.toNat :=
    declares_encode hcounts
  refine insufficient_take hdeclares ?_ hk
  simp only [List.length_append, CommonHeader.length_encode]
  omega

/-- A message without content, and the beginning of the next one behind it. -/
theorem insufficient_exactly_initiation :
    let d : Octets := [3, 0, 0, 0, 6, 4, 3, 0]
    let p : Packet := ⟨.bmp3, 6, .initiationMessage, .initiation []⟩
    read.run d = (.ok p, [3, 0]) ∧ (∀ k < 6, Insufficient (d.take k)) ∧
      read.run [3, 0, 0, 0, 6, 4, 7] = (.ok p, [7]) ∧
      read.run (d ++ [7]) = (.ok p, [3, 0, 7]) := by
  intro d p
  have hrun : read.run d = (.ok p, [3, 0]) := by decide +kernel
  have hdeclares : Declares d 6 := ⟨0, 0, 0, 6, 4, [3, 0], rfl, rfl, by decide,
    .initiationMessage, rfl⟩
  obtain ⟨-, hfirst, hbeginnings, hmore⟩ := insufficient_exactly d
  have hd : ¬ Insufficient d := by
    rintro ⟨e, he, -⟩
    rw [hrun] at he
    cases he
  refine ⟨hrun, hbeginnings p [3, 0] hrun, ?_, ?_⟩
  · have h := hfirst 6 hdeclares (by decide) [7]
    rwa [hrun] at h
  · rw [hmore hd, hrun]
    rfl

end Packet

end Telemetry.Bmp
