import Telemetry.Netflow.Packet
import Telemetry.Proofs.Wire.Loops

/-!
Where each byte of a data flowset goes.

The records of a flowset can be cut by a loop that knows no positions: as long as a whole record is
left, it reads scope after scope and field after field, each with the length that the template
gives it. Any of these reads could fail. None does, since the lengths add up to what the loop has
made sure of; so each round takes exactly one record, and position and length of every value are
known beforehand.
-/

namespace Telemetry

def Octets.slice (bs : Octets) (start length : Nat) : Octets := (bs.drop start).take length

namespace Wire.Reader

variable {ε α γ : Type}

def each (item : γ → Reader ε α) : List γ → Reader ε (List α)
  | [] => return []
  | c :: cs => do
    let a ← item c
    return a :: (← each item cs)

end Wire.Reader

namespace Netflow

open Wire Reader

variable {bs : Octets}

/-! ### Values -/

namespace FieldKind

/-- Whether a kind can take bytes of this number. -/
def suits (kind : FieldKind) (length : Nat) : Bool :=
  match kind with
  | unsigned => 1 ≤ length ∧ length ≤ 8
  | ipv4 => length = 4
  | ipv6 => length = 16
  | mac => length = 6
  | text => true
  | raw => false

end FieldKind

namespace FlowValue

/-- What a value of a kind has to do with the bytes of its field. -/
inductive Spelled : FieldKind → Octets → FlowValue → Prop where
  | unsigned {bs : Octets} {n : UInt64} (width : 1 ≤ bs.length ∧ bs.length ≤ 8)
    (value : n.toNat = Octets.value bs) : Spelled .unsigned bs (.unsigned n)
  | ipv4 (a : Ipv4) : Spelled .ipv4 a.octets (.ipv4 a)
  | ipv6 (a : Ipv6) : Spelled .ipv6 a.octets (.ipv6 a)
  | mac (a : Mac) : Spelled .mac a.octets (.mac a)
  /-- What is decoded is the text and zeros behind it, all that there are. -/
  | text {bs : Octets} {s : String} (zeros : Nat)
    (decoded : (Text.Utf8.decode bs).toList = s.toList ++ List.replicate zeros '\x00')
    (last : s.toList.getLast? ≠ some '\x00') : Spelled .text bs (.text s)
  | kept {kind : FieldKind} {bs : Octets} (unsuited : kind.suits bs.length = false) :
    Spelled kind bs (.bytes bs)

lemma toNat_ofNat_value (few : bs.length ≤ 8) :
    (UInt64.ofNat (Octets.value bs)).toNat = Octets.value bs := by
  refine UInt64.toNat_ofNat_of_lt' ((Octets.value_lt bs).trans_le ?_)
  calc 256 ^ bs.length ≤ 256 ^ 8 := Nat.pow_le_pow_right (by decide) few
    _ = UInt64.size := by decide

/-- A text is trimmed of all zeros at its end, and of nothing else. -/
lemma exists_trimmed (s : String) :
    ∃ zeros, s.toList = (trimmed s).toList ++ List.replicate zeros '\x00' ∧
      (trimmed s).toList.getLast? ≠ some '\x00' := by
  have htrimmed : (trimmed s).toList = (s.toList.reverse.dropWhile (· == '\x00')).reverse := by
    rw [trimmed, String.toList_ofList]
  have hzeros : s.toList.reverse.takeWhile (· == '\x00') =
      List.replicate (s.toList.reverse.takeWhile (· == '\x00')).length '\x00' := by
    refine List.eq_replicate_of_mem fun c hc => ?_
    simpa using List.mem_takeWhile_imp hc
  refine ⟨(s.toList.reverse.takeWhile (· == '\x00')).length, ?_, ?_⟩
  · calc s.toList = (s.toList.reverse.takeWhile (· == '\x00') ++
          s.toList.reverse.dropWhile (· == '\x00')).reverse := by
          rw [List.takeWhile_append_dropWhile, List.reverse_reverse]
      _ = (trimmed s).toList ++ List.replicate _ '\x00' := by
          rw [List.reverse_append, hzeros, List.reverse_replicate, htrimmed, List.length_replicate]
  · rw [htrimmed, List.getLast?_reverse]
    intro hfirst
    have := List.head?_dropWhile_not (· == '\x00') s.toList.reverse
    simp [hfirst] at this

/-- A block of the bytes, or the bytes themselves where they make none. -/
def ofBlock {n : Nat} (wrap : Block n → FlowValue) (bs : Octets) : FlowValue :=
  (Block.ofOctets? n bs).elim (bytes bs) wrap

lemma ofKind_ipv4 (bs : Octets) : ofKind .ipv4 bs = ofBlock ipv4 bs := by
  rw [ofKind, ofBlock]
  cases Block.ofOctets? 4 bs <;> rfl

lemma ofKind_ipv6 (bs : Octets) : ofKind .ipv6 bs = ofBlock ipv6 bs := by
  rw [ofKind, ofBlock]
  cases Block.ofOctets? 16 bs <;> rfl

lemma ofKind_mac (bs : Octets) : ofKind .mac bs = ofBlock mac bs := by
  rw [ofKind, ofBlock]
  cases Block.ofOctets? 6 bs <;> rfl

lemma spelled_ofBlock {n : Nat} {kind : FieldKind} {wrap : Block n → FlowValue}
    (suits : ∀ length, kind.suits length = decide (length = n))
    (spelled : ∀ a : Block n, Spelled kind a.octets (wrap a)) (bs : Octets) :
    Spelled kind bs (ofBlock wrap bs) := by
  unfold ofBlock Block.ofOctets?
  split_ifs with hlength
  · exact spelled ⟨bs, hlength⟩
  · exact .kept ((suits _).trans (decide_eq_false hlength))

/-- The value of a kind is spelled by its bytes, whatever bytes these are. -/
lemma spelled_ofKind (kind : FieldKind) (bs : Octets) : Spelled kind bs (ofKind kind bs) := by
  cases kind with
  | unsigned =>
    rw [ofKind]
    split_ifs with hwidth
    · exact .unsigned hwidth (toNat_ofNat_value hwidth.2)
    · exact .kept (by simpa [FieldKind.suits] using hwidth)
  | ipv4 => exact ofKind_ipv4 bs ▸ spelled_ofBlock (fun _ => rfl) .ipv4 bs
  | ipv6 => exact ofKind_ipv6 bs ▸ spelled_ofBlock (fun _ => rfl) .ipv6 bs
  | mac => exact ofKind_mac bs ▸ spelled_ofBlock (fun _ => rfl) .mac bs
  | text =>
    obtain ⟨zeros, hdecoded, hlast⟩ := exists_trimmed (Text.Utf8.decode bs)
    exact .text zeros hdecoded hlast
  | raw => exact .kept rfl

/-! #### Read from the bytes -/

def readBlock (n : Nat) (wrap : Block n → FlowValue) : Reader Error FlowValue := do
  if (← Reader.rest).length = n then return wrap (← block n)
  else return bytes (← all)

/-- A value of all the bytes that are left, with the read that suits its kind and their number. -/
def read (kind : FieldKind) : Reader Error FlowValue := do
  let length := (← Reader.rest).length
  match kind with
  | .unsigned =>
    if 1 ≤ length ∧ length ≤ 8 then return unsigned (UInt64.ofNat (← nat length))
    else return bytes (← all)
  | .ipv4 => readBlock 4 ipv4
  | .ipv6 => readBlock 16 ipv6
  | .mac => readBlock 6 mac
  | .text => return text (trimmed (Text.Utf8.decode (← take length)))
  | .raw => return bytes (← all)

lemma run_bind_rest {α : Type} {f : Octets → Reader Error α} :
    ((Reader.rest : Reader Error Octets) >>= f).run bs = (f bs).run bs := rfl

lemma run_readBlock {n : Nat} (wrap : Block n → FlowValue) :
    (readBlock n wrap).run bs = (.ok (ofBlock wrap bs), []) := by
  rw [readBlock, run_bind_rest, ofBlock, Block.ofOctets?]
  split_ifs with hlength
  · have hblock : (block n : Reader Error (Block n)).run bs = (.ok ⟨bs, hlength⟩, []) :=
      run_block_ok.mpr (List.append_nil bs).symm
    exact run_bind_of_ok hblock
  · rfl

lemma run_read (kind : FieldKind) : (read kind).run bs = (.ok (ofKind kind bs), []) := by
  have hall : (take bs.length : Reader Error Octets).run bs = (.ok bs, []) :=
    run_take_ok.mpr ⟨rfl, (List.append_nil bs).symm⟩
  rw [read, run_bind_rest]
  cases kind with
  | unsigned =>
    rw [ofKind]
    dsimp only
    split_ifs
    · exact run_bind_of_ok (run_bind_of_ok hall)
    · rfl
  | ipv4 => exact ofKind_ipv4 bs ▸ run_readBlock ipv4
  | ipv6 => exact ofKind_ipv6 bs ▸ run_readBlock ipv6
  | mac => exact ofKind_mac bs ▸ run_readBlock mac
  | text => exact run_bind_of_ok hall
  | raw => rfl

end FlowValue

/-! ### Pieces -/

lemma length_pieces (ns : List Nat) (bs : Octets) : (pieces ns bs).length = ns.length := by
  induction ns generalizing bs with
  | nil => rfl
  | cons n ns ih => rw [pieces, List.length_cons, ih, List.length_cons]

lemma pieces_append (ms ns : List Nat) (bs : Octets) :
    pieces (ms ++ ns) bs = pieces ms bs ++ pieces ns (bs.drop ms.sum) := by
  induction ms generalizing bs with
  | nil => rfl
  | cons m ms ih => rw [List.cons_append, pieces, pieces, ih, List.drop_drop, List.sum_cons,
      List.cons_append]

lemma pieces_take {ns : List Nat} {n : Nat} (enough : ns.sum ≤ n) (bs : Octets) :
    pieces ns (bs.take n) = pieces ns bs := by
  induction ns generalizing n bs with
  | nil => rfl
  | cons m ns ih =>
    rw [List.sum_cons] at enough
    rw [pieces, pieces, List.take_take, Nat.min_eq_left (by omega), List.drop_take,
      ih (by omega)]

/-- A piece begins where those in front of it end. -/
lemma getElem?_pieces (ns : List Nat) (bs : Octets) (j : Nat) :
    (pieces ns bs)[j]? = ns[j]?.map fun n => bs.slice (ns.take j).sum n := by
  induction ns generalizing bs j with
  | nil => rfl
  | cons m ns ih =>
    cases j with
    | zero => rfl
    | succ j => simp [pieces, ih, Octets.slice, List.drop_drop]

/-! ### One record -/

namespace Template

def readScope (s : ScopeSpec) : Reader Error (ScopeType × Octets) := do
  return (s.scope, ← take s.length.toNat)

def readFlow (f : FieldSpec) : Reader Error Flow := do
  let slice ← take f.length.toNat
  let (value, _) ← inside (FlowValue.read f.field.kind) slice
  return ⟨f.field, value⟩

def readRecord (t : Template) : Reader Error DataRecord := do
  let scopes ← each readScope t.scopes
  let flows ← each readFlow t.fields
  return ⟨scopes, flows⟩

/-- Items that each take a known number of bytes take the pieces of these lengths. -/
lemma run_each {α γ : Type} {item : γ → Reader Error α} {length : γ → Nat}
    (value : γ → Octets → α)
    (reads : ∀ c bs, length c ≤ bs.length →
      (item c).run bs = (.ok (value c (bs.take (length c))), bs.drop (length c)))
    (cs : List γ) {bs : Octets} (enough : (cs.map length).sum ≤ bs.length) :
    (each item cs).run bs =
      (.ok (List.zipWith value cs (pieces (cs.map length) bs)), bs.drop (cs.map length).sum) := by
  induction cs generalizing bs with
  | nil => rfl
  | cons c cs ih =>
    rw [List.map_cons, List.sum_cons] at enough ⊢
    have hrest : (cs.map length).sum ≤ (bs.drop (length c)).length := by
      rw [List.length_drop]
      omega
    rw [each, run_bind_of_ok (reads c bs (by omega)), run_bind_of_ok (ih hrest), List.drop_drop]
    rfl

lemma run_readScope (s : ScopeSpec) (bs : Octets) (enough : s.length.toNat ≤ bs.length) :
    (readScope s).run bs = (.ok (s.scope, bs.take s.length.toNat), bs.drop s.length.toNat) := by
  have htake : (take s.length.toNat : Reader Error Octets).run bs =
      (.ok (bs.take s.length.toNat), bs.drop s.length.toNat) :=
    run_take_ok.mpr ⟨List.length_take_of_le enough, (List.take_append_drop _ _).symm⟩
  exact run_bind_of_ok htake

lemma run_readFlow (f : FieldSpec) (bs : Octets) (enough : f.length.toNat ≤ bs.length) :
    (readFlow f).run bs =
      (.ok ⟨f.field, FlowValue.ofKind f.field.kind (bs.take f.length.toNat)⟩,
        bs.drop f.length.toNat) := by
  have htake : (take f.length.toNat : Reader Error Octets).run bs =
      (.ok (bs.take f.length.toNat), bs.drop f.length.toNat) :=
    run_take_ok.mpr ⟨List.length_take_of_le enough, (List.take_append_drop _ _).symm⟩
  rw [readFlow, run_bind_of_ok htake,
    run_bind_of_ok (run_inside_ok.mpr ⟨FlowValue.run_read f.field.kind, rfl⟩)]
  rfl

variable {t : Template}

lemma recordLength_eq_sum (t : Template) : t.recordLength = t.lengths.sum := rfl

/-- The parts of a record, cut from bytes of which there may be more. -/
lemma record_take (t : Template) (bs : Octets) : t.record (bs.take t.recordLength) =
    ⟨List.zipWith (fun s part => (s.scope, part)) t.scopes
        (pieces (t.scopes.map (·.length.toNat)) bs),
      List.zipWith (fun f part => ⟨f.field, FlowValue.ofKind f.field.kind part⟩) t.fields
        (pieces (t.fields.map (·.length.toNat))
          (bs.drop (t.scopes.map (·.length.toNat)).sum))⟩ := by
  have hscopes : (pieces (t.scopes.map (·.length.toNat)) bs).length = t.scopes.length := by
    rw [length_pieces, List.length_map]
  rw [record, pieces_take (Nat.le_of_eq t.recordLength_eq_sum.symm), lengths, pieces_append,
    List.drop_left' hscopes]
  congr 1
  have hfront := @List.zipWith_append _ _ _ (fun (s : ScopeSpec) (part : Octets) => (s.scope, part))
    t.scopes [] _ (pieces (t.fields.map (·.length.toNat))
      (bs.drop (t.scopes.map (·.length.toNat)).sum)) hscopes.symm
  simpa using hfront

/-- Where a whole record is left, reading it cannot fail, and takes the record and no more. -/
lemma run_readRecord (enough : t.recordLength ≤ bs.length) :
    t.readRecord.run bs = (.ok (t.record (bs.take t.recordLength)), bs.drop t.recordLength) := by
  have hsum : t.recordLength = (t.scopes.map (·.length.toNat)).sum +
      (t.fields.map (·.length.toNat)).sum := by
    rw [recordLength_eq_sum, lengths, List.sum_append]
  have hfields : (t.fields.map (·.length.toNat)).sum ≤
      (bs.drop (t.scopes.map (·.length.toNat)).sum).length := by
    rw [List.length_drop]
    omega
  have hscopes : (t.scopes.map (·.length.toNat)).sum ≤ bs.length := by omega
  have hreadScopes := run_each (fun s part => (s.scope, part)) run_readScope t.scopes hscopes
  have hreadFields := run_each (fun f part => (⟨f.field, .ofKind f.field.kind part⟩ : Flow))
    run_readFlow t.fields hfields
  rw [readRecord, run_bind_of_ok hreadScopes, run_bind_of_ok hreadFields, List.drop_drop, ← hsum,
    record_take]
  rfl

/-! ### All records -/

/-- The loop: records, as long as a whole one is left. -/
def RecordLoop (t : Template) : List DataRecord → Octets → Gathered Error DataRecord → Prop :=
  Loops (Octets.holds t.recordLength) t.readRecord

lemma recordsInto_eq (t : Template) (length n : Nat) (found : List DataRecord) (bs : Octets) :
    recordsInto t length n found bs =
      found.reverse ++ (List.range n).map fun i => t.record (bs.slice (i * length) length) := by
  induction n generalizing found bs with
  | zero => simp [recordsInto]
  | succ n ih =>
    rw [recordsInto, ih, List.range_succ_eq_map]
    simp [Octets.slice, List.drop_drop, Nat.add_mul, Nat.add_comm]

lemma recordLoop_into (t : Template) {n : Nat} (found : List DataRecord) {bs : Octets}
    (enough : n * t.recordLength ≤ bs.length) (few : bs.length < (n + 1) * t.recordLength) :
    t.RecordLoop found bs
      ⟨recordsInto t t.recordLength n found bs, none, bs.drop (n * t.recordLength)⟩ := by
  induction n generalizing found bs with
  | zero =>
    rw [Nat.zero_mul, List.drop_zero]
    refine .ended (Bool.eq_false_iff.mpr fun h => ?_)
    have := Octets.holds_iff.mp h
    omega
  | succ n ih =>
    rw [Nat.succ_mul] at enough
    rw [Nat.succ_mul] at few
    have hone : t.recordLength ≤ bs.length := by omega
    have hmany : n * t.recordLength ≤ (bs.drop t.recordLength).length := by
      rw [List.length_drop]
      omega
    have hfew : (bs.drop t.recordLength).length < (n + 1) * t.recordLength := by
      rw [List.length_drop]
      omega
    have hlater := ih (t.record (bs.take t.recordLength) :: found) hmany hfew
    rw [List.drop_drop, Nat.add_comm, ← Nat.succ_mul] at hlater
    exact .round (Octets.holds_iff.mpr hone) (run_readRecord hone) hlater

lemma recordLoop_records (nonempty : 1 ≤ t.recordLength) (bs : Octets) :
    t.RecordLoop [] bs
      ⟨t.records bs, none, bs.drop (bs.length / t.recordLength * t.recordLength)⟩ := by
  refine recordLoop_into t [] (Nat.div_mul_le_self _ _) ?_
  rw [Nat.mul_comm]
  exact Nat.lt_mul_div_succ bs.length nonempty

lemma not_recordLoop_of_empty (empty : t.recordLength = 0) (found : List DataRecord) (bs : Octets)
    (g : Gathered Error DataRecord) : ¬ t.RecordLoop found bs g := by
  have hrun : t.readRecord.run bs = _ := run_readRecord (by omega)
  rw [empty, List.drop_zero] at hrun
  exact not_loops_of_still (Octets.holds_iff.mpr (by omega)) hrun found g

/-! ### Positions -/

/-- How far behind the beginning of a record its `j`th part begins, scopes in front of fields. -/
def offset (t : Template) (j : Nat) : Nat := (t.lengths.take j).sum

lemma slice_drop (bs : Octets) (start first length : Nat) :
    Octets.slice (bs.drop start) first length = bs.slice (start + first) length := by
  rw [Octets.slice, Octets.slice, List.drop_drop]

lemma length_records (t : Template) (bs : Octets) :
    (t.records bs).length = bs.length / t.recordLength := by
  simp [records, recordsInto_eq]

lemma getElem?_records {i : Nat} (h : i < bs.length / t.recordLength) :
    (t.records bs)[i]? = some (t.record ((bs.drop (i * t.recordLength)).take t.recordLength)) := by
  simp [records, recordsInto_eq, h, Octets.slice]

lemma offset_add_le {j n : Nat} (h : t.lengths[j]? = some n) :
    t.offset j + n ≤ t.recordLength := by
  obtain ⟨hj, rfl⟩ := List.getElem?_eq_some_iff.mp h
  have hsum := congrArg List.sum (List.take_append_drop (j + 1) t.lengths)
  rw [List.sum_append, List.sum_take_succ _ _ hj] at hsum
  rw [offset, recordLength_eq_sum]
  omega

lemma lengths_scope {j : Nat} {s : ScopeSpec} (h : t.scopes[j]? = some s) :
    t.lengths[j]? = some s.length.toNat := by
  obtain ⟨hj, rfl⟩ := List.getElem?_eq_some_iff.mp h
  rw [lengths, List.getElem?_append_left (by simpa using hj)]
  simp [hj]

lemma lengths_field {j : Nat} {f : FieldSpec} (h : t.fields[j]? = some f) :
    t.lengths[t.scopes.length + j]? = some f.length.toNat := by
  rw [lengths, List.getElem?_append_right (by simp)]
  simp [h]

lemma scopes_record {j : Nat} {s : ScopeSpec} (h : t.scopes[j]? = some s) (bs : Octets) :
    (t.record (bs.take t.recordLength)).scopes[j]? =
      some (s.scope, bs.slice (t.offset j) s.length.toNat) := by
  have hj : j ≤ (t.scopes.map (·.length.toNat)).length := by
    rw [List.length_map]
    exact Nat.le_of_lt (List.getElem?_eq_some_iff.mp h).1
  rw [record_take, offset, lengths, List.take_append_of_le_length hj]
  simp [List.getElem?_zipWith, getElem?_pieces, h]

lemma flows_record {j : Nat} {f : FieldSpec} (h : t.fields[j]? = some f) (bs : Octets) :
    (t.record (bs.take t.recordLength)).flows[j]? = some ⟨f.field, .ofKind f.field.kind
      (bs.slice (t.offset (t.scopes.length + j)) f.length.toNat)⟩ := by
  have hoffset : t.offset (t.scopes.length + j) = (t.scopes.map (·.length.toNat)).sum +
      ((t.fields.map (·.length.toNat)).take j).sum := by
    have hscopes : (t.scopes.map (·.length.toNat)).length = t.scopes.length := List.length_map _
    rw [offset, lengths, ← hscopes, List.take_length_add_append, List.sum_append]
  rw [record_take, hoffset]
  simp [List.getElem?_zipWith, getElem?_pieces, h, slice_drop]

/-- **Records are cut as their template says.** If the records of a template take a byte at all, the
loop that reads them never fails. It ends with one record for each time that the length of a record
goes into that of the flowset, and what it leaves is the remainder. Every record has an entry for
each scope and each field, in the order of the template and of its type. It is taken from the bytes
that begin where the records and the parts in front of it end, as many as the template says: a scope
is these bytes, and a flow has the value that they spell for the kind of its field. -/
theorem records_cut (t : Template) (nonempty : 1 ≤ t.recordLength) (body : Octets) :
    let count := body.length / t.recordLength
    let start (i j : Nat) := i * t.recordLength + t.offset j
    (∀ g, t.RecordLoop [] body g ↔
        g = ⟨t.records body, none, body.drop (count * t.recordLength)⟩) ∧
      (body.drop (count * t.recordLength)).length = body.length % t.recordLength ∧
      (t.records body).length = count ∧
      ∀ i < count, ∃ r, (t.records body)[i]? = some r ∧
        r.scopes.length = t.scopes.length ∧ r.flows.length = t.fields.length ∧
        (∀ j s, t.scopes[j]? = some s →
          start i j + s.length.toNat ≤ body.length ∧
          r.scopes[j]? = some (s.scope, body.slice (start i j) s.length.toNat)) ∧
        ∀ j f, t.fields[j]? = some f →
          start i (t.scopes.length + j) + f.length.toNat ≤ body.length ∧
          ∃ value, r.flows[j]? = some ⟨f.field, value⟩ ∧
            FlowValue.Spelled f.field.kind
              (body.slice (start i (t.scopes.length + j)) f.length.toNat) value := by
  intro count start
  have hloop := recordLoop_records nonempty body
  refine ⟨fun g => ⟨fun h => h.unique hloop, ?_⟩, ?_, length_records t body, fun i hi => ?_⟩
  · rintro rfl
    exact hloop
  · rw [List.length_drop, Nat.mul_comm, Nat.mod_eq_sub_mul_div]
  · have hwhole : i * t.recordLength + t.recordLength ≤ body.length := by
      rw [← Nat.succ_mul]
      exact (Nat.mul_le_mul_right _ hi).trans (Nat.div_mul_le_self _ _)
    refine ⟨_, getElem?_records hi, ?_, ?_, fun j s hs => ⟨?_, ?_⟩, fun j f hf =>
      ⟨?_, .ofKind f.field.kind _, ?_, FlowValue.spelled_ofKind _ _⟩⟩
    · rw [record_take]
      simp [length_pieces]
    · rw [record_take]
      simp [length_pieces]
    · have := offset_add_le (lengths_scope hs)
      show i * t.recordLength + t.offset j + s.length.toNat ≤ body.length
      omega
    · rw [scopes_record hs, slice_drop]
    · have := offset_add_le (lengths_field hf)
      show i * t.recordLength + t.offset (t.scopes.length + j) + f.length.toNat ≤ body.length
      omega
    · rw [flows_record hf, slice_drop]

/-- Options about a line card, with an address of three bytes and a number of three, twice, and two
bytes of filling. -/
theorem records_cut_odd :
    let t : Template := ⟨256, [⟨.lineCard, 2⟩], [⟨.ipv4SrcAddr, 3⟩, ⟨.inBytes, 3⟩]⟩
    let body : Octets := List.range 18 |>.map UInt8.ofNat
    1 ≤ t.recordLength ∧
      t.RecordLoop [] body ⟨t.records body, none, [16, 17]⟩ ∧
      (t.records body).length = 2 ∧
      ∃ r, (t.records body)[1]? = some r ∧ r.scopes[0]? = some (.lineCard, [8, 9]) ∧
        (∃ value, r.flows[0]? = some ⟨.ipv4SrcAddr, value⟩ ∧
          FlowValue.Spelled .ipv4 [10, 11, 12] value) ∧
        ∃ value, r.flows[1]? = some ⟨.inBytes, value⟩ ∧
          FlowValue.Spelled .unsigned [13, 14, 15] value := by
  intro t body
  obtain ⟨hloop, -, hcount, hrecords⟩ := records_cut t (by decide) body
  obtain ⟨r, hr, -, -, hscopes, hflows⟩ := hrecords 1 (by decide)
  have hleft : body.drop (body.length / t.recordLength * t.recordLength) = [16, 17] := by decide
  refine ⟨by decide, (hloop _).mpr (by rw [hleft]), hcount.trans (by decide), r, hr, ?_, ?_, ?_⟩
  · exact (hscopes 0 ⟨.lineCard, 2⟩ rfl).2
  · exact (hflows 0 ⟨.ipv4SrcAddr, 3⟩ rfl).2
  · exact (hflows 1 ⟨.inBytes, 3⟩ rfl).2

end Template

end Netflow
end Telemetry
