import Telemetry.Proofs.Station.Sessions

/-!
What a session does without a look at its controller.

A session asks its controller to dispatch packets and to count malformed frames, and it never asks
for anything back. So what it becomes, which packets it hands on and how many frames it tells of are
the same for every controller; what they bring about there is another matter.
-/

namespace Telemetry.Station

open Bmp.Decoder (Decoded)

namespace Controller

variable {c : Controller} {peer : Endpoint}

lemma dispatchBmp_append (ps qs : List Bmp.Packet) :
    (c.dispatchBmp peer (ps ++ qs)).1 = ((c.dispatchBmp peer ps).1.dispatchBmp peer qs).1 ∧
      (c.dispatchBmp peer (ps ++ qs)).2.calls =
        (c.dispatchBmp peer ps).2.calls ++
          ((c.dispatchBmp peer ps).1.dispatchBmp peer qs).2.calls := by
  rw [dispatchBmp, List.map_append]
  exact dispatchAll_append _ _

lemma dispatchBmp_recordFramesDropped (n : Nat) (ps : List Bmp.Packet) :
    (c.recordFramesDropped n).dispatchBmp peer ps =
      ((c.dispatchBmp peer ps).1.recordFramesDropped n, (c.dispatchBmp peer ps).2) :=
  dispatchAll_recordFramesDropped n _

end Controller

namespace LiveSession

open Work

/-- `f` brings a session from `l` to `m`, and in doing so it hands on `ps` and tells of `n`
malformed frames, whatever the controller. -/
structure Turns (f : Work → Work) (l : LiveSession) (ps : List Bmp.Packet) (n : Nat)
    (m : LiveSession) : Prop where
  live (c : Controller) (t : Trace) : (f ⟨c, l, t⟩).live = m
  controller (c : Controller) (t : Trace) :
    (f ⟨c, l, t⟩).controller = (c.dispatchBmp l.session.peer ps).1.recordFramesDropped n
  calls (c : Controller) (t : Trace) :
    (f ⟨c, l, t⟩).trace.calls = t.calls ++ (c.dispatchBmp l.session.peer ps).2.calls
  peer : m.session.peer = l.session.peer
  packets : m.session.packets = l.session.packets + ps.length

namespace Turns

variable {f g : Work → Work} {l m k : LiveSession} {ps qs : List Bmp.Packet} {n o : Nat}

lemma of_still (h : ∀ c t, (f ⟨c, l, t⟩).live = m ∧ (f ⟨c, l, t⟩).controller = c ∧
    (f ⟨c, l, t⟩).trace.calls = t.calls) (peer : m.session.peer = l.session.peer)
    (packets : m.session.packets = l.session.packets) : Turns f l [] 0 m where
  live c t := (h c t).1
  controller c t := (h c t).2.1
  calls c t := (h c t).2.2.trans (List.append_nil _).symm
  peer := peer
  packets := packets

lemma congr (h : Turns f l ps n m) (same : ∀ c t, g ⟨c, l, t⟩ = f ⟨c, l, t⟩) :
    Turns g l ps n m where
  live c t := by rw [same, h.live]
  controller c t := by rw [same, h.controller]
  calls c t := by rw [same, h.calls]
  peer := h.peer
  packets := h.packets

lemma trans (hf : Turns f l ps n m) (hg : Turns g m qs o k) :
    Turns (fun w => g (f w)) l (ps ++ qs) (n + o) k := by
  have hstep (c : Controller) (t : Trace) :
      f ⟨c, l, t⟩ = ⟨(f ⟨c, l, t⟩).controller, m, (f ⟨c, l, t⟩).trace⟩ := by
    rw [← hf.live c t]
  constructor
  · intro c t
    rw [hstep, hg.live]
  · intro c t
    rw [hstep, hg.controller, hf.controller, hf.peer, Controller.dispatchBmp_recordFramesDropped,
      Controller.recordFramesDropped_add, (Controller.dispatchBmp_append ps qs).1]
  · intro c t
    rw [hstep, hg.calls, hf.calls, hf.controller, hf.peer,
      Controller.dispatchBmp_recordFramesDropped, (Controller.dispatchBmp_append ps qs).2,
      List.append_assoc]
  · exact hg.peer.trans hf.peer
  · rw [hg.packets, hf.packets, List.length_append, Nat.add_assoc]

/-! ### The steps of a session -/

lemma called (l : LiveSession) (r : Decoded) :
    Turns (·.called r) l [] 0 { l with decoder := r.decoder, buffer := r.buffer } :=
  of_still (fun _ _ => ⟨rfl, rfl, List.append_nil _⟩) rfl rfl

lemma say (l : LiveSession) (lines : List Log.Line) : Turns (·.say lines) l [] 0 l :=
  of_still (fun _ _ => ⟨rfl, rfl, List.append_nil _⟩) rfl rfl

lemma finish (l : LiveSession) (how : SessionEnd) :
    Turns (·.finish how) l [] 0
      { l with session.state := .disconnected, ended := some how } :=
  of_still (fun _ _ => ⟨rfl, rfl, List.append_nil _⟩) rfl rfl

lemma settle (l : LiveSession) :
    Turns Work.settle l [] (l.decoder.stats.dropped - l.session.frames.dropped)
      { l with session.frames := l.decoder.stats } where
  live _ _ := rfl
  controller _ _ := rfl
  calls _ t := (List.append_nil t.calls).symm
  peer := rfl
  packets := rfl

lemma deliver (l : LiveSession) (p : Bmp.Packet) :
    Turns (·.deliver p) l [p] 0
      { l with session := { (l.session.note p.message).1 with packets := l.session.packets + 1 } }
    where
  live _ _ := by simp only [Work.deliver, Session.note_fst]
  controller _ _ := by
    simp only [Work.deliver, Session.note_fst]
    rfl
  calls _ t := by
    simp only [Work.deliver, Session.note_fst, Trace.calls_append, Trace.calls_ofLog,
      List.append_nil]
    rfl
  peer := by simp only [Session.note_fst]
  packets := rfl

lemma found (l : LiveSession) (r : Decoded) (p : Bmp.Packet) :
    ∃ n m, Turns (fun w => (w.called r).settle.deliver p) l [p] n m :=
  ⟨_, _, ((called l r).trans (settle _)).trans (deliver _ p)⟩

lemma pump (call : Bmp.Decoder → Octets → Decoded) (rounds : Nat) (l : LiveSession) :
    ∃ ps n m, Turns (Work.pump call rounds) l ps n m := by
  induction rounds generalizing l with
  | zero => exact ⟨[], 0, l, of_still (fun _ _ => ⟨rfl, rfl, rfl⟩) rfl rfl⟩
  | succ rounds ih =>
    cases hp : (call l.decoder l.buffer).packet with
    | none =>
      exact ⟨_, _, _, (called l (call l.decoder l.buffer)).congr
        fun c t => pump_of_none (w := ⟨c, l, t⟩) hp⟩
    | some p =>
      obtain ⟨n, m, hfound⟩ := found l (call l.decoder l.buffer) p
      cases hstop : l.stopping with
      | true =>
        refine ⟨_, _, _, (hfound.trans (finish m .cancelled)).congr fun c t => ?_⟩
        rw [pump_of_some (w := ⟨c, l, t⟩) hp]
        exact if_pos hstop
      | false =>
        obtain ⟨qs, o, k, hrest⟩ := ih m
        refine ⟨_, _, _, (hfound.trans hrest).congr fun c t => ?_⟩
        rw [pump_of_some (w := ⟨c, l, t⟩) hp]
        exact if_neg (ne_true_of_eq_false hstop)

/-- Whatever happens to a session, it turns. -/
lemma handle (e : SessionEvent) (l : LiveSession) :
    ∃ ps n m, Turns (·.handle e) l ps n m := by
  cases hended : l.ended.isSome with
  | true =>
    have hsame (c : Controller) (t : Trace) : Work.handle ⟨c, l, t⟩ e = ⟨c, l, t⟩ :=
      if_pos hended
    exact ⟨[], 0, l, of_still (fun c t => by simp [hsame]) rfl rfl⟩
  | false =>
    have hgoing : ¬ l.ended.isSome = true := ne_true_of_eq_false hended
    cases e with
    | bytes bs =>
      let m : LiveSession := { l with buffer := l.buffer ++ bs }
      have hreceive : Turns (fun w => { w with live.buffer := w.live.buffer ++ bs }) l [] 0 m :=
        of_still (fun _ _ => ⟨rfl, rfl, rfl⟩) rfl rfl
      obtain ⟨ps, n, k, hpump⟩ := pump Bmp.Decoder.decode (m.buffer.length + 1) m
      exact ⟨_, _, _, (hreceive.trans hpump).congr fun _ _ => if_neg hgoing⟩
    | closed =>
      obtain ⟨ps, n, m, hpump⟩ := pump Bmp.Decoder.decodeEof (l.buffer.length + 1) l
      cases hover : m.ended.isSome with
      | true =>
        refine ⟨_, _, _, hpump.congr fun c t => ?_⟩
        refine (if_neg hgoing).trans (if_pos ?_)
        exact (congrArg (·.ended.isSome) (hpump.live c t)).trans hover
      | false =>
        refine ⟨_, _, _, ((hpump.trans (settle m)).trans (finish _ .peerClosed)).congr
          fun c t => ?_⟩
        refine (if_neg hgoing).trans (if_neg ?_)
        rw [show (Work.pumpAll _ _).live = m from hpump.live c t, hover]
        exact Bool.false_ne_true
    | failed reason =>
      let lines := [l.session.remark .warn ("BMP transport error: " ++ reason)]
      exact ⟨_, _, _, (((settle l).trans (say _ lines)).trans (finish _ .transportError)).congr
        fun _ _ => if_neg hgoing⟩
    | stopSoon =>
      have hstop : Turns (fun w => { w with live.stopping := true }) l [] 0
          { l with stopping := true } := of_still (fun _ _ => ⟨rfl, rfl, rfl⟩) rfl rfl
      exact ⟨_, _, _, hstop.congr fun _ _ => if_neg hgoing⟩
    | stopNow => exact ⟨_, _, _, (finish l .cancelled).congr fun _ _ => if_neg hgoing⟩

end Turns

end LiveSession

end Telemetry.Station
