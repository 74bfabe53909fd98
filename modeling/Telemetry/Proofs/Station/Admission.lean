import Mathlib
import Telemetry.Station.AcceptLoop

/-!
How many connections are served at a time.

The counts hang on the stages of the tasks: a session is active while its task serves, and its
permit is held until the task has released it. Every event moves one task on by one stage, or adds
one, or collects one, and none passes over a stage; so what is true of the stages is true between
any two steps of the tasks, in whatever order these come.
-/

namespace Telemetry.Station

def AcceptEvent.finishes : AcceptEvent → Bool
  | finish _ => true
  | _ => false

namespace AcceptLoop

def admits (a : AcceptLoop) : AcceptEvent → Bool
  | .arrive => a.accepting
  | .finish id => a.isAt id .serving
  | .release id => a.isAt id .uncounted
  | .collect id => a.isAt id .released
  | .stop => true

/-- Those of the events that could happen when they came. -/
def happened (a : AcceptLoop) (n : SessionCounts) : List AcceptEvent → List AcceptEvent
  | [] => []
  | e :: later =>
    let (b, m) := a.step n e
    if a.admits e then e :: happened b m later else happened b m later

variable {a : AcceptLoop} {n : SessionCounts} {id : Nat} {stage : TaskStage}

/-! ### One event -/

inductive Moves (a : AcceptLoop) (n : SessionCounts) :
    AcceptEvent → AcceptLoop → SessionCounts → Prop where
  | admitted (accepting : a.accepting = true) (room : a.permits < a.maxConnections) :
    Moves a n .arrive
      { a with tasks := a.tasks ++ [⟨a.nextId, .serving⟩], nextId := a.nextId + 1 }
      { n with opened := n.opened + 1, active := n.active + 1 }
  | rejected (accepting : a.accepting = true) (full : a.maxConnections ≤ a.permits) :
    Moves a n .arrive a { n with rejected := n.rejected + 1 }
  | finished {id : Nat} {before behind : List SessionTask}
    (split : a.tasks = before ++ ⟨id, .serving⟩ :: behind) :
    Moves a n (.finish id) { a with tasks := before ++ ⟨id, .uncounted⟩ :: behind }
      { n with active := n.active - 1 }
  | released {id : Nat} {before behind : List SessionTask}
    (split : a.tasks = before ++ ⟨id, .uncounted⟩ :: behind) :
    Moves a n (.release id) { a with tasks := before ++ ⟨id, .released⟩ :: behind } n
  | collected {id : Nat} {before behind : List SessionTask}
    (split : a.tasks = before ++ ⟨id, .released⟩ :: behind) :
    Moves a n (.collect id) { a with tasks := before ++ behind } n
  | stopped : Moves a n .stop { a with accepting := false } n

/-- No two tasks have the same number, and no number will be given out again. -/
structure Numbered (a : AcceptLoop) : Prop where
  distinct : (a.tasks.map (·.id)).Nodup
  given : ∀ t ∈ a.tasks, t.id < a.nextId

/-- A task that stands at a stage, and the others around it. -/
lemma Numbered.exists_split (h : Numbered a) (at_stage : a.isAt id stage = true) :
    ∃ before behind, a.tasks = before ++ ⟨id, stage⟩ :: behind ∧
      ∀ t ∈ before ++ behind, t.id ≠ id := by
  obtain ⟨before, behind, hsplit⟩ := List.append_of_mem (List.contains_iff_mem.mp at_stage)
  refine ⟨before, behind, hsplit, fun t ht heq => ?_⟩
  have hdistinct := h.distinct
  rw [hsplit, List.map_append, List.map_cons] at hdistinct
  have hnot := (List.nodup_middle.mp hdistinct).notMem
  rw [← List.map_append] at hnot
  exact hnot (List.mem_map.mpr ⟨t, ht, heq⟩)

lemma advance_split {before behind : List SessionTask}
    (split : a.tasks = before ++ ⟨id, stage⟩ :: behind)
    (others : ∀ t ∈ before ++ behind, t.id ≠ id) (next : TaskStage) :
    a.advance id next = { a with tasks := before ++ ⟨id, next⟩ :: behind } := by
  have hsame (ts : List SessionTask) (h : ∀ t ∈ ts, t.id ≠ id) :
      ts.map (fun t => if t.id = id then { t with stage := next } else t) = ts :=
    (List.map_congr_left fun t ht => if_neg (h t ht)).trans (List.map_id ts)
  rw [List.forall_mem_append] at others
  simp only [advance, split, List.map_append, List.map_cons, hsame before others.1,
    hsame behind others.2, if_true]

lemma collect_split {before behind : List SessionTask}
    (split : a.tasks = before ++ ⟨id, stage⟩ :: behind)
    (others : ∀ t ∈ before ++ behind, t.id ≠ id) :
    a.tasks.filter (fun t => t.id != id) = before ++ behind := by
  have hkept (ts : List SessionTask) (h : ∀ t ∈ ts, t.id ≠ id) :
      ts.filter (fun t => t.id != id) = ts :=
    List.filter_eq_self.mpr fun t ht => bne_iff_ne.mpr (h t ht)
  rw [List.forall_mem_append] at others
  rw [split, List.filter_append, hkept before others.1,
    List.filter_cons_of_neg (by simp), hkept behind others.2]

/-- Who arrives while the loop accepts is taken where there is room. -/
lemma step_arrive (accepting : a.accepting = true) :
    a.step n .arrive =
      if a.permits < a.maxConnections then
        ({ a with tasks := a.tasks ++ [⟨a.nextId, .serving⟩], nextId := a.nextId + 1 },
          { n with opened := n.opened + 1, active := n.active + 1 })
      else (a, { n with rejected := n.rejected + 1 }) := by
  simp [step, hasRoom, accepting]

/-- An event that can happen is one of these moves. -/
lemma Numbered.moves (h : Numbered a) (n : SessionCounts) {e : AcceptEvent}
    (can : a.admits e = true) : Moves a n e (a.step n e).1 (a.step n e).2 := by
  cases e with
  | arrive =>
    rw [step_arrive can]
    split_ifs with hroom
    · exact .admitted can hroom
    · exact .rejected can (Nat.le_of_not_lt hroom)
  | finish id =>
    have hat : a.isAt id .serving = true := can
    obtain ⟨before, behind, hsplit, hothers⟩ := h.exists_split hat
    rw [step, if_pos hat, advance_split hsplit hothers]
    exact .finished hsplit
  | release id =>
    have hat : a.isAt id .uncounted = true := can
    obtain ⟨before, behind, hsplit, hothers⟩ := h.exists_split hat
    rw [step, if_pos hat, advance_split hsplit hothers]
    exact .released hsplit
  | collect id =>
    have hat : a.isAt id .released = true := can
    obtain ⟨before, behind, hsplit, hothers⟩ := h.exists_split hat
    rw [step, if_pos hat, collect_split hsplit hothers]
    exact .collected hsplit
  | stop => exact .stopped

lemma step_of_not_admits {e : AcceptEvent} (cannot : a.admits e = false) :
    a.step n e = (a, n) := by
  cases e with
  | arrive => exact if_pos (by simpa [admits] using cannot)
  | finish id => exact if_neg (ne_true_of_eq_false cannot)
  | release id => exact if_neg (ne_true_of_eq_false cannot)
  | collect id => exact if_neg (ne_true_of_eq_false cannot)
  | stop => cases cannot

/-! ### What a move does to the counts -/

def serving (a : AcceptLoop) : Nat := a.tasks.countP fun t => t.stage = .serving

/-- Whoever serves has a permit. -/
lemma serving_le_permits (a : AcceptLoop) : a.serving ≤ a.permits := by
  refine List.countP_mono_left fun t _ ht => ?_
  simp_all

namespace Moves

variable {e : AcceptEvent} {b : AcceptLoop} {m : SessionCounts}

lemma numbered (h : Moves a n e b m) (hnumbered : Numbered a) : Numbered b := by
  obtain ⟨hdistinct, hgiven⟩ := hnumbered
  cases h with
  | rejected | stopped => exact ⟨hdistinct, hgiven⟩
  | admitted =>
    constructor
    · rw [List.map_append, List.map_singleton, List.nodup_append]
      refine ⟨hdistinct, List.nodup_singleton _, ?_⟩
      simp only [List.mem_map, List.mem_singleton]
      rintro _ ⟨t, ht, rfl⟩ _ rfl
      exact Nat.ne_of_lt (hgiven t ht)
    · rw [List.forall_mem_append, List.forall_mem_singleton]
      exact ⟨fun t ht => Nat.lt_succ_of_lt (hgiven t ht), Nat.lt_succ_self _⟩
  | finished split | released split =>
    rw [split] at hdistinct hgiven
    constructor
    · simpa using hdistinct
    · simpa [or_imp, forall_and] using hgiven
  | collected split =>
    rw [split] at hdistinct hgiven
    constructor
    · exact hdistinct.sublist (by simp)
    · simp_all [or_imp, forall_and]

lemma maxConnections (h : Moves a n e b m) : b.maxConnections = a.maxConnections := by
  cases h <;> rfl

/-- Only who arrives takes a permit, and only where there is one. -/
lemma permits (h : Moves a n e b m) (room : a.permits ≤ a.maxConnections) :
    b.permits ≤ b.maxConnections := by
  cases h with
  | rejected | stopped => exact room
  | admitted _ room => simpa [AcceptLoop.permits] using room
  | finished split | released split | collected split =>
    simp [AcceptLoop.permits, split] at room ⊢
    omega

/-- The gauge goes with the tasks that serve. -/
lemma active (h : Moves a n e b m) (gauge : n.active = a.serving) : m.active = b.serving := by
  cases h with
  | rejected | stopped => exact gauge
  | admitted => simp [serving, gauge]
  | finished split | released split | collected split => simp [serving, gauge, split]

lemma arrivals (h : Moves a n e b m) :
    m.opened + m.rejected = n.opened + n.rejected + [e].count .arrive := by
  cases h <;> simp <;> omega

/-- Who is taken is active until the session ends; so nobody ends who is not active. -/
lemma endings (h : Moves a n e b m) (gauge : n.active = a.serving) :
    m.opened + n.active = n.opened + m.active + [e].countP AcceptEvent.finishes := by
  cases h with
  | finished split =>
    have hsome : 0 < n.active := by simp [gauge, serving, split]
    simp [AcceptEvent.finishes]
    omega
  | _ => simp [AcceptEvent.finishes] <;> omega

end Moves

/-! ### Any number of events -/

/-- A loop with room for `limit`, after the events in `done`, from counts with `o` opened and `r`
rejected. -/
structure Kept (limit o r : Nat) (done : List AcceptEvent) (a : AcceptLoop)
    (n : SessionCounts) : Prop extends Numbered a where
  maxConnections : a.maxConnections = limit
  permits : a.permits ≤ a.maxConnections
  active : n.active = a.serving
  arrivals : n.opened + n.rejected = o + r + done.count .arrive
  endings : n.opened = o + n.active + done.countP AcceptEvent.finishes

variable {limit o r : Nat} {done : List AcceptEvent} {e : AcceptEvent}

lemma kept_start (limit o r : Nat) :
    Kept limit o r [] { maxConnections := limit } ⟨o, 0, r⟩ where
  distinct := List.nodup_nil
  given := nofun
  maxConnections := rfl
  permits := Nat.zero_le limit
  active := rfl
  arrivals := rfl
  endings := rfl

namespace Kept

lemma step (h : Kept limit o r done a n) (can : a.admits e = true) :
    Kept limit o r (done ++ [e]) (a.step n e).1 (a.step n e).2 := by
  have hmoves := h.moves n can
  refine ⟨hmoves.numbered h.toNumbered, hmoves.maxConnections.trans h.maxConnections,
    hmoves.permits h.permits, hmoves.active h.active, ?_, ?_⟩
  · rw [hmoves.arrivals, h.arrivals, List.count_append, Nat.add_assoc]
  · have hendings := hmoves.endings h.active
    rw [h.endings] at hendings
    rw [List.countP_append]
    omega

lemma run (h : Kept limit o r done a n) (events : List AcceptEvent) :
    Kept limit o r (done ++ a.happened n events) (a.run n events).1 (a.run n events).2 := by
  induction events generalizing done a n with
  | nil => simpa [happened, AcceptLoop.run] using h
  | cons e later ih =>
    rw [happened, AcceptLoop.run, List.foldl_cons]
    split_ifs with can
    · have := ih (h.step can)
      rwa [List.append_assoc, List.singleton_append] at this
    · rw [step_of_not_admits (Bool.of_not_eq_true can)]
      exact ih h

/-- Who arrives is turned away where all permits are taken, and nowhere else. -/
lemma arrive (h : Kept limit o r done a n) (accepting : a.accepting = true) :
    ((a.step n .arrive).2.rejected = n.rejected + 1 ↔ a.permits = limit) ∧
      ((a.step n .arrive).2.opened = n.opened + 1 ↔ a.permits < limit) := by
  have hpermits := h.permits
  rw [h.maxConnections] at hpermits
  rw [step_arrive accepting, h.maxConnections]
  split_ifs with hroom
  · simp only [Nat.left_eq_add, one_ne_zero, false_iff, true_iff]
    omega
  · simp only [Nat.left_eq_add, one_ne_zero, false_iff, true_iff]
    omega

lemma drained (h : Kept limit o r done a n) (last : a.isDrained = true) : n.active = 0 := by
  rw [isDrained, Bool.and_eq_true, List.isEmpty_iff] at last
  rw [h.active, serving, last.2, List.countP_nil]

end Kept

/-- **The limit on connections always holds.** Whatever happens to an accept loop, and in whatever
order, the sessions that are active are no more than the permits that are taken, and those no more
than the limit. A connection that arrives is turned away exactly where all permits are taken. All
that have arrived are opened or turned away, those that are opened are active or ended, and none is
active when the loop is over. -/
theorem run_limits (limit o r : Nat) (events : List AcceptEvent) :
    let start : AcceptLoop := { maxConnections := limit }
    let a := (start.run ⟨o, 0, r⟩ events).1
    let n := (start.run ⟨o, 0, r⟩ events).2
    let done := start.happened ⟨o, 0, r⟩ events
    n.active ≤ a.permits ∧ a.permits ≤ limit ∧
      (a.accepting = true →
        ((a.step n .arrive).2.rejected = n.rejected + 1 ↔ a.permits = limit) ∧
        ((a.step n .arrive).2.opened = n.opened + 1 ↔ a.permits < limit)) ∧
      n.opened + n.rejected = o + r + done.count .arrive ∧
      n.opened = o + n.active + done.countP AcceptEvent.finishes ∧
      (a.isDrained = true → n.active = 0) := by
  intro start a n done
  have h : Kept limit o r done a n := (kept_start limit o r).run events
  refine ⟨?_, ?_, h.arrive, h.arrivals, h.endings, h.drained⟩
  · exact h.active ▸ serving_le_permits _
  · exact h.permits.trans_eq h.maxConnections

/-- A second connection comes while the first is served, and a third when its permit is given back.
The third ends after the loop is told to stop, and a fourth comes in between. -/
def turnover : List AcceptEvent :=
  [.arrive, .arrive, .finish 0, .release 0, .arrive, .collect 0, .stop, .arrive] ++ leaving 1

def runTurnover (events : Nat) : AcceptLoop × SessionCounts :=
  run { maxConnections := 1 } {} (turnover.take events)

/-- When the first session has ended and its permit is not given back yet, nobody is active and
nobody would be taken. In the end two sessions have been opened and one turned away. -/
theorem run_limits_turnover :
    (runTurnover 3).1.accepting = true ∧ (runTurnover 3).1.permits = 1 ∧
      (runTurnover 3).2.active = 0 ∧
      ((runTurnover 3).1.step (runTurnover 3).2 .arrive).2.rejected =
        (runTurnover 3).2.rejected + 1 ∧
      (runTurnover 11).1.isDrained = true ∧ (runTurnover 11).2.active = 0 ∧
      (runTurnover 11).2.opened = 2 ∧
      (runTurnover 11).2.opened + (runTurnover 11).2.rejected = 3 := by
  have hfull : (runTurnover 3).1.permits = 1 := by decide
  have hlast : (runTurnover 11).1.isDrained = true := by decide
  have hcount : (happened { maxConnections := 1 } {} (turnover.take 11)).count .arrive = 3 := by
    decide
  obtain ⟨-, -, harrive, -⟩ := run_limits 1 0 0 (turnover.take 3)
  obtain ⟨-, -, -, harrivals, -, hdrained⟩ := run_limits 1 0 0 (turnover.take 11)
  exact ⟨by decide, hfull, by decide, (harrive (by decide)).1.mpr hfull, hlast, hdrained hlast,
    by decide, harrivals.trans (congrArg _ hcount)⟩

end AcceptLoop

end Telemetry.Station
