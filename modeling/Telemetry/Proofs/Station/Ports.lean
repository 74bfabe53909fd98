import Mathlib
import Telemetry.Proofs.Wire.Reading
import Telemetry.Station.Host

/-!
Binding all transports or none.

The transports are bound one after the other, each on the machine as those before it have left it,
so that two transports may get into each other's way. Either all that have a port are bound, or one
is the first that cannot be, and then giving back the ports bound before it leaves the machine as it
was.
-/

namespace Telemetry

lemma Endpoint.ip_ofIp (a : Ip) (port : UInt16) : (Endpoint.ofIp a port).ip = a := by
  cases a <;> rfl

lemma Endpoint.port_ofIp (a : Ip) (port : UInt16) : (Endpoint.ofIp a port).port = port := by
  cases a <;> rfl

namespace Station

/-- Whether a port is what was asked for: that port, or any if zero was. -/
def Serves (asked port : UInt16) : Prop := if asked = 0 then port ≠ 0 else port = asked

namespace Host

variable {choice : PortChoice} {config : Config} {h h' : Host} {t : Transport}
  {ts : List Transport} {kind : PortKind} {asked port : UInt16}
  {bound : List (Transport × Endpoint)}

/-- Every port that would do is taken. -/
def Blocked (h : Host) (kind : PortKind) (asked : UInt16) : Prop :=
  ∀ port, Serves asked port → (kind, port) ∈ h.taken

def take (h : Host) (kind : PortKind) (port : UInt16) : Host :=
  { h with taken := (kind, port) :: h.taken }

/-! ### One transport -/

lemma freePort?_eq_some (hfree : h.freePort? choice kind asked = some port) :
    Serves asked port ∧ (kind, port) ∉ h.taken := by
  unfold freePort? at hfree
  unfold Serves
  split_ifs at hfree ⊢ with hzero htaken
  · exact choice.free hfree
  · obtain rfl := Option.some.inj hfree
    exact ⟨rfl, by simpa using htaken⟩

lemma blocked_of_freePort? (hfree : h.freePort? choice kind asked = none) :
    h.Blocked kind asked := by
  intro port hport
  unfold freePort? at hfree
  unfold Serves at hport
  split_ifs at hfree hport with hzero htaken
  · exact choice.exhausted hfree port hport
  · subst hport
    simpa using htaken

lemma bindEach_disabled (off : config.port t = none) :
    bindEach choice config (t :: ts) h = bindEach choice config ts h := by
  rw [bindEach, off]

lemma bindEach_blocked (on : config.port t = some asked)
    (hfree : h.freePort? choice t.portKind asked = none) :
    bindEach choice config (t :: ts) h = .error ⟨t, Endpoint.ofIp config.bindAddress asked⟩ := by
  rw [bindEach, on]
  dsimp only
  rw [Host.bind, hfree]
  rfl

lemma bindEach_free (on : config.port t = some asked)
    (hfree : h.freePort? choice t.portKind asked = some port) :
    bindEach choice config (t :: ts) h =
      (bindEach choice config ts (h.take t.portKind port)).map fun r =>
        ((t, Endpoint.ofIp config.bindAddress port) :: r.1, r.2) := by
  rw [bindEach, on]
  dsimp only
  rw [Host.bind, hfree, Endpoint.ip_ofIp]
  rfl

/-! ### All of them -/

/-- What goes well when transports are bound in a row: each that has a port gets a free one that is
what it asked for, and then it is taken. -/
inductive Binds (config : Config) :
    Host → List Transport → List (Transport × Endpoint) → Host → Prop where
  | done {h : Host} : Binds config h [] [] h
  | disabled {h h' : Host} {t ts bound} (off : config.port t = none)
    (later : Binds config h ts bound h') : Binds config h (t :: ts) bound h'
  | bound {h h' : Host} {t ts asked port bound} (on : config.port t = some asked)
    (serves : Serves asked port) (free : (t.portKind, port) ∉ h.taken)
    (later : Binds config (h.take t.portKind port) ts bound h') :
    Binds config h (t :: ts) ((t, Endpoint.ofIp config.bindAddress port) :: bound) h'

/-- Where binding stops: the transports in front of this one are bound, and it is blocked then. -/
structure Stops (config : Config) (h : Host) (ts : List Transport) (e : BindError)
    (bound : List (Transport × Endpoint)) (h' : Host) : Prop where
  front : ∃ before after, ts = before ++ e.transport :: after ∧ Binds config h before bound h'
  blocked : ∃ asked, config.port e.transport = some asked ∧ h'.Blocked e.transport.portKind asked
  address : config.address? e.transport = some e.address

lemma bindEach_cases (choice : PortChoice) (config : Config) (ts : List Transport) (h : Host) :
    (∃ bound h', bindEach choice config ts h = .ok (bound, h') ∧ Binds config h ts bound h') ∨
      ∃ e bound h', bindEach choice config ts h = .error e ∧ Stops config h ts e bound h' := by
  induction ts generalizing h with
  | nil => exact .inl ⟨[], h, rfl, .done⟩
  | cons t ts ih =>
    cases hport : config.port t with
    | none =>
      rw [bindEach_disabled hport]
      rcases ih h with ⟨bound, h', hok, hbinds⟩ | ⟨e, bound, h', herror, hstops⟩
      · exact .inl ⟨bound, h', hok, .disabled hport hbinds⟩
      · obtain ⟨before, after, rfl, hbinds⟩ := hstops.front
        exact .inr ⟨e, bound, h', herror, ⟨t :: before, after, rfl, .disabled hport hbinds⟩,
          hstops.blocked, hstops.address⟩
    | some asked =>
      cases hfree : h.freePort? choice t.portKind asked with
      | none =>
        exact .inr ⟨_, [], h, bindEach_blocked hport hfree, ⟨[], ts, rfl, .done⟩,
          ⟨asked, hport, blocked_of_freePort? hfree⟩, by simp [Config.address?, hport]⟩
      | some port =>
        obtain ⟨hserves, hnot⟩ := freePort?_eq_some hfree
        rw [bindEach_free hport hfree]
        rcases ih (h.take t.portKind port) with
          ⟨bound, h', hok, hbinds⟩ | ⟨e, bound, h', herror, hstops⟩
        · exact .inl ⟨_, h', by rw [hok]; rfl, .bound hport hserves hnot hbinds⟩
        · obtain ⟨before, after, rfl, hbinds⟩ := hstops.front
          exact .inr ⟨e, _, h', by rw [herror]; rfl, ⟨t :: before, after, rfl,
            .bound hport hserves hnot hbinds⟩, hstops.blocked, hstops.address⟩

/-! ### Giving back -/

def ports (bound : List (Transport × Endpoint)) : List (PortKind × UInt16) :=
  bound.map fun b => (b.1.portKind, b.2.port)

lemma free_take (h : Host) (t : Transport) (port : UInt16) :
    (h.take t.portKind port).free t port = h := by
  simp [free, take]

lemma freeAll_free (h : Host) (bound : List (Transport × Endpoint)) (t : Transport)
    (port : UInt16) : (h.free t port).freeAll bound = (h.freeAll bound).free t port := by
  induction bound generalizing h with
  | nil => rfl
  | cons b bound ih =>
    have hcomm : (h.free t port).free b.1 b.2.port = (h.free b.1 b.2.port).free t port := by
      simp only [free, List.erase_comm]
    show ((h.free t port).free b.1 b.2.port).freeAll bound = _
    rw [hcomm, ih]
    rfl

/-- The ports of the station go, and those of others stay. -/
lemma freeAll_perm {others : List (PortKind × UInt16)}
    (hperm : h.taken.Perm (ports bound ++ others)) : (h.freeAll bound).taken.Perm others := by
  induction bound generalizing h with
  | nil => exact hperm
  | cons b bound ih =>
    refine ih ?_
    have herase := hperm.erase (b.1.portKind, b.2.port)
    rwa [ports, List.map_cons, List.cons_append, List.erase_cons_head] at herase

namespace Binds

lemma transports (hbinds : Binds config h ts bound h') :
    bound.map (·.1) = ts.filter fun t => (config.port t).isSome := by
  induction hbinds with
  | done => rfl
  | disabled off _ ih => simp [off, ih]
  | bound on _ _ _ ih => simp [on, ih]

lemma taken (hbinds : Binds config h ts bound h') :
    h'.taken.Perm (ports bound ++ h.taken) := by
  induction hbinds with
  | done => exact .refl _
  | disabled _ _ ih => exact ih
  | bound on _ _ _ ih =>
    refine ih.trans ?_
    simp only [take, ports, List.map_cons, Endpoint.port_ofIp]
    exact List.perm_middle

/-- Where a transport is bound: on the address of the station, and on the port it asks for or, for
zero, on some other, which nobody had. -/
lemma address (hbinds : Binds config h ts bound h') {t : Transport} {a : Endpoint}
    (hmem : (t, a) ∈ bound) : a.ip = config.bindAddress ∧ (t.portKind, a.port) ∉ h.taken ∧
      ∃ asked, config.port t = some asked ∧ Serves asked a.port := by
  induction hbinds with
  | done => cases hmem
  | disabled _ _ ih => exact ih hmem
  | bound on serves free _ ih =>
    rcases List.mem_cons.mp hmem with heq | hlater
    · obtain ⟨rfl, rfl⟩ := Prod.mk.inj heq
      rw [Endpoint.ip_ofIp, Endpoint.port_ofIp]
      exact ⟨rfl, free, _, on, serves⟩
    · obtain ⟨hip, hfree, hasked⟩ := ih hlater
      exact ⟨hip, fun htaken => hfree (List.mem_cons_of_mem _ htaken), hasked⟩

lemma freeAll (hbinds : Binds config h ts bound h') : h'.freeAll bound = h := by
  induction hbinds with
  | done => rfl
  | disabled _ _ ih => exact ih
  | @bound h h' t ts asked port bound _ _ _ _ ih =>
    show (h'.free t (Endpoint.ofIp config.bindAddress port).port).freeAll bound = h
    rw [Endpoint.port_ofIp, freeAll_free, ih, free_take]

end Binds

end Host
end Station
end Telemetry
