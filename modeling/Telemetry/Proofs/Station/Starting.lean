import Telemetry.Proofs.Station.Conservation
import Telemetry.Proofs.Station.Ports
import Telemetry.Station.Service

/-!
Starting and closing, over and over.

What goes on while the station runs, its routers and exporters, leaves alone where it listens and
which ports are taken. So at any time the ports that are taken are those the station listens on and
those of others, and neither starting nor closing can leave one behind.
-/

namespace Telemetry.Station

namespace Controller

variable {c : Controller}

lemma config_receive (c : Controller) (t : Transport) (peer : Endpoint) (bs : Octets) :
    (c.receive t peer bs).1.config = c.config := by
  set counted : Controller :=
    { c with counters.datagramsReceived := c.counters.datagramsReceived + 1 } with hcounted
  obtain ⟨templates, hkeeps, -, -⟩ := counted.decodeDatagram_keeps t peer bs
  rw [receive, ← hcounted]
  generalize counted.decodeDatagram t peer bs = decoded at hkeeps ⊢
  obtain ⟨_ | packet, d, lines⟩ := decoded
  · obtain rfl : d = { counted with templates } := hkeeps
    rfl
  · obtain rfl : d = { counted with templates } := hkeeps
    rfl

end Controller

namespace Service

/-! ### What traffic leaves alone -/

/-- The same machine and settings, and the same places to listen. -/
structure Stays (s : Service) (r : Running) (s' : Service) (r' : Running) : Prop where
  host : s'.host = s.host
  config : s'.controller.config = s.controller.config
  addresses : r'.addresses = r.addresses

namespace Stays

variable {s s' s'' : Service} {r r' r'' : Running}

lemma refl (s : Service) (r : Running) : Stays s r s r := ⟨rfl, rfl, rfl⟩

lemma trans (h : Stays s r s' r') (h' : Stays s' r' s'' r'') : Stays s r s'' r'' :=
  ⟨h'.host.trans h.host, h'.config.trans h.config, h'.addresses.trans h.addresses⟩

lemma acceptSteps (s : Service) (r : Running) (events : List AcceptEvent) :
    Stays s r (s.acceptSteps r events).1 (s.acceptSteps r events).2 := ⟨rfl, rfl, rfl⟩

lemma sessionStep (s : Service) (r : Running) (id : Nat) (e : SessionEvent) :
    Stays s r (s.sessionStep r id e).1 (s.sessionStep r id e).2.1 := by
  unfold Service.sessionStep
  split
  · exact refl s r
  · next live _ =>
    obtain ⟨ps, n, next, hturns⟩ := LiveSession.Turns.handle e live
    have hconfig : (LiveSession.Work.handle ⟨s.controller, live, {}⟩ e).controller.config =
        s.controller.config := by
      rw [hturns.controller]
      exact Controller.config_dispatchAll _
    dsimp only
    split_ifs
    · exact ⟨rfl, hconfig, rfl⟩
    · exact ⟨rfl, hconfig, rfl⟩

lemma stopAll (s : Service) (r : Running) (ids : List Nat) :
    Stays s r (s.stopAll r ids).1 (s.stopAll r ids).2.1 := by
  unfold Service.stopAll
  induction ids using List.reverseRecOn with
  | nil => exact refl s r
  | append_singleton ids id ih =>
    rw [List.foldl_append]
    exact ih.trans (sessionStep _ _ id .stopNow)

end Stays

variable {s : Service}

lemma addresses_of_some {r : Running} (hr : s.running = some r) : s.addresses = r.addresses := by
  rw [addresses, hr]

/-- Nothing of what starting and closing are about is changed. -/
structure Undisturbed (s s' : Service) : Prop where
  host : s'.host = s.host
  config : s'.controller.config = s.controller.config
  running : s'.isRunning = s.isRunning
  addresses : s'.addresses = s.addresses

namespace Undisturbed

lemma refl (s : Service) : Undisturbed s s := ⟨rfl, rfl, rfl, rfl⟩

lemma of_stays {s' : Service} {r r' : Running} (hr : s.running = some r) (h : Stays s r s' r') :
    Undisturbed s { s' with running := some r' } where
  host := h.host
  config := h.config
  running := by rw [isRunning, isRunning, hr]; rfl
  addresses := h.addresses.trans (addresses_of_some hr).symm

lemma connect (s : Service) (peer : Endpoint) : Undisturbed s (s.connect peer).2.1 := by
  unfold Service.connect
  split
  · exact refl s
  · next r hr =>
    have hstays := Stays.acceptSteps s r [.arrive]
    dsimp only
    split_ifs
    · exact refl s
    · exact of_stays hr ⟨hstays.host, hstays.config, hstays.addresses⟩
    · exact of_stays hr hstays

lemma onSession (s : Service) (id : Nat) (e : SessionEvent) :
    Undisturbed s (s.onSession id e).1 := by
  unfold Service.onSession
  split
  · exact refl s
  · next r hr => exact of_stays hr (Stays.sessionStep s r id e)

lemma datagram (s : Service) (t : Transport) (peer : Endpoint) (bs : Octets) :
    Undisturbed s (s.datagram t peer bs).2.1 := by
  unfold Service.datagram
  split_ifs
  · exact refl s
  · exact ⟨rfl, Controller.config_receive _ _ _ _, rfl, rfl⟩

end Undisturbed

/-! ### Starting and closing -/

lemma addresses_of_not_running (h : s.isRunning = false) : s.addresses = [] := by
  unfold isRunning at h
  unfold addresses
  cases hr : s.running with
  | none => rfl
  | some r => simp [hr] at h

lemma start_running (choice : PortChoice) (h : s.isRunning = true) :
    s.start choice = (.ok (), s, [⟨.info, "collector already running"⟩]) := by
  obtain ⟨r, hr⟩ := Option.isSome_iff_exists.mp h
  rw [start, hr]

/-- What starting does where the station does not run: all transports are bound, or the first that
is blocked is named and nothing else has happened. -/
lemma start_stopped (choice : PortChoice) (h : s.isRunning = false) :
    (∃ s' lines, s.start choice = (.ok (), s', lines) ∧ s'.isRunning = true ∧
      s'.controller = s.controller ∧
      Host.Binds s.controller.config s.host Host.order s'.addresses s'.host) ∨
    ∃ e bound h', s.start choice = (.error e, s, []) ∧
      Host.Stops s.controller.config s.host Host.order e bound h' := by
  have hnone : s.running = none := Option.not_isSome_iff_eq_none.mp (ne_true_of_eq_false h)
  unfold start
  rw [hnone]
  dsimp only
  rcases Host.bindEach_cases choice s.controller.config Host.order s.host with
    ⟨bound, h', hok, hbinds⟩ | ⟨e, bound, h', herror, hstops⟩
  · rw [Host.bindAll, hok]
    exact .inl ⟨_, _, rfl, rfl, rfl, hbinds⟩
  · rw [Host.bindAll, herror]
    exact .inr ⟨e, bound, h', rfl, hstops⟩

lemma close_stopped (h : s.isRunning = false) : s.close.1 = s := by
  have hnone : s.running = none := Option.not_isSome_iff_eq_none.mp (ne_true_of_eq_false h)
  rw [close, hnone]

lemma isRunning_close (s : Service) : s.close.1.isRunning = false := by
  unfold close
  split
  · next hnone => simp [isRunning, hnone]
  · rfl

/-- Closing gives back the ports that the station listens on, and no others. -/
lemma close_keeps (s : Service) : s.close.1.host = s.host.freeAll s.addresses ∧
    s.close.1.controller.config = s.controller.config := by
  unfold close
  split
  · next hnone =>
    rw [addresses, hnone]
    exact ⟨rfl, rfl⟩
  · next r hr =>
    have hstays := (Stays.acceptSteps s r [.stop]).trans
      (Stays.stopAll _ _ ((s.acceptSteps r [.stop]).2.sessions.map (·.1)))
    dsimp only
    rw [hstays.host, hstays.addresses, addresses_of_some hr]
    exact ⟨rfl, hstays.config⟩

end Service

/-! ### Histories -/

inductive Happening where
  /-- The station is started, and any free port may be given for zero. -/
  | start (choice : PortChoice)
  | close
  | connect (peer : Endpoint)
  | session (id : Nat) (event : SessionEvent)
  | datagram (transport : Transport) (peer : Endpoint) (bytes : Octets)
  /-- Somebody else takes a port, if it is free. -/
  | seize (kind : PortKind) (port : UInt16)
  /-- Somebody else gives a port back. -/
  | leave (kind : PortKind) (port : UInt16)

/-- A station, and the ports that others have on its machine. -/
structure Site where
  service : Service
  others : List (PortKind × UInt16)

namespace Site

def perform (s : Site) : Happening → Site
  | .start choice => { s with service := (s.service.start choice).2.1 }
  | .close => { s with service := s.service.close.1 }
  | .connect peer => { s with service := (s.service.connect peer).2.1 }
  | .session id e => { s with service := (s.service.onSession id e).1 }
  | .datagram t peer bs => { s with service := (s.service.datagram t peer bs).2.1 }
  | .seize kind port =>
    if (kind, port) ∈ s.service.host.taken then s
    else ⟨{ s.service with host := s.service.host.take kind port }, (kind, port) :: s.others⟩
  | .leave kind port =>
    if (kind, port) ∈ s.others then
      ⟨{ s.service with host.taken := s.service.host.taken.erase (kind, port) },
        s.others.erase (kind, port)⟩
    else s

def opened (controller : Controller) (host : Host) : Site := ⟨{ controller, host }, host.taken⟩

def run (controller : Controller) (host : Host) (happenings : List Happening) : Site :=
  happenings.foldl perform (opened controller host)

/-- What holds at any time of a station with these settings. -/
structure Kept (config : Config) (s : Site) : Prop where
  settings : s.service.controller.config = config
  /-- The ports that are taken are those the station listens on and those of others. -/
  taken : s.service.host.taken.Perm (Host.ports s.service.addresses ++ s.others)
  apart : ∀ x ∈ Host.ports s.service.addresses, x ∉ s.others
  /-- While it runs it listens on all transports that have a port. -/
  transports : s.service.isRunning = true →
    s.service.addresses.map (·.1) = Host.order.filter fun t => (config.port t).isSome

lemma kept_opened (controller : Controller) (host : Host) :
    Kept controller.config (opened controller host) where
  settings := rfl
  taken := .refl _
  apart x hx := by cases hx
  transports h := by cases h

variable {config : Config} {s : Site}

lemma Kept.undisturbed (h : Kept config s) {service : Service}
    (same : s.service.Undisturbed service) : Kept config { s with service } where
  settings := same.config.trans h.settings
  taken := by
    rw [same.host, same.addresses]
    exact h.taken
  apart := by
    rw [same.addresses]
    exact h.apart
  transports hrunning := by
    rw [same.addresses]
    exact h.transports (same.running.symm.trans hrunning)

lemma Kept.start (h : Kept config s) (choice : PortChoice) :
    Kept config (s.perform (.start choice)) := by
  simp only [Site.perform]
  cases hrunning : s.service.isRunning with
  | true =>
    rw [Service.start_running choice hrunning]
    exact h
  | false =>
    have hnowhere := Service.addresses_of_not_running hrunning
    -- nothing is the station's own, so what is taken is taken by others
    have hothers : s.service.host.taken.Perm s.others := by
      have := h.taken
      rwa [hnowhere] at this
    rcases Service.start_stopped choice hrunning with
      ⟨s', lines, hstart, -, hcontroller, hbinds⟩ | ⟨e, bound, h', hstart, -⟩
    · rw [hstart]
      rw [h.settings] at hbinds
      refine ⟨by rw [hcontroller, h.settings], ?_, ?_, fun _ => hbinds.transports⟩
      · exact hbinds.taken.trans (hothers.append_left _)
      · intro x hx hother
        obtain ⟨⟨t, a⟩, hmem, rfl⟩ := List.mem_map.mp hx
        exact (hbinds.address hmem).2.1 (hothers.mem_iff.mpr hother)
    · rw [hstart]
      exact h

lemma Kept.close (h : Kept config s) : Kept config (s.perform .close) := by
  obtain ⟨hhost, hconfig⟩ := s.service.close_keeps
  have hstopped := s.service.isRunning_close
  have hnowhere := Service.addresses_of_not_running hstopped
  refine ⟨hconfig.trans h.settings, ?_, ?_, fun hrunning => ?_⟩
  · show s.service.close.1.host.taken.Perm (Host.ports s.service.close.1.addresses ++ s.others)
    rw [hhost, hnowhere]
    exact Host.freeAll_perm h.taken
  · show ∀ x ∈ Host.ports s.service.close.1.addresses, x ∉ s.others
    rw [hnowhere]
    intro x hx
    cases hx
  · exact absurd hrunning (by simp [Site.perform, hstopped])

lemma Kept.seize (h : Kept config s) (kind : PortKind) (port : UInt16) :
    Kept config (s.perform (.seize kind port)) := by
  simp only [Site.perform]
  split_ifs with htaken
  · exact h
  · refine ⟨h.settings, ?_, ?_, h.transports⟩
    · exact (h.taken.cons _).trans List.perm_middle.symm
    · intro x hx hother
      rcases List.mem_cons.mp hother with rfl | hother
      · exact htaken (h.taken.mem_iff.mpr (List.mem_append_left _ hx))
      · exact h.apart x hx hother

lemma Kept.leave (h : Kept config s) (kind : PortKind) (port : UInt16) :
    Kept config (s.perform (.leave kind port)) := by
  simp only [Site.perform]
  split_ifs with hmem
  · refine ⟨h.settings, ?_, ?_, h.transports⟩
    · have hnot : (kind, port) ∉ Host.ports s.service.addresses := fun hx => h.apart _ hx hmem
      have herase := h.taken.erase (kind, port)
      rwa [List.erase_append_right _ hnot] at herase
    · exact fun x hx hother => h.apart x hx (List.mem_of_mem_erase hother)
  · exact h

lemma Kept.perform (h : Kept config s) (happening : Happening) :
    Kept config (s.perform happening) := by
  cases happening with
  | start choice => exact h.start choice
  | close => exact h.close
  | connect peer => exact h.undisturbed (.connect _ peer)
  | session id e => exact h.undisturbed (.onSession _ id e)
  | datagram t peer bs => exact h.undisturbed (.datagram _ t peer bs)
  | seize kind port => exact h.seize kind port
  | leave kind port => exact h.leave kind port

lemma kept_run (controller : Controller) (host : Host) (happenings : List Happening) :
    Kept controller.config (run controller host happenings) := by
  unfold run
  induction happenings using List.reverseRecOn with
  | nil => exact kept_opened controller host
  | append_singleton happenings happening ih =>
    rw [List.foldl_append]
    exact ih.perform happening

/-- **Starting is all or nothing.** Start and close a station in any order, with whatever traffic in
between, on a machine where others take ports and give them back. While it runs it listens on all
transports that have a port, in their order, and else on none; and the ports that are taken are its
own and those of others.

Starting it while it runs goes well and changes nothing. Starting it while it does not run either
binds all transports that have a port, each on a port that was free and is what it asks for; or it
names the first that is blocked by the ports taken then, changes nothing, and each port bound in
front of that one is free as before. Closing leaves the ports of others taken and no more, and does
nothing where the station does not run. -/
theorem start_close (controller : Controller) (host : Host) (happenings : List Happening)
    (choice : PortChoice) :
    let s := run controller host happenings
    let config := controller.config
    let enabled := [Transport.bmp, .sflow, .netflow].filter fun t => (config.port t).isSome
    s.service.addresses.map (·.1) = (if s.service.isRunning then enabled else []) ∧
    s.service.host.taken.Perm (Host.ports s.service.addresses ++ s.others) ∧
    (s.service.isRunning = true → ∃ lines, s.service.start choice = (.ok (), s.service, lines)) ∧
    (s.service.isRunning = false →
      (∃ s' lines, s.service.start choice = (.ok (), s', lines) ∧ s'.isRunning = true ∧
        s'.addresses.map (·.1) = enabled ∧
        Host.Binds config s.service.host Host.order s'.addresses s'.host ∧
        ∀ t a, (t, a) ∈ s'.addresses → a.ip = config.bindAddress ∧
          (t.portKind, a.port) ∉ s.service.host.taken ∧ (t.portKind, a.port) ∈ s'.host.taken ∧
          ∃ asked, config.port t = some asked ∧ Serves asked a.port) ∨
      ∃ e bound h', s.service.start choice = (.error e, s.service, []) ∧ s.service.addresses = [] ∧
        Host.Stops config s.service.host Host.order e bound h' ∧
        (∀ x ∈ Host.ports bound, x ∈ h'.taken ∧ x ∉ s.service.host.taken) ∧
        h'.freeAll bound = s.service.host) ∧
    s.service.close.1.isRunning = false ∧ s.service.close.1.addresses = [] ∧
    s.service.close.1.host.taken.Perm s.others ∧
    (∀ x ∈ Host.ports s.service.addresses, x ∉ s.service.close.1.host.taken) ∧
    (s.service.isRunning = false → s.service.close.1 = s.service) := by
  intro s config enabled
  have hkept : Kept config s := kept_run controller host happenings
  have hclosed : s.service.close.1.host.taken.Perm s.others := by
    rw [s.service.close_keeps.1]
    exact Host.freeAll_perm hkept.taken
  refine ⟨?_, hkept.taken, fun hrunning => ⟨_, Service.start_running choice hrunning⟩,
    fun hstopped => ?_, s.service.isRunning_close,
    Service.addresses_of_not_running s.service.isRunning_close, hclosed, fun x hx htaken => ?_,
    Service.close_stopped⟩
  · split_ifs with hrunning
    · exact hkept.transports hrunning
    · rw [Service.addresses_of_not_running (Bool.eq_false_iff.mpr hrunning)]
      rfl
  · rcases Service.start_stopped choice hstopped with
      ⟨s', lines, hstart, hrunning, -, hbinds⟩ | ⟨e, bound, h', hstart, hstops⟩
    · rw [hkept.settings] at hbinds
      refine .inl ⟨s', lines, hstart, hrunning, hbinds.transports, hbinds, fun t a hmem => ?_⟩
      obtain ⟨hip, hfree, hasked⟩ := hbinds.address hmem
      have hport : (t.portKind, a.port) ∈ Host.ports s'.addresses := List.mem_map.mpr ⟨_, hmem, rfl⟩
      exact ⟨hip, hfree, hbinds.taken.mem_iff.mpr (List.mem_append_left _ hport), hasked⟩
    · rw [hkept.settings] at hstops
      obtain ⟨before, after, -, hbinds⟩ := hstops.front
      refine .inr ⟨e, bound, h', hstart, Service.addresses_of_not_running hstopped, hstops,
        fun x hx => ?_, hbinds.freeAll⟩
      obtain ⟨⟨t, a⟩, hmem, rfl⟩ := List.mem_map.mp hx
      exact ⟨hbinds.taken.mem_iff.mpr (List.mem_append_left _ hx), (hbinds.address hmem).2.1⟩
  · exact hkept.apart x hx (hclosed.mem_iff.mp htaken)

/-- sFlow and NetFlow on one port: NetFlow is named, and nothing stays bound. -/
example (choice : PortChoice) :
    let s := (opened (.new { netflowPort := some 6343 }) {}).service.start choice
    s.1 = .error ⟨.netflow, .v4 (Block.ofNat 4 0) 6343⟩ ∧ s.2.1.host.taken = [] :=
  ⟨rfl, rfl⟩

end Site
end Telemetry.Station
