import Telemetry.Proofs.Netflow.CacheCounts
import Telemetry.Proofs.Netflow.Tasks

/-!
Tasks that race for a template.

A packet offers its templates in a first pass and looks them up in a second one. Between the two,
another task may have a template accepted under the same key, and then that one is found. What a
look-up finds is settled by the order in which the cache has taken the accesses of all tasks, and
by nothing else: it is the definition accepted last under its key. So a packet gets its own
definition back if none that is accepted behind it is another.
-/

namespace Telemetry.Netflow

open Wire Reader

/-! ### What a packet asks for -/

/-- The templates that a packet announces under a key, in its order. -/
def definitions (key : TemplateKey) (exporter : Ip) (bs : Octets) : List Template :=
  match Header.read.run bs with
  | (.ok header, rest) =>
    ((RawSet.gather rest).items.flatMap RawSet.announced).filter fun t =>
      key = ⟨exporter, header.source, t.id⟩
  | (.error _, _) => []

/-- The keys and the bytes of the data among flowsets. -/
def wanted (exporter : Ip) (source : UInt32) (sets : List RawSet) : List (TemplateKey × Octets) :=
  (sets.filterMap RawSet.data?).map fun d => (⟨exporter, source, d.1⟩, d.2)

def requests (exporter : Ip) (bs : Octets) : List (TemplateKey × Octets) :=
  match Header.read.run bs with
  | (.ok header, rest) => wanted exporter header.source (RawSet.gather rest).items
  | (.error _, _) => []

namespace Look

def asked (l : Look) : TemplateKey × Octets := (l.key, l.body)

/-- What data is decoded to with the template that was found. -/
def decoded (l : Look) : Option (UInt16 × List DataRecord) :=
  l.found.map fun t => (l.key.template, t.records l.body)

end Look

namespace Access

def look? : Access → Option Look
  | looked l => some l
  | offered .. => none

def offered? (key : TemplateKey) : Access → Option Template
  | offered k t _ => if k = key then some t else none
  | looked _ => none

def leaves? (key : TemplateKey) : Access → Option Template
  | offered k t true => if k = key then some t else none
  | _ => none

end Access

/-! ### Tasks -/

structure Task where
  exporter : Ip
  packet : Octets
  stage : Stage

/-- Tasks with one cache, and in order what has been done to it, with the numbers of the tasks. -/
structure Pool where
  cache : TemplateCache
  tasks : List Task
  log : List (Nat × Access)

namespace Pool

/-- For each packet of an exporter there is a task. Who decodes one packet after the other is
several tasks, none of which begins before the one in front of it has ended. -/
def start (c : TemplateCache) (packets : List (Ip × Octets)) : Pool :=
  ⟨c, packets.map fun p => ⟨p.1, p.2, .start p.2⟩, []⟩

def step (p : Pool) (i : Nat) : Pool :=
  match p.tasks[i]? with
  | none => p
  | some task =>
    let (stage, cache, access) := task.stage.step task.exporter p.cache
    ⟨cache, p.tasks.set i { task with stage }, p.log ++ (access.map (i, ·)).toList⟩

/-- Steps of the tasks in the order of a schedule. -/
def run (c : TemplateCache) (packets : List (Ip × Octets)) (schedule : List Nat) : Pool :=
  schedule.foldl step (start c packets)

def own (i : Nat) (log : List (Nat × Access)) : List Access :=
  log.filterMap fun e => if e.1 = i then some e.2 else none

def latest (key : TemplateKey) (log : List (Nat × Access)) : Option Template :=
  log.reverse.findSome? fun e => e.2.leaves? key

variable {c : TemplateCache} {exporter : Ip} {bs : Octets} {key : TemplateKey} {i j : Nat}

lemma own_append (front back : List (Nat × Access)) :
    own i (front ++ back) = own i front ++ own i back := List.filterMap_append

lemma own_toList_self (access : Option Access) :
    own i (access.map (i, ·)).toList = access.toList := by
  cases access <;> simp [own]

lemma own_toList_other (h : i ≠ j) (access : Option Access) :
    own j (access.map (i, ·)).toList = [] := by
  cases access <;> simp [own, h]

lemma latest_append (front back : List (Nat × Access)) :
    latest key (front ++ back) = (latest key back).or (latest key front) := by
  rw [latest, List.reverse_append, List.findSome?_append]
  rfl

lemma latest_toList (access : Option Access) :
    latest key (access.map (i, ·)).toList = access.bind (·.leaves? key) := by
  cases access <;> simp [latest]

/-! ### One task -/

/-- How far a task is, going by what it has done to the cache. -/
inductive Stands (exporter : Ip) (bs : Octets) (own : List Access) : Stage → Prop where
  | offering {header sets failure left}
    (offers : ∀ key, own.filterMap (·.offered? key) ++
      left.filter (fun t => key = ⟨exporter, header.source, t.id⟩) = definitions key exporter bs)
    (silent : own.filterMap Access.look? = [])
    (waiting : wanted exporter header.source sets = requests exporter bs) :
    Stands exporter bs own (.offering header sets failure left)
  | resolving {header left resolved}
    (offers : ∀ key, own.filterMap (·.offered? key) = definitions key exporter bs)
    (asked : (own.filterMap Access.look?).map Look.asked ++ wanted exporter header.source left =
      requests exporter bs)
    (told : (own.filterMap Access.look?).map Look.decoded =
      (resolved.filterMap FlowSet.data?).map some) :
    Stands exporter bs own (.resolving header left resolved)
  | answered {header resolved}
    (asked : (own.filterMap Access.look?).map Look.asked = requests exporter bs)
    (told : (own.filterMap Access.look?).map Look.decoded =
      (resolved.filterMap FlowSet.data?).map some) :
    Stands exporter bs own (.ended (.ok ⟨header, resolved⟩))
  | refused {e} : Stands exporter bs own (.ended (.error e))

lemma stands_start (exporter : Ip) (bs : Octets) : Stands exporter bs [] (.start bs) := by
  unfold Stage.start
  split
  · exact .refused
  · next header rest hheader =>
    refine .offering (fun key => ?_) rfl ?_
    · simp [definitions, hheader]
    · simp [requests, hheader]

lemma Stands.step {own : List Access} {stage stage' : Stage} {d : TemplateCache}
    {access : Option Access} (h : Stands exporter bs own stage)
    (hstep : Stage.Steps exporter c stage (stage', d, access)) :
    Stands exporter bs (own ++ access.toList) stage' := by
  cases hstep with
  | @offers header sets failure t left =>
    cases h with
    | offering offers silent waiting =>
      refine .offering (fun key => ?_) ?_ waiting
      · rw [← offers key]
        by_cases hkey : key = ⟨exporter, header.source, t.id⟩
        · subst hkey
          simp [Access.offered?]
        · simp [Access.offered?, hkey, Ne.symm hkey]
      · simp [silent, Access.look?]
  | breaks => exact .refused
  | turns =>
    cases h with
    | offering offers silent waiting =>
      refine .resolving (fun key => ?_) ?_ ?_
      · simpa using offers key
      · simpa [silent] using waiting
      · simp [silent]
  | decodes found =>
    cases h with
    | resolving offers asked told =>
      refine .resolving (fun key => ?_) ?_ ?_
      · simpa [Access.offered?] using offers key
      · simpa [Access.look?, Look.asked, wanted, RawSet.data?] using asked
      · simpa [Access.look?, Look.decoded, FlowSet.data?] using told
  | misses missing => exact .refused
  | passes plain free =>
    rw [Option.toList_none, List.append_nil]
    cases h with
    | resolving offers asked told =>
      refine .resolving offers ?_ ?_
      · simpa [wanted, plain] using asked
      · simpa [free] using told
  | ends =>
    rw [Option.toList_none, List.append_nil]
    cases h with
    | resolving offers asked told => exact .answered (by simpa [wanted] using asked) told
  | rests => rwa [Option.toList_none, List.append_nil]

/-- What a step finds under a key, going by its access. -/
lemma get?_of_steps {stage stage' : Stage} {d : TemplateCache} {access : Option Access}
    (h : Stage.Steps exporter c stage (stage', d, access)) (key : TemplateKey) :
    d.templates.get? key = (access.bind (·.leaves? key)).or (c.templates.get? key) := by
  cases h with
  | @offers header sets failure t left =>
    rw [TemplateCache.get?_insert, Option.bind_some]
    cases haccepted : (c.insert exporter header.source t).1 with
    | true =>
      by_cases hkey : key = ⟨exporter, header.source, t.id⟩
      · simp [Access.leaves?, hkey]
      · simp [Access.leaves?, hkey, Ne.symm hkey]
    | false => simp [Access.leaves?]
  | _ => rfl

/-! ### All tasks -/

/-- What is known of an access, if those in `front` came before it. An offer is one that the packet
of the task announces. A look-up comes behind all offers of its packet, and finds what the last
offer accepted under its key has left, and where there is none, what was there at the start. -/
def Lawful (c : TemplateCache) (packets : List (Ip × Octets)) (front : List (Nat × Access))
    (i : Nat) : Access → Prop
  | .offered key t _ => ∃ exporter bs, packets[i]? = some (exporter, bs) ∧
    t ∈ definitions key exporter bs
  | .looked look => look.found = (latest look.key front).or (c.templates.get? look.key) ∧
    ∃ exporter bs, packets[i]? = some (exporter, bs) ∧
      (own i front).filterMap (·.offered? look.key) = definitions look.key exporter bs

structure Kept (c : TemplateCache) (packets : List (Ip × Octets)) (p : Pool) : Prop where
  cache : ∀ key, p.cache.templates.get? key = (latest key p.log).or (c.templates.get? key)
  arrived : p.tasks.map (fun task => (task.exporter, task.packet)) = packets
  tasks : ∀ i task, p.tasks[i]? = some task →
    Stands task.exporter task.packet (own i p.log) task.stage
  log : ∀ front i access back, p.log = front ++ (i, access) :: back →
    Lawful c packets front i access

lemma kept_start (c : TemplateCache) (packets : List (Ip × Octets)) :
    Kept c packets (start c packets) where
  cache key := rfl
  arrived := by simp [start, Function.comp_def]
  tasks i task h := by
    simp only [start, List.getElem?_map, Option.map_eq_some_iff] at h
    obtain ⟨packet, -, rfl⟩ := h
    exact stands_start packet.1 packet.2
  log front i access back h := by simp [start] at h

variable {packets : List (Ip × Octets)} {p : Pool}

lemma Kept.lawful (h : Kept c packets p) {task : Task} (htask : p.tasks[i]? = some task)
    {stage : Stage} {d : TemplateCache} {access : Access}
    (hstep : Stage.Steps task.exporter p.cache task.stage (stage, d, some access)) :
    Lawful c packets p.log i access := by
  have hpacket : packets[i]? = some (task.exporter, task.packet) := by
    rw [← h.arrived, List.getElem?_map, htask, Option.map_some]
  have hstands := h.tasks i task htask
  obtain ⟨exporter, bs, current⟩ := task
  dsimp only at hstep hstands hpacket
  cases hstep with
  | offers =>
    cases hstands with
    | offering offers _ _ => exact ⟨exporter, bs, hpacket, by simp [← offers]⟩
  | decodes found =>
    cases hstands with
    | resolving offers _ _ =>
      exact ⟨found.symm.trans (h.cache _), exporter, bs, hpacket, offers _⟩
  | misses missing =>
    cases hstands with
    | resolving offers _ _ =>
      exact ⟨missing.symm.trans (h.cache _), exporter, bs, hpacket, offers _⟩

/-- A list that is longer by at most one entry is cut in front of an entry of it, or of the new
one. -/
lemma eq_append_toList {α : Type} {log front back : List α} {o : Option α} {a : α}
    (h : log ++ o.toList = front ++ a :: back) :
    (∃ rest, log = front ++ a :: rest) ∨ (log = front ∧ o = some a) := by
  cases o with
  | none => exact .inl ⟨back, by simpa using h⟩
  | some b =>
    induction back using List.reverseRecOn with
    | nil =>
      obtain ⟨hfront, hb⟩ := List.append_inj' h rfl
      exact .inr ⟨hfront, by simpa using hb⟩
    | append_singleton back c _ =>
      rw [← List.cons_append, ← List.append_assoc] at h
      exact .inl ⟨back, (List.append_inj' h rfl).1⟩

lemma Kept.step (h : Kept c packets p) (i : Nat) : Kept c packets (p.step i) := by
  unfold Pool.step
  split
  · exact h
  · next task htask =>
    have hsteps := Stage.steps task.exporter p.cache task.stage
    generalize task.stage.step task.exporter p.cache = r at hsteps ⊢
    obtain ⟨stage, d, access⟩ := r
    have hi : i < p.tasks.length := (List.getElem?_eq_some_iff.mp htask).1
    refine ⟨fun key => ?_, ?_, fun j other hother => ?_, fun front j entry back hlog => ?_⟩
    · rw [get?_of_steps hsteps, h.cache, latest_append, latest_toList, Option.or_assoc]
    · rw [← h.arrived, List.map_set]
      refine List.ext_getElem? fun k => ?_
      by_cases hk : i = k
      · subst hk
        rw [List.getElem?_set_self (by simpa using hi), List.getElem?_map, htask]
        rfl
      · rw [List.getElem?_set_ne hk]
    · rw [own_append]
      by_cases hj : i = j
      · subst hj
        rw [List.getElem?_set_self hi, Option.some.injEq] at hother
        subst hother
        rw [own_toList_self]
        exact (h.tasks i task htask).step hsteps
      · rw [own_toList_other hj, List.append_nil]
        exact h.tasks j other (by simpa [List.getElem?_set_ne hj] using hother)
    · -- an access is lawful by what was before it, so that only the new one is to be looked at
      rcases eq_append_toList hlog with ⟨rest, hold⟩ | ⟨rfl, hnew⟩
      · exact h.log front j entry rest hold
      · obtain ⟨access, rfl, hentry⟩ := Option.map_eq_some_iff.mp hnew
        obtain ⟨rfl, rfl⟩ := Prod.mk.inj hentry
        exact h.lawful htask hsteps

lemma kept_run (c : TemplateCache) (packets : List (Ip × Octets)) (schedule : List Nat) :
    Kept c packets (run c packets schedule) := by
  unfold run
  induction schedule using List.reverseRecOn with
  | nil => exact kept_start c packets
  | append_singleton schedule i ih =>
    rw [List.foldl_append]
    exact ih.step i

/-! ### Look-ups -/

lemma leaves?_eq_some {access : Access} {t : Template} :
    access.leaves? key = some t ↔ access = .offered key t true := by
  cases access with
  | offered k u accepted =>
    cases accepted with
    | true => by_cases hkey : k = key <;> simp [Access.leaves?, hkey]
    | false => simp [Access.leaves?]
  | looked look => simp [Access.leaves?]

lemma exists_of_latest {log : List (Nat × Access)} {t : Template} (h : latest key log = some t) :
    ∃ front i back, log = front ++ (i, .offered key t true) :: back := by
  obtain ⟨⟨i, access⟩, hmem, hleaves⟩ := List.exists_of_findSome?_eq_some h
  obtain rfl := leaves?_eq_some.mp hleaves
  obtain ⟨front, back, hlog⟩ := List.append_of_mem (List.mem_reverse.mp hmem)
  exact ⟨front, i, back, hlog⟩

/-- A definition stays until another one is accepted behind it. -/
lemma latest_behind (before between : List (Nat × Access)) (i : Nat) (key : TemplateKey)
    (t : Template) : latest key (before ++ (i, .offered key t true) :: between) =
      (latest key between).or (some t) := by
  have hself : latest key [(i, Access.offered key t true)] = some t := by
    simp [latest, Access.leaves?]
  rw [List.append_cons, latest_append, latest_append, hself, Option.some_or]

lemma Kept.latest_eq_none (h : Kept c packets p) {front between back : List (Nat × Access)}
    (hlog : p.log = front ++ between ++ back)
    (hown : (own i between).filterMap (·.leaves? key) = [])
    (halone : ∀ j exporter bs, j ≠ i → packets[j]? = some (exporter, bs) →
      definitions key exporter bs = []) : latest key between = none := by
  by_contra hsome
  obtain ⟨t, ht⟩ := Option.ne_none_iff_exists'.mp hsome
  obtain ⟨before, j, behind, rfl⟩ := exists_of_latest ht
  -- the definition would be of the packet itself, or of another one, and neither has any
  by_cases hj : j = i
  · subst hj
    simp [own, Access.leaves?] at hown
  · have hsplit : p.log = (front ++ before) ++ (j, .offered key t true) :: (behind ++ back) := by
      rw [hlog]
      simp
    obtain ⟨exporter, bs, hpacket, hmem⟩ := h.log _ _ _ _ hsplit
    rw [halone j exporter bs hj hpacket] at hmem
    exact absurd hmem List.not_mem_nil

/-- **What data is decoded with when tasks race.** Any number of tasks decode packets with one
cache, whatever is in it, and their accesses to it are taken in any order. A look-up comes behind
all offers of its own packet, and finds the definition accepted last under its key, whoever offered
it, or else what was there at the start. So where `t` is the last definition of the key accepted
from its own packet, it finds `t` unless others had theirs accepted behind that: then it finds the
last of those. If no other packet has a definition of the key, it finds `t`. And a task that has
decoded its packet has looked up its data in order, and decoded each with what was found for it. -/
theorem look_latest (c : TemplateCache) (packets : List (Ip × Octets)) (schedule : List Nat) :
    let p := run c packets schedule
    (∀ front i look back, p.log = front ++ (i, .looked look) :: back →
      look.found = (latest look.key front).or (c.templates.get? look.key) ∧
      (∃ exporter bs, packets[i]? = some (exporter, bs) ∧
        (own i front).filterMap (·.offered? look.key) = definitions look.key exporter bs) ∧
      ∀ before t between, front = before ++ (i, .offered look.key t true) :: between →
        (own i between).filterMap (·.leaves? look.key) = [] →
        look.found = (latest look.key between).or (some t) ∧
        ((∀ j exporter bs, j ≠ i → packets[j]? = some (exporter, bs) →
          definitions look.key exporter bs = []) → look.found = some t)) ∧
    ∀ i exporter bs answer, p.tasks[i]? = some ⟨exporter, bs, .ended (.ok answer)⟩ →
      let looks := (own i p.log).filterMap Access.look?
      looks.map Look.asked = requests exporter bs ∧
        looks.map Look.decoded = (answer.flowSets.filterMap FlowSet.data?).map some := by
  intro p
  have hkept : Kept c packets p := kept_run c packets schedule
  refine ⟨fun front i look back hlog => ?_, fun i exporter bs answer htask => ?_⟩
  · obtain ⟨hfound, exporter, bs, hpacket, hoffers⟩ := hkept.log front i _ back hlog
    refine ⟨hfound, ⟨exporter, bs, hpacket, hoffers⟩, ?_⟩
    rintro before t between rfl hown
    have hlatest : look.found = (latest look.key between).or (some t) := by
      rw [hfound, latest_behind, Option.or_assoc, Option.some_or]
    refine ⟨hlatest, fun halone => ?_⟩
    have hsplit : p.log = (before ++ [(i, .offered look.key t true)]) ++ between ++
        (i, .looked look) :: back := by
      rw [hlog]
      simp
    rw [hlatest, hkept.latest_eq_none hsplit hown halone, Option.none_or]
  · have hstands := hkept.tasks i _ htask
    cases hstands with
    | answered asked told => exact ⟨asked, told⟩

/-- A packet with a template of one byte and two bytes of data, and another packet whose template of
two bytes under the same id is accepted before the data is looked up: the data is taken for one
number of two bytes. It would have been two of one byte each. -/
theorem look_latest_overtaken :
    let router := Ip.v4 (Block.ofNat 4 0xc000020a)
    let header : Header := ⟨9, 2, 0, 0, 0, 7⟩
    let key : TemplateKey := ⟨router, 7, 256⟩
    let narrow : Template := ⟨256, [], [⟨.inBytes, 1⟩]⟩
    let wide : Template := ⟨256, [], [⟨.inBytes, 2⟩]⟩
    let first := packetBytes header
      [⟨0, [1, 0, 0, 1, 0, 1, 0, 1], by decide⟩, ⟨256, [1, 2], by decide⟩]
    let second := packetBytes header [⟨0, [1, 0, 0, 1, 0, 1, 0, 2], by decide⟩]
    let record (n : UInt64) : DataRecord := ⟨[], [⟨.inBytes, .unsigned n⟩]⟩
    let p := run (.empty 8) [(router, first), (router, second)] [0, 1, 0, 0, 0, 0]
    (decode router (.empty 8) first).answer =
        .ok ⟨header, [.templates [narrow], .data 256 [record 1, record 2]]⟩ ∧
      p.log = [(0, .offered key narrow true), (1, .offered key wide true),
        (0, .looked ⟨key, [1, 2], some wide⟩)] ∧
      p.tasks[0]?.map (·.stage) =
        some (.ended (.ok ⟨header, [.templates [narrow], .data 256 [record 258]]⟩)) ∧
      ¬ ∀ front i look back, p.log = front ++ (i, .looked look) :: back →
        ∀ before t between, front = before ++ (i, .offered look.key t true) :: between →
          (own i between).filterMap (·.leaves? look.key) = [] → look.found = some t := by
  intro router header key narrow wide first second record p
  have hlog : p.log = [(0, .offered key narrow true), (1, .offered key wide true),
      (0, .looked ⟨key, [1, 2], some wide⟩)] := by decide
  refine ⟨by decide, hlog, by decide, fun hclaim => ?_⟩
  have hown : (own 0 [(1, .offered key wide true)]).filterMap (·.leaves? key) = [] := by decide
  have hfound := hclaim [(0, .offered key narrow true), (1, .offered key wide true)] _ _ [] hlog []
    narrow _ rfl hown
  revert hfound
  decide

end Pool
end Telemetry.Netflow
