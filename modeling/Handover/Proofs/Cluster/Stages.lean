import Handover.Proofs.Cluster.Amendments
import Handover.Proofs.Cluster.Consistency
import Handover.Proofs.Placement

/-! # Between ticks and within them

Between two ticks the translator of every process is settled or waits for the mapping in force
(`Resting`).  When the enforcers of a tick run, it waits exactly if its process restarts in that tick
and is settled otherwise (`Deciding`).  Each of the two leads to the other, so both hold along every
run (`resting_evolve`, `Resting.prepared`).

From this follows what a process asks for (`Deciding.mem_requests_iff`): a restarted process asks for
nothing, and every other one for the queued entities it owns that are meant for somebody.
-/

namespace Handover

namespace Process

/-- The stage in which the enforcers of a tick find a process: it waits if it restarts in that tick and
is settled otherwise. -/
structure Prepared (scenario : Scenario) (tick : Nat) (process : Process) : Prop where
  settled : scenario.restartsAt tick process.name = false → process.Settled scenario
  waiting : scenario.restartsAt tick process.name = true → process.Waiting scenario

variable {scenario : Scenario} {tick : Nat} {p q : Process}

theorem Prepared.of_alike (prepared : p.Prepared scenario tick) (alike : p.Alike q) :
    q.Prepared scenario tick := by
  refine ⟨fun stays => ?_, fun restarts => ?_⟩
  · rw [alike.name] at stays
    exact (prepared.settled stays).of_alike alike
  · rw [alike.name] at restarts
    exact (prepared.waiting restarts).of_alike alike

theorem Prepared.settled_or_waiting (prepared : p.Prepared scenario tick) :
    p.Settled scenario ∨ p.Waiting scenario := by
  cases restarts : scenario.restartsAt tick p.name with
  | false => exact .inl (prepared.settled restarts)
  | true => exact .inr (prepared.waiting restarts)

end Process

namespace Cluster

theorem mem_restartsDue {scenario : Scenario} {tick : Nat} {worker : WorkerName} :
    worker ∈ (restartsDue scenario.restarts tick).map (·.worker) ↔
      scenario.restartsAt tick worker = true := by
  simp [restartsDue, Scenario.restartsAt, and_assoc]

/-- What holds of a cluster after so many ticks. -/
structure Resting (settings : Settings) (ticks : Nat) (cluster : Cluster) : Prop where
  plan : cluster.plan = (initial settings).plan
  tick : cluster.tick = ticks
  consistent : cluster.Consistent settings.scenario
  staged : ∀ p ∈ cluster.processes, p.Settled settings.scenario ∨ p.Waiting settings.scenario

/-- What holds of a cluster when the enforcers of a tick run. -/
structure Deciding (settings : Settings) (now : Nat) (cluster : Cluster) : Prop where
  plan : cluster.plan = (initial settings).plan
  tick : cluster.tick = now
  consistent : cluster.Consistent settings.scenario
  mirrored : ∀ p ∈ cluster.processes, p.view.Mirrors cluster.entities p.name
  staged : ∀ p ∈ cluster.processes, p.Prepared settings.scenario now

variable {settings : Settings} {cluster : Cluster} {order : VisitOrder} {n : Nat}

theorem resting_initial (sound : settings.scenario.Sound) :
    Resting settings 0 (initial settings) where
  plan := rfl
  tick := rfl
  consistent := consistent_initial sound
  staged := by
    intro p member
    obtain ⟨worker, listed, rfl⟩ := List.mem_map.mp member
    exact .inr ⟨⟨listed, rfl⟩, rfl, rfl⟩

namespace Resting

variable (resting : Resting settings n cluster)

include resting

theorem mapping_eq : cluster.mapping = mappingOf settings.scenario.workers :=
  congrArg Plan.mapping resting.plan

theorem loadBalancing_eq : cluster.loadBalancing = settings.loadBalancing.enabled :=
  congrArg Plan.loadBalancing resting.plan

theorem rescanInterval_eq :
    cluster.rescanInterval = settings.coordination.rescanInterval.toNat :=
  congrArg Plan.rescanInterval resting.plan

theorem intentChanges_eq : cluster.intentChanges = settings.scenario.intentChanges :=
  congrArg Plan.intentChanges resting.plan

theorem restarts_eq : cluster.restarts = settings.scenario.restarts :=
  congrArg Plan.restarts resting.plan

end Resting

/-! ## Messages -/

/-- What only sends messages, sends messages however often it is done. -/
theorem exists_sendAll_of_mem_foldl {α : Type} {step : Cluster → α → Cluster}
    (sends : ∀ cluster a, ∀ q ∈ (step cluster a).processes,
      ∃ p ∈ cluster.processes, ∃ ops, q = p.sendAll ops)
    {steps : List α} {q : Process} (member : q ∈ (steps.foldl step cluster).processes) :
    ∃ p ∈ cluster.processes, ∃ ops, q = p.sendAll ops := by
  induction steps generalizing cluster with
  | nil => exact ⟨q, member, [], by simp [Process.sendAll]⟩
  | cons a steps ih =>
    obtain ⟨p, told, ops, rfl⟩ := ih member
    obtain ⟨p, before, ops', rfl⟩ := sends cluster a p told
    exact ⟨p, before, _, Process.sendAll_sendAll p ops' ops⟩

theorem exists_sendAll_of_mem_setIntents {changes : List IntentChange} {q : Process}
    (member : q ∈ (cluster.setIntents changes).processes) :
    ∃ p ∈ cluster.processes, ∃ ops, q = p.sendAll ops := by
  refine exists_sendAll_of_mem_foldl (fun cluster change q told => ?_) member
  rw [value_setIntent_eq_amend] at told
  exact exists_sendAll_of_mem_amend told

theorem exists_sendAll_of_mem_applyAll {requests : List (WorkerName × AclRequest)} {q : Process}
    (member : q ∈ (cluster.applyAll requests).processes) :
    ∃ p ∈ cluster.processes, ∃ ops, q = p.sendAll ops := by
  refine exists_sendAll_of_mem_foldl (fun cluster row q told => ?_) member
  rw [value_applyRequest_eq_amend] at told
  exact exists_sendAll_of_mem_amend told

/-! ## From the scripts to the enforcers -/

/-- A process that restarts is a new one, for which a mapping from before it was there and the mapping
in force wait.  To every other process the scripts only send messages. -/
theorem Resting.origin_playScripts (resting : Resting settings n cluster) {q : Process}
    (member : q ∈ cluster.playScripts.value.processes) :
    (settings.scenario.restartsAt (n + 1) q.name = true →
        ∃ inbox, q = .boot q.name [(mappingOf settings.scenario.workers).without q.name,
          mappingOf settings.scenario.workers] inbox) ∧
      (settings.scenario.restartsAt (n + 1) q.name = false → ∃ p ∈ cluster.processes, p.Alike q) := by
  rw [value_playScripts, restartAll_eq] at member
  obtain ⟨p, told, rfl⟩ := List.mem_map.mp member
  obtain ⟨r, before, ops, rfl⟩ := exists_sendAll_of_mem_setIntents told
  have due : (r.sendAll ops).name ∈ (restartsDue cluster.restarts (cluster.tick + 1)).map
      (·.worker) ↔ settings.scenario.restartsAt (n + 1) r.name = true := by
    rw [resting.tick, resting.restarts_eq]
    exact mem_restartsDue
  by_cases restarts : settings.scenario.restartsAt (n + 1) r.name = true
  · rw [if_pos (due.mpr restarts)]
    have mapping : (cluster.nextTick.setIntents
        (changesDue cluster.intentChanges (cluster.tick + 1))).mapping =
          mappingOf settings.scenario.workers :=
      (congrArg Plan.mapping (cluster.nextTick.abreast_setIntents _).1).trans resting.mapping_eq
    -- the mapping that the new process waits for is still the one of the scenario
    rw [replacement, mapping]
    exact ⟨fun _ => ⟨_, rfl⟩, fun stays => absurd restarts (Bool.eq_false_iff.mp stays)⟩
  · rw [if_neg fun named => restarts (due.mp named)]
    exact ⟨fun named => absurd named restarts, fun _ => ⟨r, before, r.alike_sendAll ops⟩⟩

theorem Resting.staged_playScripts (resting : Resting settings n cluster) {q : Process}
    (member : q ∈ cluster.playScripts.value.processes) :
    (settings.scenario.restartsAt (n + 1) q.name = false →
        q.Settled settings.scenario ∨ q.Waiting settings.scenario) ∧
      (settings.scenario.restartsAt (n + 1) q.name = true → q.Restarted settings.scenario) := by
  obtain ⟨renewed, kept⟩ := resting.origin_playScripts member
  refine ⟨fun stays => ?_, fun restarts => ?_⟩
  · obtain ⟨p, before, alike⟩ := kept stays
    rcases resting.staged p before with settled | waiting
    · exact .inl (settled.of_alike alike)
    · exact .inr (waiting.of_alike alike)
  · -- the new process keeps nothing of the old one, whose stage therefore does not matter
    have listed : q.name ∈ settings.scenario.workers := by
      rw [← resting.consistent.playScripts.names]
      exact List.mem_map.mpr ⟨q, member, rfl⟩
    obtain ⟨inbox, booted⟩ := renewed restarts
    rw [booted]
    exact ⟨⟨listed, rfl⟩, rfl, rfl⟩

/-- After delivery nothing happens to a translator or its mappings before the enforcers run: a rescan
touches the enforcers alone. -/
theorem alike_of_mem_prepared {q : Process} (member : q ∈ (cluster.prepared order).processes) :
    ∃ p ∈ cluster.playScripts.value.processes, p.deliver.value.Alike q := by
  rw [prepared_eq] at member
  split at member
  · rw [rescanned, value_eachProcess] at member
    obtain ⟨p, taken, rfl⟩ := List.mem_map.mp member
    rw [delivered, value_eachProcess] at taken
    obtain ⟨r, played, rfl⟩ := List.mem_map.mp taken
    exact ⟨r, played, Process.alike_rescan _ _⟩
  · rw [delivered, value_eachProcess] at member
    obtain ⟨p, played, rfl⟩ := List.mem_map.mp member
    exact ⟨p, played, .refl _⟩

/-- Nothing happens to them after that either: the enforcers empty their queues, and requests send
messages. -/
theorem alike_of_mem_tickIn {q : Process} (member : q ∈ (cluster.tickIn order).2.processes) :
    ∃ p ∈ (cluster.prepared order).processes, p.Alike q := by
  cases balanced : cluster.loadBalancing with
  | false =>
    rw [tickIn_of_off balanced] at member
    exact ⟨q, member, .refl q⟩
  | true =>
    rw [tickIn_of_on balanced, value_coordinate] at member
    obtain ⟨p, decides, ops, rfl⟩ := exists_sendAll_of_mem_applyAll member
    rw [decided, value_eachProcess] at decides
    obtain ⟨r, before, rfl⟩ := List.mem_map.mp decides
    exact ⟨r, before, r.alike_coordinate.trans (Process.alike_sendAll _ ops)⟩

section

variable (sound : settings.scenario.Sound) (few : settings.scenario.workers.length < UInt32.size)

include sound few

/-- Delivery takes every translator one stage further. -/
theorem Resting.staged_deliver (resting : Resting settings n cluster) {p : Process}
    (played : p ∈ cluster.playScripts.value.processes) :
    p.deliver.value.Prepared settings.scenario (n + 1) := by
  obtain ⟨stays, restarts⟩ := resting.staged_playScripts played
  refine ⟨fun stay => ?_, fun restart => ?_⟩
  · rw [p.name_deliver] at stay
    rcases stays stay with settled | waiting
    · exact settled.deliver
    · exact waiting.deliver sound few
  · rw [p.name_deliver] at restart
    exact (restarts restart).deliver sound few

theorem Resting.prepared (resting : Resting settings n cluster) (order : VisitOrder) :
    Deciding settings (n + 1) (cluster.prepared order) := by
  have abreast := cluster.abreast_prepared order
  have consistent := resting.consistent.prepared order
  refine ⟨abreast.1.trans resting.plan, abreast.2.trans (congrArg (· + 1) resting.tick),
    consistent, fun p member => ?_, fun q member => ?_⟩
  · exact consistent.view_mirrors member (inbox_of_mem_prepared member)
  · obtain ⟨p, played, alike⟩ := alike_of_mem_prepared member
    exact (resting.staged_deliver sound few played).of_alike alike

/-! ## From the enforcers to the next tick -/

theorem Resting.tickIn (resting : Resting settings n cluster) (order : VisitOrder) :
    Resting settings (n + 1) (cluster.tickIn order).2 := by
  have abreast := cluster.abreast_tickIn order
  have deciding := resting.prepared sound few order
  refine ⟨abreast.1.trans resting.plan, abreast.2.trans (congrArg (· + 1) resting.tick),
    resting.consistent.tickIn order, fun q member => ?_⟩
  obtain ⟨p, decides, alike⟩ := alike_of_mem_tickIn member
  exact ((deciding.staged p decides).of_alike alike).settled_or_waiting

theorem resting_evolve (orders : Nat → VisitOrder) (n : Nat) :
    Resting settings n ((initial settings).evolve orders n) := by
  induction n with
  | zero => exact resting_initial sound
  | succ n ih => exact ih.tickIn sound few (orders n)

/-! ## Requests -/

/-- A process asks exactly for the queued entities that it owns and that are meant for some worker,
and for none in the tick in which it restarts. -/
theorem Deciding.mem_requests_iff (deciding : Deciding settings n cluster) {p : Process}
    (member : p ∈ cluster.processes) (request : AclRequest) :
    request ∈ p.requests ↔
      p.enforcer.pending.contains request.entity = true ∧
        settings.scenario.restartsAt n p.name = false ∧
        ∃ (state : EntityState) (target : WorkerName),
          cluster.entities[request.entity]? = some state ∧ state.owner = p.name ∧
          settings.scenario.worker? state.intent = some target ∧
          request = ⟨request.entity, target, .ofList state.components⟩ := by
  rw [Process.mem_requests, Process.evaluate_eq_ok_iff (deciding.mirrored p member)]
  refine and_congr_right fun _ => ?_
  cases restarts : settings.scenario.restartsAt n p.name with
  | true =>
    -- a translator that waits resolves nothing, whatever is queued
    have waiting := (deciding.staged p member).waiting restarts
    constructor
    · rintro ⟨state, target, _, _, _, resolved, _⟩
      rw [Translator.resolveWorker?_of_unknown waiting.unknown] at resolved
      cases resolved
    · rintro ⟨absurd, _⟩
      cases absurd
  | false =>
    have settled := (deciding.staged p member).settled restarts
    constructor
    · rintro ⟨state, target, present, owned, _, resolved, same⟩
      rw [settled.ready.resolveWorker?_eq sound few] at resolved
      exact ⟨rfl, state, target, present, owned, resolved, same⟩
    · rintro ⟨_, state, target, present, owned, served, same⟩
      refine ⟨state, target, present, owned, Scenario.isValid_of_worker? served, ?_, same⟩
      rw [settled.ready.resolveWorker?_eq sound few, served]

end

end Cluster

end Handover
