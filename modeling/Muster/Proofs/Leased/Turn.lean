/-
  What a process of a lease backend can do in one turn.

  `Settings.resume` is a function: a process and a signal go in, and a state comes out, or none.  Proofs
  about ALL turns want the table instead: which processes take which signals, and to what.  That is
  `Turn`, one constructor for each thing that can happen, with the guard it happens under; `turn` says
  that the table is complete.

  An `Act` is what the world does with a backend: it calls, it delivers a signal, it stops waiting for a
  call, or it drops the backend.  `Settings.act` is the machine whose runs the other modules speak of.
-/
import Muster.Proofs.Leased.Books
import Muster.Proofs.Run

namespace Muster.Leased

/-! ## Turns -/

/-- **The turns of a process.** -/
inductive Turn (c : Settings) (s : State) (id : Nat) : Process → Signal Reply Item → State → Prop
  /-- The first load succeeds, and the watch begins after its revision. -/
  | loads (snap : Snapshot) : Turn c s id .starting (.reply (.ok (.contents snap)))
      ((armWatch (some (snap.revision + 1)) (c.synchronise false snap s)).succeed id)
  | loadFails (f : Failure) (l : Logging.Line) : Turn c s id .starting (.reply (.error f))
      ((s.note l).fail id f)
  /-- A registration that was called for sends its next request. -/
  | asks {stage sig r} (q : Request) (next : Registering) :
      sig.result? stage.operation c.requestTimeout = some r →
      c.progress stage r = some (.asks q next) →
      Turn c s id (.registering stage) sig (s.ask id q (.registering next))
  /-- It succeeds. -/
  | enrols {stage sig r} (lease : Int) (stream : Nat) :
      sig.result? stage.operation c.requestTimeout = some r →
      c.progress stage r = some (.opened lease stream) →
      Turn c s id (.registering stage) sig ((c.enrol lease stream s).succeed id)
  /-- It fails. -/
  | refused {stage sig r} (f : Failure) (l : Logging.Line) :
      sig.result? stage.operation c.requestTimeout = some r →
      c.progress stage r = some (.failed f) →
      Turn c s id (.registering stage) sig
        ((({ s with own := { s.own with called := false } } : State).note l).fail id f)
  /-- The lease of a former registration has ended. -/
  | revokes {lease : Int} (l : Logging.Line) :
      Turn c s id (.revoking lease) (.reply (.ok .done)) ((s.note l).succeed id)
  | revokeFails {lease : Int} {sig} (f : Failure) :
      sig.result? "lease revoke" c.requestTimeout = some (.error f) →
      Turn c s id (.revoking lease) sig (s.fail id f)
  /-- A query is answered from the store. -/
  | finds {service : String} (snap : Snapshot) (t : State) (o : Outcome) :
      t = c.synchronise false snap s ∨ (∃ l, t = (c.synchronise false snap s).note l) →
      Turn c s id (.querying service) (.reply (.ok (.contents snap))) (t.answer id o)
  | findFails {service : String} {sig} (f : Failure) (l : Logging.Line) :
      sig.result? "service bootstrap" c.requestTimeout = some (.error f) →
      Turn c s id (.querying service) sig ((s.note l).answer id (.instances []))
  /-- The shutdown is over. -/
  | closes (l : Logging.Line) : s.hasTasks = false →
      Turn c s id .closing .tasksDone (((s.setWatching false).note l).succeed id)
  /-- The watch asks for the stream of events. -/
  | watches (start : Int) :
      Turn c s id (.watch (.fresh (some start))) .turn
        (s.ask id (.watch c.lead start) (.watch (.opening start)))
  /-- The watch asks for a snapshot. -/
  | syncs : Turn c s id (.watch (.fresh none)) .turn (s.ask id (.range c.lead) (.watch .syncing))
  /-- A full snapshot is merged, and the watch goes on after its revision. -/
  | synced (snap : Snapshot) : Turn c s id (.watch .syncing) (.reply (.ok (.contents snap)))
      ((c.synchronise true snap s).ask id (.watch c.lead (snap.revision + 1))
        (.watch (.opening (snap.revision + 1))))
  /-- The stream of events is open. -/
  | opens (start : Int) (stream : Nat) (l : Logging.Line) :
      Turn c s id (.watch (.opening start)) (.reply (.ok (.opened stream)))
        (((s.setWatching true).note l).become id (.watch (.reading stream)))
  /-- A batch of events is merged. -/
  | observes {stream : Nat} (batch : List Event) :
      Turn c s id (.watch (.reading stream)) (.item (some (.ok (.changes batch))))
        (c.observeAll s batch)
  /-- The watch fails, is over, or has been cancelled. -/
  | breaks {w : Watch} {sig} (l : Logging.Line) :
      (∀ batch, sig ≠ .item (some (.ok (.changes batch)))) →
      (∀ snap, sig ≠ .reply (.ok (.contents snap))) →
      Turn c s id (.watch w) sig (endWatch (s.note l) id)
  /-- A lease was renewed. -/
  | renews {lease : Int} {stream : Nat} (ttl : Int) (l : Logging.Line) :
      Turn c s id (.renewal lease stream) (.item (some (.ok (.renewed ttl)))) (s.note l)
  /-- The renewals of the registration's lease are over: the registration is lost. -/
  | renewalLost {lease : Int} {stream : Nat} {i} (ls : List Logging.Line) (l : Logging.Line) :
      (∀ x, i ≠ some (.ok x)) → s.flags.registered = true → s.own.lease = some lease →
      Turn c s id (.renewal lease stream) (.item i)
        (c.scheduleRestore true (((s.notes ls).finish id).note l))
  /-- The renewals of a lease that is no longer in use are over. -/
  | renewalEnds {lease : Int} {stream : Nat} {i} (ls : List Logging.Line) (l : Logging.Line) :
      (∀ x, i ≠ some (.ok x)) → s.flags.registered = false ∨ s.own.lease ≠ some lease →
      Turn c s id (.renewal lease stream) (.item i) (((s.notes ls).finish id).note l)
  /-- A renewal task that is no longer in charge stops. -/
  | renewalStops {lease : Int} {stream : Nat} (l : Logging.Line) : s.isCancelled id = true →
      Turn c s id (.renewal lease stream) .cancelled ((s.note l).finish id)
  /-- The delay before restoring has passed, and the own instance has been seen again. -/
  | skips (l : Logging.Line) : s.own.forced = false →
      s.registry.has c.self.name c.self.endpoint = true →
      Turn c s id (.restore .delaying) .elapsed
        (endRestore
          ((({ s with own := { s.own with forced := false } } : State).note l).setDegraded false) id)
  /-- The delay before restoring has passed, and the first attempt begins. -/
  | wakes : s.own.forced = true ∨ s.registry.has c.self.name c.self.endpoint = false →
      s.flags.registered = true →
      Turn c s id (.restore .delaying) .elapsed
        (({ s with own := { s.own with forced := false } } : State).ask id
          (.grant c.lease.ttlSecs) (.restore (.attempting 0 .granting)))
  /-- The delay before another attempt has passed, and it begins. -/
  | retries {failures : Nat} : s.flags.registered = true →
      Turn c s id (.restore (.backingOff failures)) .elapsed
        (s.ask id (.grant c.lease.ttlSecs) (.restore (.attempting failures .granting)))
  /-- A delay has passed, but the process has deregistered. -/
  | yields {r : Restore} (forced : Bool) (l : Logging.Line) : s.flags.registered = false →
      Turn c s id (.restore r) .elapsed
        (endRestore (({ s with own := { s.own with forced := forced } } : State).note l) id)
  /-- Restoring is cancelled while it waits. -/
  | restoreStops {r : Restore} : s.closed = true →
      Turn c s id (.restore r) .cancelled (endRestore s id)
  /-- A registration that restores a lost one sends its next request. -/
  | restoreAsks {failures stage sig r} (q : Request) (next : Registering) :
      sig.result? stage.operation c.requestTimeout = some r →
      c.progress stage r = some (.asks q next) →
      Turn c s id (.restore (.attempting failures stage)) sig
        (s.ask id q (.restore (.attempting failures next)))
  /-- It succeeds. -/
  | restores {failures stage sig r} (lease : Int) (stream : Nat) (l : Logging.Line) :
      sig.result? stage.operation c.requestTimeout = some r →
      c.progress stage r = some (.opened lease stream) →
      Turn c s id (.restore (.attempting failures stage)) sig
        (endRestore ((c.enrol lease stream s).note l) id)
  /-- It fails, and another attempt follows. -/
  | backsOff {failures stage sig r} (f : Failure) (l : Logging.Line) :
      sig.result? stage.operation c.requestTimeout = some r →
      c.progress stage r = some (.failed f) → c.lease.policy.retries (failures + 1) = true →
      Turn c s id (.restore (.attempting failures stage)) sig
        ((s.note l).become id (.restore (.backingOff (failures + 1))))
  /-- It fails, and it was the last. -/
  | givesUp {failures stage sig r} (f : Failure) (l : Logging.Line) :
      sig.result? stage.operation c.requestTimeout = some r →
      c.progress stage r = some (.failed f) → c.lease.policy.retries (failures + 1) = false →
      Turn c s id (.restore (.attempting failures stage)) sig (endRestore (s.note l) id)

namespace Settings

variable {c : Settings} {s t : State} {id : Nat} {sig : Signal Reply Item}

theorem turn_starting {r : Except Failure Reply} (h : c.stepStarting s id r = some t) :
    Turn c s id .starting (.reply r) t := by
  unfold stepStarting at h
  split at h
  · obtain rfl := Option.some.inj h
    exact .loads _
  · cases h
  · obtain rfl := Option.some.inj h
    exact .loadFails _ _

theorem turn_registering {stage : Registering} {r : Except Failure Reply} {g : Progress}
    (hr : sig.result? stage.operation c.requestTimeout = some r)
    (hg : c.progress stage r = some g) :
    Turn c s id (.registering stage) sig (c.stepRegistering s id g) := by
  cases g with
  | asks q next => exact .asks q next hr hg
  | opened lease stream => exact .enrols lease stream hr hg
  | failed f => exact .refused f _ hr hg

theorem turn_revoking {lease : Int} {r : Except Failure Reply}
    (hr : sig.result? "lease revoke" c.requestTimeout = some r)
    (h : c.stepRevoking s id lease r = some t) : Turn c s id (.revoking lease) sig t := by
  unfold stepRevoking at h
  split at h
  · obtain rfl := Option.some.inj h
    cases sig with
    | reply q =>
      obtain rfl : q = .ok .done := Option.some.inj hr
      exact .revokes _
    | _ => cases hr
  · cases h
  · obtain rfl := Option.some.inj h
    exact .revokeFails _ hr

theorem turn_querying {service : String} {r : Except Failure Reply}
    (hr : sig.result? "service bootstrap" c.requestTimeout = some r)
    (h : c.stepQuerying s id service r = some t) : Turn c s id (.querying service) sig t := by
  unfold stepQuerying at h
  split at h
  · rename_i snap
    cases sig with
    | reply q =>
      obtain rfl : q = .ok (.contents snap) := Option.some.inj hr
      dsimp only at h
      split at h
      · obtain rfl := Option.some.inj h
        exact .finds snap _ _ (.inl rfl)
      · obtain rfl := Option.some.inj h
        exact .finds snap _ _ (.inr ⟨_, rfl⟩)
    | _ => cases hr
  · cases h
  · obtain rfl := Option.some.inj h
    exact .findFails _ _ hr

theorem turn_closing (h : c.stepClosing s id sig = some t) : Turn c s id .closing sig t := by
  unfold stepClosing at h
  split at h
  · split at h
    · cases h
    · rename_i hn
      obtain rfl := Option.some.inj h
      exact .closes _ (by simpa using hn)
  · cases h

theorem turn_watch {w : Watch} (h : c.stepWatch s id w sig = some t) :
    Turn c s id (.watch w) sig t := by
  unfold stepWatch at h
  split at h
  · obtain rfl := Option.some.inj h; exact .watches _
  · obtain rfl := Option.some.inj h; exact .syncs
  · obtain rfl := Option.some.inj h; exact .synced _
  · obtain rfl := Option.some.inj h; exact .breaks _ (by simp) (by simp)
  · obtain rfl := Option.some.inj h; exact .opens _ _ _
  · obtain rfl := Option.some.inj h; exact .breaks _ (by simp) (by simp)
  · obtain rfl := Option.some.inj h; exact .observes _
  · obtain rfl := Option.some.inj h; exact .breaks _ (by simp) (by simp)
  · obtain rfl := Option.some.inj h; exact .breaks _ (by simp) (by simp)
  · split at h
    · obtain rfl := Option.some.inj h; exact .breaks _ (by simp) (by simp)
    · cases h
  · cases h

theorem turn_endRenewal {lease : Int} {stream : Nat} {i : Option (Except Failure Item)}
    (hi : ∀ x, i ≠ some (.ok x)) (ls : List Logging.Line) :
    Turn c s id (.renewal lease stream) (.item i) (c.endRenewal (s.notes ls) id lease) := by
  unfold endRenewal
  by_cases hr : s.flags.registered = false ∨ s.own.lease ≠ some lease
  · rw [if_pos (by simpa using hr)]
    exact .renewalEnds ls _ hi hr
  · rw [if_neg (by simpa using hr)]
    refine .renewalLost ls _ hi ?_ ?_
    · simpa using fun h => hr (.inl h)
    · simpa using fun h => hr (.inr h)

theorem turn_renewal {lease : Int} {stream : Nat} (h : c.stepRenewal s id lease sig = some t) :
    Turn c s id (.renewal lease stream) sig t := by
  unfold stepRenewal at h
  split at h
  · obtain rfl := Option.some.inj h; exact .renews _ _
  · obtain rfl := Option.some.inj h
    exact turn_endRenewal (by simp) [⟨.error, "lease keepalive failed", _⟩]
  · obtain rfl := Option.some.inj h
    exact turn_endRenewal (by simp) []
  · split at h
    · rename_i hc
      obtain rfl := Option.some.inj h
      exact .renewalStops _ hc
    · cases h
  · cases h

theorem turn_afterDelay : Turn c s id (.restore .delaying) .elapsed (c.afterDelay s id) := by
  unfold afterDelay attempt
  by_cases hskip : s.own.forced = false ∧ s.registry.has c.self.name c.self.endpoint = true
  · rw [if_pos (by simpa using hskip)]
    exact .skips _ hskip.1 hskip.2
  · rw [if_neg (by simpa using hskip)]
    cases hr : s.flags.registered with
    | true =>
      refine .wakes ?_ hr
      cases hf : s.own.forced with
      | true => exact .inl rfl
      | false => exact .inr (by simpa using fun h => hskip ⟨hf, h⟩)
    | false => exact .yields false _ hr

theorem turn_attempt {failures : Nat} :
    Turn c s id (.restore (.backingOff failures)) .elapsed (c.attempt s id failures) := by
  unfold attempt
  cases hr : s.flags.registered with
  | true => exact .retries hr
  | false => exact .yields s.own.forced _ hr

theorem turn_attempting {failures : Nat} {stage : Registering} {r : Except Failure Reply}
    {g : Progress} (hr : sig.result? stage.operation c.requestTimeout = some r)
    (hg : c.progress stage r = some g) :
    Turn c s id (.restore (.attempting failures stage)) sig (c.stepAttempt s id failures g) := by
  cases g with
  | asks a next => exact .restoreAsks a next hr hg
  | opened lease stream => exact .restores lease stream _ hr hg
  | failed f =>
    show Turn c s id _ sig (c.afterFailure s id (failures + 1) f)
    unfold afterFailure
    cases hp : c.lease.policy.retries (failures + 1) with
    | true => exact .backsOff f _ hr hg hp
    | false => exact .givesUp f _ hr hg hp

theorem turn_restore {r : Restore} (h : c.stepRestore s id r sig = some t) :
    Turn c s id (.restore r) sig t := by
  unfold stepRestore at h
  split at h
  · obtain rfl := Option.some.inj h; exact turn_afterDelay
  · obtain rfl := Option.some.inj h; exact turn_attempt
  · split at h
    · rename_i hc
      obtain rfl := Option.some.inj h
      exact .restoreStops hc
    · cases h
  · split at h
    · rename_i hc
      obtain rfl := Option.some.inj h
      exact .restoreStops hc
    · cases h
  · obtain ⟨g, hg, rfl⟩ := Option.map_eq_some_iff.1 h
    obtain ⟨q, hq, hg⟩ := Option.bind_eq_some_iff.1 hg
    exact turn_attempting hq hg
  · cases h

/-- **The table is complete**: whatever a process does, it is one of its turns. -/
theorem turn (h : c.resume s id sig = some t) :
    ∃ p, s.process? id = some p ∧ Turn c s id p sig t := by
  obtain ⟨p, hp, h⟩ := Option.bind_eq_some_iff.1 h
  refine ⟨p, hp, ?_⟩
  unfold advance at h
  cases p with
  | starting =>
    obtain ⟨r, hr, h⟩ := Option.bind_eq_some_iff.1 h
    cases sig with
    | reply q =>
      obtain rfl : q = r := Option.some.inj hr
      exact turn_starting h
    | _ => cases hr
  | registering stage =>
    obtain ⟨g, hg, rfl⟩ := Option.map_eq_some_iff.1 h
    obtain ⟨r, hr, hg⟩ := Option.bind_eq_some_iff.1 hg
    exact turn_registering hr hg
  | revoking lease =>
    obtain ⟨r, hr, h⟩ := Option.bind_eq_some_iff.1 h
    exact turn_revoking hr h
  | querying service =>
    obtain ⟨r, hr, h⟩ := Option.bind_eq_some_iff.1 h
    exact turn_querying hr h
  | closing => exact turn_closing h
  | watch w => exact turn_watch h
  | renewal lease stream => exact turn_renewal h
  | restore r => exact turn_restore h

end Settings

/-- A batch of events is only ever merged. -/
theorem Turn.eq_observeAll {c : Settings} {s t : State} {id : Nat} {p : Process} {batch : List Event}
    (h : Turn c s id p (.item (some (.ok (.changes batch)))) t) : t = c.observeAll s batch := by
  cases h with
  | observes => rfl
  | breaks _ hno => exact absurd rfl (hno batch)
  | renewalLost _ _ hno | renewalEnds _ _ hno => exact absurd rfl (hno _)
  | asks _ _ hr | enrols _ _ hr | refused _ _ hr | revokeFails _ hr | findFails _ _ hr
  | restoreAsks _ _ hr | restores _ _ _ hr | backsOff _ _ hr | givesUp _ _ hr => cases hr

/-! ## Acts -/

/-- **What the world does with a backend.** -/
inductive Act where
  /-- It makes a call. -/
  | call (k : Call)
  /-- A process gets a signal. -/
  | signal (id : Nat) (sig : Signal Reply Item)
  /-- The caller no longer waits for a call. -/
  | abandon (id : Nat)
  /-- The backend is dropped. -/
  | drop

/-- **The machine**: what an act leads to, if it can happen.  Only a call can be abandoned, never a
    background task. -/
def Settings.act (c : Settings) (s : State) : Act → Option State
  | .call k => some (c.call s k)
  | .signal id sig => c.resume s id sig
  | .abandon id => (s.process? id).bind fun p => if p.isTask then none else some (s.finish id)
  | .drop => some s.close

/-- Only a call can be abandoned, and then it is over. -/
theorem Settings.act_abandon_iff {c : Settings} {s t : State} {id : Nat} :
    c.act s (.abandon id) = some t ↔
      ∃ p, s.process? id = some p ∧ p.isTask = false ∧ s.finish id = t := by
  rw [Settings.act, Option.bind_eq_some_iff]
  refine exists_congr fun p => and_congr_right fun _ => ?_
  cases p.isTask <;> simp

/-- A signal reaches the process with its number. -/
theorem resume_of_process? {c : Settings} {s : State} {k : Nat} {p : Process}
    (hp : s.process? k = some p) (sig : Signal Reply Item) :
    c.resume s k sig = c.advance s k sig p := by
  rw [Settings.resume, hp]; rfl

theorem Settings.act_of_process? (c : Settings) {s : State} {k : Nat} {p : Process}
    (hp : s.process? k = some p) (sig : Signal Reply Item) :
    c.act s (.signal k sig) = c.advance s k sig p :=
  resume_of_process? hp sig

/-- A task that waits before it restores wakes up when the delay has passed. -/
theorem Settings.act_of_delaying (c : Settings) {s : State} {id : Nat}
    (h : s.process? id = some (.restore .delaying)) :
    c.act s (.signal id .elapsed) = some (c.afterDelay s id) :=
  c.act_of_process? h .elapsed

/-- A backend that announces a process called `order`, with every setting at its default. -/
def Settings.sample : Settings := .ofConfig ⟨"order", "10.0.0.1", 9000, .grpc⟩ {}

/-- A backend registers, and all that it asks for is granted. -/
def registerActs : List Act :=
  [.call .register, .signal 0 (.reply (.ok (.granted 100))), .signal 0 (.reply (.ok .done)),
    .signal 0 (.reply (.ok (.opened 0)))]

/-- A backend starts, finds nothing and watches; then it registers, and all that it asks for is granted. -/
def announcedActs : List Act :=
  [.call .start, .signal 0 (.reply (.ok (.contents ⟨7, []⟩))), .signal 1 .turn,
    .signal 1 (.reply (.ok (.opened 0))), .call .register, .signal 2 (.reply (.ok (.granted 100))),
    .signal 2 (.reply (.ok .done)), .signal 2 (.reply (.ok (.opened 1)))]

end Muster.Leased
