/-
  What a process of a probing backend can do in one turn.

  `Turn` is the step function as a table: one constructor for each thing that a process can do with a
  signal, with the guard it happens under.  `turn` says that the table is complete, so a proof about all
  turns is a case analysis of it.

  The acts of the world are those of any backend: it calls, it delivers a signal, it stops waiting for a
  call, or it drops the backend.
-/
import Muster.Proofs.Probed.Books
import Muster.Proofs.Run

namespace Muster.Probed

/-! ## Turns -/

/-- A query was answered: the backend watches, and is well. -/
def State.heard (s : State) (ls : List Logging.Line) : State :=
  ((s.notes ls).setWatching true).setDegraded false

@[simp] theorem heard_books (s : State) (ls : List Logging.Line) :
    (s.heard ls).flags = { s.flags with watching := true, degraded := false } ∧
      (s.heard ls).registry = s.registry ∧ (s.heard ls).closed = s.closed ∧
      (∀ k, (s.heard ls).process? k = s.process? k) ∧
      (s.heard ls).nextId = s.nextId ∧ (s.heard ls).own = s.own ∧
      (s.heard ls).requests = s.requests := by
  simp [State.heard]

/-- **The turns of a process.** -/
inductive Turn (c : Settings) (s : State) (id : Nat) : Process → Signal Reply Item → State → Prop
  /-- The registration was accepted. -/
  | registers (l : Logging.Line) : Turn c s id .registering (.reply (.ok .done))
      (((s.setRegistered true).note l).succeed id)
  | registerFails {sig} (f g : Failure) (l : Logging.Line) :
      sig.result? "service register" c.requestTimeout = some (.error f) →
      Turn c s id .registering sig ((s.note l).fail id g)
  /-- It was taken back. -/
  | deregisters (l : Logging.Line) : Turn c s id .deregistering (.reply (.ok .done))
      (((s.setRegistered false).note l).succeed id)
  | deregisterFails {sig} (f : Failure) :
      sig.result? "service deregister" c.requestTimeout = some (.error f) →
      Turn c s id .deregistering sig (s.fail id f)
  /-- A query is answered from the store, and the service gets a watch. -/
  | finds {service : String} (l : List Report) (o : Outcome) :
      Turn c s id (.querying service) (.reply (.ok (.reports l)))
        ((ensureWatch service (merge service l s)).answer id o)
  | findFails {service : String} {sig} (f : Failure) (l : Logging.Line) :
      sig.result? "service bootstrap" c.requestTimeout = some (.error f) →
      Turn c s id (.querying service) sig ((s.note l).answer id (.instances []))
  /-- The shutdown is over. -/
  | closes (l : Logging.Line) : s.hasTasks = false →
      Turn c s id .closing .tasksDone (((s.setWatching false).note l).succeed id)
  /-- The watch asks for the first time. -/
  | begins {service : String} (l : Logging.Line) : Turn c s id (.watch service .fresh) .turn
      (c.query (s.note l) id service 0 0)
  /-- Nothing has changed. -/
  | repeats {service : String} {index : UInt64} {failures : Nat} (l : List Report)
      (ls : List Logging.Line) :
      Turn c s id (.watch service (.querying index failures)) (.reply (.ok (.indexed index l)))
        (c.query (s.heard ls) id service index 0)
  /-- A changed result is applied to a service that is known. -/
  | changes {service : String} {index : UInt64} {failures : Nat} (new : UInt64) (l : List Report)
      (ls : List Logging.Line) : new ≠ index → s.registry.contains service = true →
      Turn c s id (.watch service (.querying index failures)) (.reply (.ok (.indexed new l)))
        (c.query (apply service l (s.heard ls)) id service (nextIndex index new) 0)
  /-- A changed result for a service that is not known: it is loaded first. -/
  | sights {service : String} {index : UInt64} {failures : Nat} (new : UInt64) (l : List Report)
      (ls : List Logging.Line) : new ≠ index → s.registry.contains service = false →
      Turn c s id (.watch service (.querying index failures)) (.reply (.ok (.indexed new l)))
        ((s.heard ls).ask id (.instances service c.scope)
          (.watch service (.loading (nextIndex index new) l)))
  /-- A query failed, and another follows. -/
  | backsOff {service : String} {index : UInt64} {failures : Nat} (f : Failure) (l : Logging.Line) :
      c.watch.policy.retries (failures + 1) = true →
      Turn c s id (.watch service (.querying index failures)) (.reply (.error f))
        ((s.note l).become id (.watch service (.backingOff index (failures + 1))))
  /-- A query failed, and it was the last. -/
  | givesUp {service : String} {index : UInt64} {failures : Nat} (f : Failure) (l : Logging.Line) :
      c.watch.policy.retries (failures + 1) = false →
      Turn c s id (.watch service (.querying index failures)) (.reply (.error f))
        (endWatch ((s.note l).setDegraded true) id service)
  /-- A watch is cancelled while it waits. -/
  | stops {service : String} {w : Watch} (ls : List Logging.Line) : s.closed = true →
      (∀ index l, w ≠ .loading index l) →
      Turn c s id (.watch service w) .cancelled (endWatch (s.notes ls) id service)
  /-- The first load brought something, and the result that waited is applied to it. -/
  | loads {service : String} {index : UInt64} {l : List Report} (loaded : List Report) :
      Turn c s id (.watch service (.loading index l)) (.reply (.ok (.reports loaded)))
        (c.query (apply service l (merge service loaded s)) id service index 0)
  | loadFails {service : String} {index : UInt64} {l : List Report} {sig} (f : Failure)
      (line : Logging.Line) :
      sig.result? "service bootstrap" c.requestTimeout = some (.error f) →
      Turn c s id (.watch service (.loading index l)) sig
        (c.query (apply service l (s.note line)) id service index 0)
  /-- The delay after a failure has passed. -/
  | retries {service : String} {index : UInt64} {failures : Nat} :
      Turn c s id (.watch service (.backingOff index failures)) .elapsed
        (c.query s id service index failures)

namespace Settings

variable {c : Settings} {s t : State} {id : Nat} {sig : Signal Reply Item}

/-- A result that is no failure is what the store replied. -/
theorem reply_of_result? {operation : String} {limit : Duration} {r : Reply}
    (h : sig.result? operation limit = some (.ok r)) : sig = .reply (.ok r) := by
  cases sig with
  | reply q => rw [Option.some.inj h]
  | timeout => cases Option.some.inj h
  | _ => cases h

theorem turn_registering {r : Except Failure Reply}
    (hr : sig.result? "service register" c.requestTimeout = some r)
    (h : c.stepRegistering s id r = some t) : Turn c s id .registering sig t := by
  unfold stepRegistering at h
  split at h
  · obtain rfl := Option.some.inj h
    rw [reply_of_result? hr]
    exact .registers _
  · cases h
  · obtain rfl := Option.some.inj h
    exact .registerFails _ _ _ hr

theorem turn_deregistering {r : Except Failure Reply}
    (hr : sig.result? "service deregister" c.requestTimeout = some r)
    (h : c.stepDeregistering s id r = some t) : Turn c s id .deregistering sig t := by
  unfold stepDeregistering at h
  split at h
  · obtain rfl := Option.some.inj h
    rw [reply_of_result? hr]
    exact .deregisters _
  · cases h
  · obtain rfl := Option.some.inj h
    exact .deregisterFails _ hr

theorem turn_querying {service : String} {r : Except Failure Reply}
    (hr : sig.result? "service bootstrap" c.requestTimeout = some r)
    (h : stepQuerying s id service r = some t) : Turn c s id (.querying service) sig t := by
  unfold stepQuerying at h
  split at h
  · obtain rfl := Option.some.inj h
    rw [reply_of_result? hr]
    exact .finds _ _
  · cases h
  · obtain rfl := Option.some.inj h
    exact .findFails _ _ hr

theorem turn_closing (h : c.stepClosing s id sig = some t) : Turn c s id .closing sig t := by
  unfold stepClosing at h
  split at h
  · split at h
    · cases h
    · rename_i hn
      obtain rfl := Option.some.inj h
      exact .closes _ (by simpa using hn)
  · cases h

theorem turn_afterResult {service : String} {index new : UInt64} {failures : Nat}
    {l : List Report} :
    Turn c s id (.watch service (.querying index failures)) (.reply (.ok (.indexed new l)))
      (c.afterResult s id service index failures new l) := by
  -- a line is logged after failures, and none otherwise
  obtain ⟨ls, hls⟩ : ∃ ls, c.afterResult s id service index failures new l =
      if new = index then c.query (s.heard ls) id service index 0
      else if (s.heard ls).registry.contains service then
        c.query (apply service l (s.heard ls)) id service (nextIndex index new) 0
      else (s.heard ls).ask id (.instances service c.scope)
        (.watch service (.loading (nextIndex index new) l)) := by
    by_cases hf : failures > 0
    · exact ⟨[⟨.info, "consul watch recovered", [("service", service)]⟩], by
        unfold afterResult; rw [if_pos hf]; rfl⟩
    · exact ⟨[], by unfold afterResult; rw [if_neg hf]; rfl⟩
  rw [hls, (heard_books s ls).2.1]
  by_cases hn : new = index
  · rw [if_pos hn, hn]
    exact .repeats l ls
  · rw [if_neg hn]
    cases hk : s.registry.contains service with
    | true => exact .changes new l ls hn hk
    | false => exact .sights new l ls hn hk

theorem turn_afterFailure {service : String} {index : UInt64} {failures : Nat} {f : Failure} :
    Turn c s id (.watch service (.querying index failures)) (.reply (.error f))
      (c.afterFailure s id service index (failures + 1) f) := by
  unfold afterFailure
  cases hp : c.watch.policy.retries (failures + 1) with
  | true => exact .backsOff f _ hp
  | false => exact .givesUp f _ hp

theorem turn_watch {service : String} {w : Watch} (h : c.stepWatch s id service w sig = some t) :
    Turn c s id (.watch service w) sig t := by
  unfold stepWatch at h
  split at h
  · obtain rfl := Option.some.inj h; exact .begins _
  · obtain rfl := Option.some.inj h; exact turn_afterResult
  · obtain rfl := Option.some.inj h; exact turn_afterFailure
  · split at h
    · rename_i hc
      obtain rfl := Option.some.inj h
      exact .stops [⟨.debug, "consul watch stopped", _⟩] hc (by simp)
    · cases h
  · split at h
    · rename_i hr
      obtain rfl := Option.some.inj h
      rw [reply_of_result? hr]
      exact .loads _
    · rename_i hr
      obtain rfl := Option.some.inj h
      exact .loadFails _ _ hr
    · cases h
  · obtain rfl := Option.some.inj h; exact .retries
  · split at h
    · rename_i hc
      obtain rfl := Option.some.inj h
      exact .stops [] hc (by simp)
    · cases h
  · cases h

/-- **The table is complete**: whatever a process does, it is one of its turns. -/
theorem turn (h : c.resume s id sig = some t) :
    ∃ p, s.process? id = some p ∧ Turn c s id p sig t := by
  obtain ⟨p, hp, h⟩ := Option.bind_eq_some_iff.1 h
  refine ⟨p, hp, ?_⟩
  unfold advance at h
  cases p with
  | registering =>
    obtain ⟨r, hr, h⟩ := Option.bind_eq_some_iff.1 h
    exact turn_registering hr h
  | deregistering =>
    obtain ⟨r, hr, h⟩ := Option.bind_eq_some_iff.1 h
    exact turn_deregistering hr h
  | querying service =>
    obtain ⟨r, hr, h⟩ := Option.bind_eq_some_iff.1 h
    exact turn_querying hr h
  | closing => exact turn_closing h
  | watch service w => exact turn_watch h

end Settings

/-! ## The turns of a watch -/

section Watches

variable {c : Settings} {s t : State} {id : Nat} {service : String} {w : Watch}
  {sig : Signal Reply Item}

/-- **The watch goes on**: as a watch of the same service, having sent at most a request of its own. -/
def State.GoesOn (s t : State) (id : Nat) (service : String) (w' : Watch) : Prop :=
  (∀ k, t.process? k = (s.become id (.watch service w')).process? k) ∧ t.own = s.own ∧
    ∀ k, k ≠ id → t.requests.lookup k = s.requests.lookup k

/-- **The watch ends**: its service is taken from the list, and the last one lowers the flag. -/
def State.Ends (s t : State) (id : Nat) (service : String) : Prop :=
  (∀ k, t.process? k = (s.finish id).process? k) ∧
    t.own.services = s.own.services.filter (· != service) ∧
    (t.flags.watching = true → t.own.services ≠ []) ∧ t.requests = s.requests

theorem goesOn_ask {u : State} (hp : ∀ k, u.process? k = s.process? k) (ho : u.own = s.own)
    (hr : u.requests = s.requests) (r : Request) (w' : Watch) :
    s.GoesOn (u.ask id r (.watch service w')) id service w' := by
  refine ⟨Session.process?_become_congr hp id _, ho, fun k hk => ?_⟩
  rw [(Session.ask_books u id r _).2.2.2.2.2.2, List.lookup_cons, beq_eq_false_iff_ne.2 hk, hr]

theorem goesOn_of_alike {u : State} (h : u.Alike s) (r : Request) (w' : Watch) :
    s.GoesOn (u.ask id r (.watch service w')) id service w' :=
  goesOn_ask h.process? h.own h.requests r w'

theorem goesOn_heard (ls : List Logging.Line) (r : Request) (w' : Watch) :
    s.GoesOn ((s.heard ls).ask id r (.watch service w')) id service w' := by
  obtain ⟨-, -, -, hp, -, ho, hr⟩ := heard_books s ls
  exact goesOn_ask hp ho hr r w'

theorem ends_endWatch {u : State} (hp : ∀ k, u.process? k = s.process? k) (ho : u.own = s.own)
    (hr : u.requests = s.requests) : s.Ends (endWatch u id service) id service := by
  obtain ⟨hflags, -, -, hproc, -, hown, hreq⟩ := endWatch_books u id service
  refine ⟨fun k => ?_, by rw [hown, ho], fun hb hnil => ?_, hreq.trans hr⟩
  · rw [hproc, Session.process?_finish, Session.process?_finish, hp]
  · rw [hown] at hnil
    rw [hflags, if_pos (List.isEmpty_iff.2 hnil)] at hb
    cases hb

/-- **A watch goes on or ends.** -/
theorem Turn.of_watch (h : Turn c s id (.watch service w) sig t) :
    (∃ w', s.GoesOn t id service w') ∨ s.Ends t id service := by
  cases h with
  | begins l => exact .inl ⟨_, goesOn_ask (u := s.note l) (fun _ => rfl) rfl rfl _ _⟩
  | repeats l ls => exact .inl ⟨_, goesOn_heard ls _ _⟩
  | changes new l ls =>
    have ha := apply_alike service l (s.heard ls)
    obtain ⟨-, -, -, hp, -, ho, hr⟩ := heard_books s ls
    exact .inl ⟨_, goesOn_ask (fun k => (ha.process? k).trans (hp k)) (ha.own.trans ho)
      (ha.requests.trans hr) _ _⟩
  | sights new l ls => exact .inl ⟨_, goesOn_heard ls _ _⟩
  | backsOff f l => exact .inl ⟨_, fun _ => rfl, rfl, fun _ _ => rfl⟩
  | givesUp f l => exact .inr (ends_endWatch (by simp) (by simp) (by simp))
  | stops ls => exact .inr (ends_endWatch (by simp) (by simp) (by simp))
  | loads loaded =>
    exact .inl ⟨_, goesOn_of_alike ((apply_alike ..).trans (merge_alike service loaded s)) _ _⟩
  | loadFails f line =>
    exact .inl ⟨_, goesOn_of_alike (u := apply service _ (s.note line))
      ((apply_alike ..).trans ⟨rfl, rfl, fun _ => rfl, rfl, rfl, rfl⟩) _ _⟩
  | retries => exact .inl ⟨_, goesOn_ask (fun _ => rfl) rfl rfl _ _⟩

/-- **A watch changes the cache under its own service only.** -/
theorem Turn.only (h : Turn c s id (.watch service w) sig t) :
    s.registry.Only service t.registry := by
  have hsame {r : Registry} (hr : r = s.registry) : s.registry.Only service r := by
    rw [hr]
    exact .refl service _
  cases h with
  | begins | retries | backsOff => exact hsame rfl
  | repeats l ls => exact hsame (heard_books s ls).2.1
  | sights new l ls => exact hsame (heard_books s ls).2.1
  | changes new l ls =>
    have ha := apply_only service l (s.heard ls)
    rwa [(heard_books s ls).2.1] at ha
  | givesUp | stops => exact hsame (by simp)
  | loads loaded =>
    exact (merge_only service loaded s).trans (apply_only service _ (merge service loaded s))
  | loadFails f line => exact apply_only service _ (s.note line)

end Watches

/-! ## Acts -/

/-- **What the world does with a backend.** -/
inductive Act where
  /-- It makes a call. -/
  | call (k : Call)
  /-- A process gets a signal. -/
  | signal (id : Nat) (sig : Signal Reply Item)
  /-- The caller no longer waits for a call. -/
  | abandon (id : Nat)
  /-- The backend is dropped. -/
  | drop

/-- **The machine**: what an act leads to, if it can happen.  Only a call can be abandoned, never a
    background task. -/
def Settings.act (c : Settings) (s : State) : Act → Option State
  | .call k => some (c.call s k)
  | .signal id sig => c.resume s id sig
  | .abandon id => (s.process? id).bind fun p => if p.isTask then none else some (s.finish id)
  | .drop => some s.close

/-- Only a call can be abandoned, and then it is over. -/
theorem Settings.act_abandon_iff {c : Settings} {s t : State} {id : Nat} :
    c.act s (.abandon id) = some t ↔
      ∃ p, s.process? id = some p ∧ p.isTask = false ∧ s.finish id = t := by
  rw [Settings.act, Option.bind_eq_some_iff]
  refine exists_congr fun p => and_congr_right fun _ => ?_
  cases p.isTask <;> simp

/-- What a process does with a signal. -/
theorem Settings.act_of_process? (c : Settings) {s : State} {k : Nat} {p : Process}
    (hk : s.process? k = some p) (sig : Signal Reply Item) :
    c.act s (.signal k sig) = c.advance s k sig p := by
  show (s.process? k).bind _ = _
  rw [hk, Option.bind_some]

/-- The state after an act, or the same if it cannot happen. -/
def Settings.after (c : Settings) (s : State) (a : Act) : State := (c.act s a).getD s

theorem Settings.act_eq_after {c : Settings} {s : State} {a : Act}
    (h : (c.act s a).isSome = true) : c.act s a = some (c.after s a) := by
  obtain ⟨t, ht⟩ := Option.isSome_iff_exists.1 h
  rw [Settings.after, ht, Option.getD_some]

/-- A backend that announces a process called `order`, with every setting at its default. -/
def Settings.sample : Settings := .ofConfig ⟨"order", "10.0.0.1", 9000, .grpc⟩ {}

/-- A call leaves the cache as it is. -/
theorem registry_call (c : Settings) (s : State) (k : Call) :
    (c.call s k).registry = s.registry := by
  cases k with
  | register | deregister | shutdown => rfl
  | instances service =>
    unfold Settings.call
    dsimp only
    split
    · exact (ensureWatch_books ..).2.1
    · rfl

/-! ## Numbers -/

theorem numbered_heard {s : State} (hn : s.Numbered) (ls : List Logging.Line) :
    (s.heard ls).Numbered := hn.of_books (by simp) (by simp)

theorem numbered_ensureWatch {s : State} (hn : s.Numbered) (service : String) :
    (ensureWatch service s).Numbered := by
  unfold ensureWatch
  split
  · exact hn
  · have hown : Session.Numbered { s with own := Watched.mk (s.own.services ++ [service]) } := hn
    exact hown.spawn _

theorem numbered_endWatch {s : State} (hn : s.Numbered) (id : Nat) (service : String) :
    (endWatch s id service).Numbered := by
  refine (hn.finish id).of_books ?_ ?_
  · simp
  · intro k _ hk
    rw [(endWatch_books s id service).2.2.2.1, hk]

/-- No process takes a number that is in use. -/
theorem Turn.numbered {c : Settings} {s t : State} {id : Nat} {p : Process}
    {sig : Signal Reply Item} (h : Turn c s id p sig t) (hn : s.Numbered) : t.Numbered := by
  cases h with
  | registers | registerFails | deregisters | deregisterFails | findFails | closes =>
    exact hn.finish id
  | begins | retries | backsOff => exact hn.become id _
  | finds l =>
    exact (numbered_ensureWatch ((merge_alike _ l s).numbered hn) _).finish id
  | repeats _ ls => exact (numbered_heard hn ls).become id _
  | changes _ l ls => exact ((apply_alike _ l _).numbered (numbered_heard hn ls)).become id _
  | sights _ _ ls => exact (numbered_heard hn ls).become id _
  | givesUp _ l => exact numbered_endWatch (hn.of_books (by simp) (by simp)) id _
  | stops ls => exact numbered_endWatch (hn.of_books (by simp) (by simp)) id _
  | loads loaded =>
    exact ((apply_alike _ _ _).numbered ((merge_alike _ loaded s).numbered hn)).become id _
  | loadFails _ line => exact ((apply_alike _ _ (s.note line)).numbered hn).become id _

theorem numbered_begin {s : State} (hn : s.Numbered) (r : Request) (p : Process) :
    (s.begin r p).Numbered := (hn.spawn p).become s.nextId p

theorem numbered_instant {s : State} (hn : s.Numbered) (o : Outcome) :
    (s.instant o).Numbered := hn.of_books (by simp) (by simp)

theorem numbered_call (c : Settings) {s : State} (hn : s.Numbered) (k : Call) :
    (c.call s k).Numbered := by
  cases k with
  | register | deregister => exact numbered_begin hn _ _
  | instances service =>
    unfold Settings.call
    dsimp only
    split
    · exact numbered_ensureWatch (numbered_instant hn _) service
    · exact numbered_begin hn _ _
  | shutdown => exact Session.Numbered.spawn (s := s.close) hn _

/-- **No number is given twice**, whatever happens. -/
theorem numbered_act {c : Settings} {s t : State} {a : Act} (h : c.act s a = some t)
    (hn : s.Numbered) : t.Numbered := by
  cases a with
  | call k =>
    obtain rfl := Option.some.inj h
    exact numbered_call c hn k
  | signal id sig =>
    obtain ⟨p, -, hturn⟩ := Settings.turn h
    exact hturn.numbered hn
  | abandon id =>
    obtain ⟨-, -, -, rfl⟩ := Settings.act_abandon_iff.1 h
    exact hn.finish id
  | drop =>
    obtain rfl := Option.some.inj h
    exact hn

end Muster.Probed
