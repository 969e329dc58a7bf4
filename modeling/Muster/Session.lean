/-
  A running backend.

  Both kinds of backend keep the same books: the flags of their lifecycle, the cache of instances, the
  processes that stand in the middle of their work, and a journal of what could be seen from outside.
  `Session` holds these, and beside them what only one kind needs (`own`).

  A process is known by a number that is never given twice.  Each operation below changes ONE of the
  books and leaves the others alone; the steps of a backend are compositions of them.
-/
import Muster.Registry
import Muster.Lifecycle
import Muster.Process

namespace Muster

/-- **A running backend.**  `ξ` is what only its kind keeps, `π` are its processes, and `κ` its
    requests. -/
structure Session (ξ π κ : Type) where
  flags : Flags := { connected := true }
  registry : Registry := .empty
  /-- Whether the backend has been closed: its tasks are cancelled. -/
  closed : Bool := false
  /-- The processes that wait, by number. -/
  processes : List (Nat × π) := []
  /-- The number of the next process. -/
  nextId : Nat := 0
  /-- What could be seen so far, the newest first. -/
  journal : List (Entry κ) := []
  own : ξ

namespace Session

variable {ξ π κ : Type}

/-! ## The journal -/

/-- Writes a log line. -/
def note (s : Session ξ π κ) (l : Logging.Line) : Session ξ π κ :=
  { s with journal := .line l :: s.journal }

/-- Writes log lines. -/
def notes (s : Session ξ π κ) (ls : List Logging.Line) : Session ξ π κ := ls.foldl note s

/-- Writes a log line, given by its parts. -/
def log (s : Session ξ π κ) (severity : Logging.Severity) (message : String)
    (fields : List (String × String)) : Session ξ π κ :=
  s.note ⟨severity, message, fields⟩

/-! ## The processes -/

/-- The process with a number. -/
def process? (s : Session ξ π κ) (id : Nat) : Option π := s.processes.lookup id

/-- **Starts a process**; it gets the next number. -/
def spawn (s : Session ξ π κ) (p : π) : Session ξ π κ :=
  { s with processes := s.processes ++ [(s.nextId, p)], nextId := s.nextId + 1 }

/-- The process with a number goes on as another. -/
def become (s : Session ξ π κ) (id : Nat) (p : π) : Session ξ π κ :=
  { s with processes := s.processes.map fun q => if q.1 = id then (id, p) else q }

/-- The process with a number is over. -/
def finish (s : Session ξ π κ) (id : Nat) : Session ξ π κ :=
  { s with processes := s.processes.filter fun q => q.1 != id }

/-- The process with a number sends a request, and goes on as `p` to wait for the answer. -/
def ask (s : Session ξ π κ) (id : Nat) (r : κ) (p : π) : Session ξ π κ :=
  { s.become id p with journal := .request id r :: s.journal }

/-- A new process sends a request and waits for the answer as `p`. -/
def begin (s : Session ξ π κ) (r : κ) (p : π) : Session ξ π κ := (s.spawn p).ask s.nextId r p

/-- A call that returns at once; it, too, gets the next number. -/
def instant (s : Session ξ π κ) (o : Outcome) : Session ξ π κ :=
  { s with nextId := s.nextId + 1, journal := .returned s.nextId o :: s.journal }

/-- The call with a number returns. -/
def answer (s : Session ξ π κ) (id : Nat) (o : Outcome) : Session ξ π κ :=
  { s.finish id with journal := .returned id o :: s.journal }

/-- The call with a number returns a success. -/
def succeed (s : Session ξ π κ) (id : Nat) : Session ξ π κ := s.answer id (.status (.ok ()))

/-- The call with a number fails. -/
def fail (s : Session ξ π κ) (id : Nat) (f : Failure) : Session ξ π κ :=
  s.answer id (.status (.error f))

/-! ## The flags -/

/-- Raises or lowers the flag of a degraded backend; a change is logged. -/
def setDegraded (s : Session ξ π κ) (b : Bool) : Session ξ π κ :=
  let t := { s with flags := { s.flags with degraded := b } }
  if s.flags.degraded = b then t
  else t.log .debug "discovery state changed" [("degraded", if b then "true" else "false")]

/-- Raises or lowers the flag of a watching backend. -/
def setWatching (s : Session ξ π κ) (b : Bool) : Session ξ π κ :=
  { s with flags := { s.flags with watching := b } }

/-- Raises or lowers the flag of a registered backend. -/
def setRegistered (s : Session ξ π κ) (b : Bool) : Session ξ π κ :=
  { s with flags := { s.flags with registered := b } }

/-- **Closes the backend.** -/
def close (s : Session ξ π κ) : Session ξ π κ := { s with closed := true }

/-! ## The cache -/

/-- Adds an instance under a name; if it is new, a line says so for the service `shown`. -/
def insertNoted (s : Session ξ π κ) (name shown : String) (i : Instance) : Session ξ π κ :=
  let t := { s with registry := s.registry.insert name i }
  if s.registry.has name i.endpoint then t
  else t.note (.about shown "service instance added" i)

/-- Takes the member at the instance's endpoint away from a name; if there was one, `line` says so. -/
def eraseNoted (s : Session ξ π κ) (name : String) (i : Instance) (line : Logging.Line) :
    Session ξ π κ :=
  let t := { s with registry := s.registry.erase name i.endpoint }
  if s.registry.has name i.endpoint then t.note line else t

/-! ## The processes after each operation -/

theorem lookup_map_become (id k : Nat) (p : π) (l : List (Nat × π)) :
    (l.map fun q => if q.1 = id then (id, p) else q).lookup k =
      if k = id then (l.lookup id).map fun _ => p else l.lookup k := by
  induction l with
  | nil => simp
  | cons q l ih =>
    obtain ⟨n, r⟩ := q
    by_cases hn : n = id
    · subst hn
      by_cases hk : k = n
      · subst hk; simp
      · rw [List.map_cons, if_pos rfl, List.lookup_cons, beq_eq_false_iff_ne.2 hk]
        simpa [hk, List.lookup_cons, beq_eq_false_iff_ne.2 hk] using ih
    · rw [List.map_cons, if_neg hn, List.lookup_cons]
      by_cases hk : k = n
      · subst hk; simp [hn]
      · rw [beq_eq_false_iff_ne.2 hk]
        have hid : (id == n) = false := beq_eq_false_iff_ne.2 (Ne.symm hn)
        simpa [List.lookup_cons, hid, beq_eq_false_iff_ne.2 hk] using ih

theorem lookup_filter_ne (id k : Nat) (l : List (Nat × π)) :
    (l.filter fun q => q.1 != id).lookup k = if k = id then none else l.lookup k := by
  induction l with
  | nil => simp
  | cons q l ih =>
    obtain ⟨n, r⟩ := q
    by_cases hn : n = id
    · subst hn
      by_cases hk : k = n
      · subst hk; simpa using ih
      · simpa [hk, List.lookup_cons, beq_eq_false_iff_ne.2 hk] using ih
    · by_cases hk : k = n
      · subst hk; simp [hn]
      · have h : (k == n) = false := beq_eq_false_iff_ne.2 hk
        simpa [List.filter_cons, hn, List.lookup_cons, h] using ih

/-- Only the process that goes on is another one afterwards. -/
theorem process?_become (s : Session ξ π κ) (id k : Nat) (p : π) :
    (s.become id p).process? k =
      if k = id then (s.process? id).map fun _ => p else s.process? k :=
  lookup_map_become id k p s.processes

/-- Only the process that is over is gone afterwards. -/
theorem process?_finish (s : Session ξ π κ) (id k : Nat) :
    (s.finish id).process? k = if k = id then none else s.process? k :=
  lookup_filter_ne id k s.processes

/-- Whoever is found under a number is among the processes. -/
theorem mem_of_process? {s : Session ξ π κ} {k : Nat} {p : π} (h : s.process? k = some p) :
    (k, p) ∈ s.processes := by
  obtain ⟨l₁, l₂, hl, -⟩ := List.lookup_eq_some_iff.1 h
  rw [hl]
  exact List.mem_append_right _ (List.mem_cons_self ..)

/-- **No number is given twice**: those in use are smaller than the next. -/
def Numbered (s : Session ξ π κ) : Prop := ∀ q ∈ s.processes, q.1 < s.nextId

/-- The next number is nobody's. -/
theorem Numbered.process?_nextId {s : Session ξ π κ} (h : s.Numbered) :
    s.process? s.nextId = none := by
  rw [process?, List.lookup_eq_none_iff]
  intro q hq
  have := h q hq
  exact bne_iff_ne.2 (Nat.ne_of_gt this)

/-- A process that is started stands beside the others. -/
theorem Numbered.process?_spawn {s : Session ξ π κ} (h : s.Numbered) (p : π) (k : Nat) :
    (s.spawn p).process? k = if k = s.nextId then some p else s.process? k := by
  show (s.processes ++ [(s.nextId, p)]).lookup k = _
  rw [List.lookup_append]
  by_cases hk : k = s.nextId
  · subst hk
    rw [show s.processes.lookup s.nextId = none from h.process?_nextId]
    simp
  · rw [if_neg hk, List.lookup_cons, beq_eq_false_iff_ne.2 hk]
    simp [process?]

theorem Numbered.spawn {s : Session ξ π κ} (h : s.Numbered) (p : π) : (s.spawn p).Numbered := by
  intro q hq
  rcases List.mem_append.1 hq with hq | hq
  · exact Nat.lt_succ_of_lt (h q hq)
  · rw [List.mem_singleton.1 hq]
    exact Nat.lt_succ_self _

theorem Numbered.become {s : Session ξ π κ} (h : s.Numbered) (id : Nat) (p : π) :
    (s.become id p).Numbered := by
  intro q hq
  obtain ⟨r, hr, rfl⟩ := List.mem_map.1 hq
  show (if r.1 = id then (id, p) else r).1 < s.nextId
  by_cases hid : r.1 = id
  · rw [if_pos hid]; exact hid ▸ h r hr
  · rw [if_neg hid]; exact h r hr

theorem Numbered.finish {s : Session ξ π κ} (h : s.Numbered) (id : Nat) :
    (s.finish id).Numbered :=
  fun q hq => h q (List.mem_filter.1 hq).1

end Session

end Muster
