/-
  What a probing backend asks of a store.

  There are four requests, sent from seven places: a registration and its removal by calls, a query for instances by
  calls and by watches, and a query for changes by watches alone.  Whoever looks at the store from outside wants to
  know what can arrive there at all.

  (1) `Settings.Asks` — the requests that go with some settings: of the registration only the configured one, of
      queries only those in the configured namespace, and for as long as configured;
  (2) `Turn.sends`, `Settings.call_sends` — a turn, or a call, sends one of them or nothing;
  (3) `asks_run` — hence along every run nothing else is sent;
  (4) `Remote.message?_changes_eq_some_iff` — the one request that may have no message, and the message that it has.
-/
import Muster.Probed.Remote
import Muster.Proofs.Probed.Turn

namespace Muster.Probed

/-- **The requests that go with the settings of a backend.** -/
inductive Settings.Asks (c : Settings) : Request → Prop
  | register : c.Asks (.register c.registration)
  | deregister : c.Asks (.deregister c.self.endpoint)
  | instances (service : String) : c.Asks (.instances service c.scope)
  | changes (service : String) (index : UInt64) : c.Asks (.changes service c.scope index c.watch.wait)

/-- One request more was sent, or none. -/
def State.Sends (s t : State) (proper : Request → Prop) : Prop :=
  t.requests = s.requests ∨ ∃ id q, proper q ∧ t.requests = (id, q) :: s.requests

section Sending

variable {c : Settings} {s t u : State} {id : Nat} {p : Process} {sig : Signal Reply Item}

/-- Whatever was done before, a request was sent in the end. -/
theorem sends_ask (h : u.requests = s.requests) {q : Request} (hq : c.Asks q) (next : Process) :
    s.Sends (u.ask id q next) c.Asks :=
  .inr ⟨id, q, hq, by rw [(Session.ask_books u id q next).2.2.2.2.2.2, h]⟩

theorem sends_query (h : u.requests = s.requests) (service : String) (index : UInt64) (failures : Nat) :
    s.Sends (c.query u id service index failures) c.Asks :=
  sends_ask h (.changes service index) _

/-- **What a turn sends.** -/
theorem Turn.sends (h : Turn c s id p sig t) : s.Sends t c.Asks := by
  cases h with
  | registers | registerFails | deregisters | deregisterFails | findFails | closes => exact .inl (by simp)
  | finds l o =>
    refine .inl ?_
    rw [(Session.answer_books _ id o).2.2.2.2.2.2, (ensureWatch_books ..).2.2.2.2.2.2]
    exact (merge_alike _ l s).requests
  | begins l => exact sends_query (by simp) _ _ _
  | repeats l ls => exact sends_query (by simp) _ _ _
  | changes new l ls => exact sends_query (by rw [(apply_alike _ l _).requests]; simp) _ _ _
  | sights new l ls => exact sends_ask (by simp) (.instances _) _
  | backsOff | givesUp | stops => exact .inl (by simp)
  | loads loaded =>
    exact sends_query ((apply_alike _ _ _).requests.trans (merge_alike _ loaded s).requests) _ _ _
  | loadFails f line => exact sends_query (by rw [(apply_alike _ _ _).requests]; simp) _ _ _
  | retries => exact sends_query rfl _ _ _

/-- **What a call sends.** -/
theorem Settings.call_sends (c : Settings) (s : State) (k : Call) : s.Sends (c.call s k) c.Asks := by
  have begins {q : Request} (hq : c.Asks q) (first : Process) : s.Sends (s.begin q first) c.Asks :=
    .inr ⟨s.nextId, q, hq, by simp⟩
  cases k with
  | register => exact begins .register _
  | deregister => exact begins .deregister _
  | instances service =>
    unfold call
    dsimp only
    split
    · exact .inl (by simp)
    · exact begins (.instances service) _
  | shutdown => exact .inl (by simp [call])

/-- **What an act sends.** -/
theorem act_sends {a : Act} (h : c.act s a = some t) : s.Sends t c.Asks := by
  cases a with
  | call k =>
    obtain rfl := Option.some.inj h
    exact c.call_sends s k
  | signal id sig =>
    obtain ⟨p, -, hturn⟩ := Settings.turn h
    exact hturn.sends
  | abandon id =>
    obtain ⟨-, -, -, rfl⟩ := Settings.act_abandon_iff.1 h
    exact .inl (by simp)
  | drop =>
    obtain rfl := Option.some.inj h
    exact .inl (by simp)

/-- **All that is sent along a run goes with the settings.** -/
theorem asks_run {turns : List (State × Act)} (h : Run c.act .initial turns s) :
    ∀ q ∈ s.requests, c.Asks q.2 := by
  refine h.invariant (fun u => ∀ q ∈ u.requests, c.Asks q.2) (fun q hq => nomatch hq) ?_
  intro p _ v hall hact q hq
  rcases act_sends hact with hsame | ⟨id, r, hr, hmore⟩
  · exact hall q (hsame ▸ hq)
  · rw [hmore] at hq
    rcases List.mem_cons.1 hq with rfl | hq
    · exact hr
    · exact hall q hq

end Sending

/-! ## Messages -/

namespace Remote

/-- What is sent of a query for changes says its wait, and has the limit that it gets. -/
theorem message?_changes_eq_some_iff {base service scope : String} {index : UInt64} {wait : Duration}
    {m : Http.Request} :
    message? base (.changes service scope index wait) = some m ↔
      ∃ limit, wait.add? grace = some limit ∧
        m = { method := .get, url := base ++ "/v1/health/service/" ++ service
              query := scopeQuery scope ++
                [("index", Decimal.ofInt index.toNat), ("wait", Decimal.ofInt wait.secs ++ "s")]
              limit := some limit } := by
  rw [message?, Option.map_eq_some_iff]
  exact exists_congr fun limit => and_congr_right fun _ => eq_comm

end Remote

end Muster.Probed
