/-
  Which namespace do the requests of a probing backend name?

  A backend has one namespace, and four requests that are turned into messages in four places: a registration names it
  in its body, the two queries in theirs, and the removal of a registration is asked for with an identifier alone.
  What a message names is read off the message, and not off the request it was made of.

  (1) `Http.Request.scopes` — the namespaces that a message names: in the text of its URL, in its query, in its body.
      How a client reads a query out of the text of a URL is not known here, but that it finds none where there is no
      question mark;
  (2) `ownScopes_message` — what the message of a request names beyond the text of its URL;
  (3) `scopes_agree_iff` — hence along every run all messages name the namespace of the backend EXACTLY if it is
      empty, or no removal is asked for; and a removal asks for the service that was registered EXACTLY if it is empty.

  THE CRUX (`asks_run`): what is sent along a run is known, and so is every message that is made of it.
-/
import Mathlib.Data.List.TakeWhile
import Muster.Proofs.Probed.Sending

namespace Muster

/-! ## What a message names -/

/-- The texts under a name in a JSON object. -/
def Json.textsUnder (name : String) : Json → List String
  | object members => members.filterMap fun p =>
      match p with
      | (n, string s) => if n = name then some s else none
      | _ => none
  | _ => []

namespace Http

/-- The texts under a name in a query. -/
def textsUnder (name : String) (query : List (String × String)) : List String :=
  query.filterMap fun p => if p.1 = name then some p.2 else none

/-- The texts under a name in a body. -/
def Request.bodyTexts (m : Request) (name : String) : List String := m.body.elim [] (Json.textsUnder name)

/-- The namespaces in the query and the body of a message. -/
def Request.ownScopes (m : Request) : List String := textsUnder "ns" m.query ++ m.bodyTexts "Namespace"

/-- **The namespaces that a message names**, if this is how a query is read out of the text of a URL. -/
def Request.scopes (inUrl : String → List (String × String)) (m : Request) : List String :=
  textsUnder "ns" (inUrl m.url) ++ m.ownScopes

/-- The query in the text of a URL, as far as nothing in it is encoded. -/
def queryIn (url : String) : List (String × String) :=
  match url.toList.dropWhile (· != '?') with
  | [] => []
  | _ :: query =>
    (Text.pieces '&' (query.takeWhile (· != '#'))).map fun p =>
      match Text.cutFirst "=".toList p with
      | none => (String.ofList p, "")
      | some (name, value) => (String.ofList name, String.ofList value)

theorem queryIn_plain {url : String} (h : '?' ∉ url.toList) : queryIn url = [] := by
  have hnone : url.toList.dropWhile (· != '?') = [] := by
    refine List.dropWhile_eq_nil_iff.2 fun x hx => ?_
    rw [bne_iff_ne]
    rintro rfl
    exact h hx
  rw [queryIn, hnone]

end Http

namespace Probed

/-- The namespaces that a backend should name: its own, unless it is empty. -/
def Settings.scopes (c : Settings) : List String := if c.scope = "" then [] else [c.scope]

/-- Whether a request is for the removal of a registration. -/
def Request.removes : Request → Bool
  | deregister _ => true
  | _ => false

/-- The URL at which the removal of a registration is asked for. -/
def Settings.removalUrl (c : Settings) (base : String) : String :=
  base ++ "/v1/agent/service/deregister/" ++ c.self.endpoint

section Messages

variable {c : Settings} {q : Request} {m : Http.Request}

theorem textsUnder_scopeQuery (scope : String) :
    Http.textsUnder "ns" (Remote.scopeQuery scope) = if scope = "" then [] else [scope] := by
  unfold Remote.scopeQuery
  split <;> rfl

/-- A registration names its namespace, and its identifier. -/
theorem textsUnder_toJson (r : Registration) :
    r.toJson.textsUnder "Namespace" = (if r.scope = "" then [] else [r.scope]) ∧
      r.toJson.textsUnder "ID" = [r.id] := by
  unfold Registration.toJson
  split <;> exact ⟨rfl, rfl⟩

/-- **What the message of a request names by itself**: the namespace of the backend, unless it asks for a removal. -/
theorem ownScopes_message (base : String) (hq : c.Asks q) (hm : Remote.message? base q = some m) :
    m.ownScopes = if q.removes then [] else c.scopes := by
  cases hq with
  | register =>
    obtain rfl := Option.some.inj hm
    exact (textsUnder_toJson c.registration).1
  | deregister =>
    obtain rfl := Option.some.inj hm
    rfl
  | instances service =>
    obtain rfl := Option.some.inj hm
    exact (List.append_nil _).trans (textsUnder_scopeQuery c.scope)
  | changes service index =>
    obtain ⟨limit, -, rfl⟩ := Remote.message?_changes_eq_some_iff.1 hm
    have hrest : Http.textsUnder "ns"
        [("index", Decimal.ofInt index.toNat), ("wait", Decimal.ofInt c.watch.wait.secs ++ "s")] = [] := rfl
    show Http.textsUnder "ns" (Remote.scopeQuery c.scope ++ _) ++ [] = c.scopes
    rw [List.append_nil, Http.textsUnder, List.filterMap_append, ← Http.textsUnder, ← Http.textsUnder, hrest,
      List.append_nil, textsUnder_scopeQuery]
    rfl

end Messages

/-! ## Along a run -/

section Runs

variable {c : Settings} {s : State} {turns : List (State × Act)} {inUrl : String → List (String × String)}

/-- What asks for a removal is sent without a query, and without a body. -/
theorem message?_removes (base : String) {q : Request} (hq : c.Asks q) (hr : q.removes = true) :
    Remote.message? base q = some { method := .put, url := c.removalUrl base } := by
  cases hq with
  | deregister => rfl
  | _ => cases hr

/-- **The namespaces that a probing backend names.**  Beyond what stands in the text of its URL, each message that is
    sent along a run names the namespace of the backend, if it has one, except for those that ask for a removal: they
    name none.  So all messages in whose URL is no question mark name the same EXACTLY if the namespace is empty, or no
    removal is asked for.  And a removal asks for the service that was registered, by its identifier and by its
    namespace, EXACTLY if the namespace is empty. -/
theorem scopes_agree_iff (plain : ∀ url : String, '?' ∉ url.toList → inUrl url = [])
    (reached : Run c.act .initial turns s) {base : String} (quiet : '?' ∉ (c.removalUrl base).toList) :
    (∀ p ∈ s.requests, ∀ m, Remote.message? base p.2 = some m →
      m.scopes inUrl = Http.textsUnder "ns" (inUrl m.url) ++ if p.2.removes then [] else c.scopes) ∧
    ((∀ p ∈ s.requests, ∀ m, Remote.message? base p.2 = some m → '?' ∉ m.url.toList →
        m.scopes inUrl = c.scopes) ↔
      c.scope = "" ∨ ∀ p ∈ s.requests, p.2.removes = false) ∧
    ∃ created removed, Remote.message? base (.register c.registration) = some created ∧
      Remote.message? base (.deregister c.self.endpoint) = some removed ∧
      created.bodyTexts "ID" = [c.self.endpoint] ∧ removed.url = c.removalUrl base ∧
      (removed.ownScopes = created.ownScopes ↔ c.scope = "") := by
  have hnamed : ∀ p ∈ s.requests, ∀ m, Remote.message? base p.2 = some m →
      m.scopes inUrl = Http.textsUnder "ns" (inUrl m.url) ++ if p.2.removes then [] else c.scopes := by
    intro p hp m hm
    rw [Http.Request.scopes, ownScopes_message base (asks_run reached p hp) hm]
  have hscopes : c.scopes = [] ↔ c.scope = "" := by
    unfold Settings.scopes
    split <;> simp_all
  refine ⟨hnamed, ⟨?_, ?_⟩, ?_⟩
  · intro hall
    by_cases hempty : c.scope = ""
    · exact .inl hempty
    · refine .inr fun p hp => Bool.eq_false_iff.2 fun hr => hempty (hscopes.1 ?_)
      -- what asks for a removal names nothing
      have hm := message?_removes base (asks_run reached p hp) hr
      have hsame := hall p hp _ hm quiet
      rw [hnamed p hp _ hm, if_pos hr, plain _ quiet] at hsame
      exact hsame.symm
  · intro hall p hp m hm hquiet
    rw [hnamed p hp m hm, plain _ hquiet]
    rcases hall with hempty | hno
    · rw [hscopes.2 hempty, ite_self]
      rfl
    · rw [hno p hp]
      rfl
  · refine ⟨_, _, rfl, rfl, (textsUnder_toJson c.registration).2, rfl, ?_⟩
    rw [ownScopes_message base (.register (c := c)) rfl, ownScopes_message base (.deregister (c := c)) rfl]
    exact eq_comm.trans hscopes

/-- A backend that announces a process called `order`, in a namespace. -/
def Settings.scoped (scope : String) : Settings :=
  .ofConfig ⟨"order", "10.0.0.1", 9000, .grpc⟩ { backend := .consul, scope := some scope }

/-- The process registers, and takes the registration back. -/
def removalActs : List Act := [.call .register, .signal 0 (.reply (.ok .done)), .call .deregister]

/-- Without a namespace no message names one. -/
theorem scopes_agree_iff_unscoped :
    (∀ url : String, '?' ∉ url.toList → Http.queryIn url = []) ∧
      '?' ∉ ((Settings.scoped " ").removalUrl "http://127.0.0.1:8500").toList ∧
      ∃ turns s, Run (Settings.scoped " ").act .initial turns s ∧
        (1, .deregister "10.0.0.1:9000") ∈ s.requests ∧
        ∀ p ∈ s.requests, ∀ m, Remote.message? "http://127.0.0.1:8500" p.2 = some m → '?' ∉ m.url.toList →
          m.scopes Http.queryIn = [] := by
  have hquiet : '?' ∉ ((Settings.scoped " ").removalUrl "http://127.0.0.1:8500").toList := by decide +kernel
  obtain ⟨turns, reached, -⟩ := Run.of_foldlM
    (show removalActs.foldlM (Settings.scoped " ").act .initial = some _ from rfl)
  obtain ⟨-, hagree, -⟩ := scopes_agree_iff (fun url => Http.queryIn_plain) reached hquiet
  exact ⟨fun url => Http.queryIn_plain, hquiet, turns, _, reached, List.mem_cons_self .., hagree.2 (.inl rfl)⟩

/-- **A removal names no namespace**: a process registers in one, and takes its registration back out of none. -/
theorem removal_unscoped :
    ∃ turns s created removed, Run (Settings.scoped "team-a").act .initial turns s ∧
      s.requests.map (fun p => Remote.message? "http://127.0.0.1:8500" p.2) = [some removed, some created] ∧
      created.bodyTexts "ID" = ["10.0.0.1:9000"] ∧ created.scopes Http.queryIn = ["team-a"] ∧
      removed.url = "http://127.0.0.1:8500/v1/agent/service/deregister/10.0.0.1:9000" ∧
      removed.scopes Http.queryIn = [] := by
  obtain ⟨turns, reached, -⟩ := Run.of_foldlM
    (show removalActs.foldlM (Settings.scoped "team-a").act .initial = some _ from rfl)
  refine ⟨turns, _, _, _, reached, rfl, ?_, ?_, ?_, ?_⟩ <;> decide +kernel

end Runs

end Probed

end Muster
