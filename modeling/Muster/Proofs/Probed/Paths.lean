/-
  Do the two ways to ask for instances tell the same of an instance?

  The agent is asked when a service is looked for the first time, and a blocking query from then on.  Both answers
  say the same of a service, in differently shaped entries; but only the second kind says where its node is, and a
  service that was registered without an address answers at that of its node.

  (1) `agentService?`, `healthService?` — what the entries say of a service, and of its node;
  (2) `forall₂_of_readBody` — every entry of an answer is read, in its place;
  (3) `Paths.same` — two entries that say the same of a service are read as the same instance EXACTLY if the service
      has an address, or its node has none;
  (4) `Paths.loaded`, `Paths.changed` — so a first load caches an instance without an address EXACTLY if a report
      that counts is about a service without one; a blocking query only if its node has none, either;
  (5) `paths_agree_iff` — for whatever the two answer.

  THE CRUX (`Instance.address_eq_empty_iff`): an endpoint says whether its instance has an address, so that nobody
  with one can stand for somebody without.
-/
import Mathlib.Data.List.Forall2
import Muster.Probed.Remote
import Muster.Proofs.Json
import Muster.Proofs.Probed.Cold

namespace Muster

/-- **An endpoint says whether there is an address.** -/
theorem Instance.address_eq_empty_iff {i : Instance} :
    i.address = "" ↔ Endpoint.split i.endpoint = none := by
  rw [Instance.endpoint, Endpoint.split_render, ite_eq_left_iff]
  constructor
  · exact fun h hno => absurd h hno
  · exact fun h => Classical.byContradiction fun hno => Option.some_ne_none _ (h hno)

namespace Probed.Remote

/-! ## What an entry says -/

/-- What an entry of the agent's answer says of a service. -/
def agentService? (d : Datum) : Option Body :=
  (d.record? .json ["AggregatedStatus", "Service"]).bind fun r => r.required "Service" Body.read

/-- What an entry of a blocking query's answer says of a service, and of the address of its node. -/
def healthService? (d : Datum) : Option (Body × String) :=
  (d.record? .json ["Node", "Service", "Checks"]).bind fun r =>
    (r.required "Service" Body.read).bind fun b =>
      (r.withDefault "Node" readNode "").map fun node => (b, node)

/-- The entries of a body that is a list. -/
def entries (b : ByteArray) : List Datum :=
  match (Json.parseBytes b).map Datum.ofJson with
  | some (.list l) => l
  | _ => []

/-- The entries of the agent's answer; a service that the agent does not know has none. -/
def agentEntries (r : Http.Response) : List Datum := if r.status = 404 then [] else entries r.body

section Entries

variable {asked : String} {d : Datum} {q : Report} {b : Body} {node : String} {body : ByteArray}
  {entry : Datum → Option Report} {l : List Report}

/-- **An entry of the agent is read as what it says**, without a node. -/
theorem agentService_of_read (h : readAgentEntry asked d = some q) :
    ∃ b, agentService? d = some b ∧ q.service = b.toInstance asked "" := by
  obtain ⟨r, hr, h⟩ := Option.bind_eq_some_iff.1 h
  obtain ⟨status, -, h⟩ := Option.bind_eq_some_iff.1 h
  obtain ⟨b, hb, h⟩ := Option.bind_eq_some_iff.1 h
  obtain rfl := Option.some.inj h
  exact ⟨b, by rw [agentService?, hr, Option.bind_some, hb], rfl⟩

/-- **An entry of a blocking query is read as what it says**, with its node. -/
theorem healthService_of_read (h : readHealthEntry asked d = some q) :
    ∃ b node, healthService? d = some (b, node) ∧ q.service = b.toInstance asked node := by
  obtain ⟨r, hr, h⟩ := Option.bind_eq_some_iff.1 h
  obtain ⟨node, hnode, h⟩ := Option.bind_eq_some_iff.1 h
  obtain ⟨b, hb, h⟩ := Option.bind_eq_some_iff.1 h
  obtain ⟨checks, -, h⟩ := Option.bind_eq_some_iff.1 h
  obtain rfl := Option.some.inj h
  refine ⟨b, node, ?_, rfl⟩
  rw [healthService?, hr, Option.bind_some, hb, Option.bind_some, hnode, Option.map_some]

/-- An instance has no address EXACTLY if neither the service nor the node has one. -/
theorem toInstance_address_eq_empty_iff :
    (b.toInstance asked node).address = "" ↔ b.address = "" ∧ node = "" := by
  unfold Body.toInstance
  by_cases h : b.address = "" <;> simp [h]

/-- **The node matters** EXACTLY if the service has no address, and the node has one. -/
theorem toInstance_eq_iff :
    b.toInstance asked "" = b.toInstance asked node ↔ b.address ≠ "" ∨ node = "" := by
  by_cases h : b.address = ""
  · rw [or_iff_right (not_not_intro h)]
    constructor
    · intro he
      have hnode : (b.toInstance asked node).address = "" := by
        rw [← he]
        exact toInstance_address_eq_empty_iff.2 ⟨h, rfl⟩
      exact (toInstance_address_eq_empty_iff.1 hnode).2
    · rintro rfl
      rfl
  · refine iff_of_true ?_ (.inl h)
    simp [Body.toInstance, h]

/-- A list that is read item by item is read in its places. -/
theorem forall₂_of_mapM {α β : Type} {f : α → Option β} {as : List α} {bs : List β}
    (h : as.mapM f = some bs) : List.Forall₂ (fun a b => f a = some b) as bs := by
  induction as generalizing bs with
  | nil =>
    obtain rfl := Option.some.inj (List.mapM_nil.symm.trans h)
    exact .nil
  | cons a as ih =>
    rw [List.mapM_cons] at h
    obtain ⟨b, hb, h⟩ := Option.bind_eq_some_iff.1 h
    obtain ⟨bs', hbs, h⟩ := Option.bind_eq_some_iff.1 h
    obtain rfl := Option.some.inj h
    exact .cons hb (ih hbs)

/-- **Every entry of a body is read.** -/
theorem forall₂_of_readBody (h : readBody entry body = .ok l) :
    List.Forall₂ (fun d q => entry d = some q) (entries body) l := by
  unfold readBody at h
  split at h
  · rename_i l' hl
    obtain rfl := Except.ok.inj h
    obtain ⟨v, hv, hlist⟩ := Option.bind_eq_some_iff.1 hl
    unfold entries
    rw [hv, Option.map_some]
    unfold readList at hlist
    split at hlist
    · rename_i items hitems
      rw [hitems]
      exact forall₂_of_mapM hlist
    · cases hlist
  · cases h

/-- What an answer is mapped from. -/
theorem eq_ok_of_map {α β ε : Type} {f : α → β} {x : Except ε α} {b : β} (h : x.map f = .ok b) :
    ∃ a, x = .ok a ∧ f a = b := by
  cases x with
  | error e => cases h
  | ok a => exact ⟨a, rfl, Except.ok.inj h⟩

end Entries

/-! ## Answers -/

section Answers

variable {name scope : String} {index j : UInt64} {wait : Duration} {r : Http.Response} {l : List Report}

/-- **What the agent answers is read from its entries.** -/
theorem forall₂_of_agent (h : reply (.instances name scope) r = .ok (.reports l)) :
    List.Forall₂ (fun d q => readAgentEntry name d = some q) (agentEntries r) l := by
  rw [reply] at h
  unfold agentEntries
  split at h
  · rename_i hnone
    obtain rfl := Reply.reports.inj (Except.ok.inj h)
    rw [if_pos hnone]
    exact .nil
  · rename_i hsome
    split at h
    · obtain ⟨l', hl, he⟩ := eq_ok_of_map h
      obtain rfl := Reply.reports.inj he
      rw [if_neg hsome]
      exact forall₂_of_readBody hl
    · cases h

/-- **What a blocking query answers is read from its entries.** -/
theorem forall₂_of_health (h : reply (.changes name scope index wait) r = .ok (.indexed j l)) :
    List.Forall₂ (fun d q => readHealthEntry name d = some q) (entries r.body) l := by
  rw [reply] at h
  split at h
  · cases h
  · split at h
    · cases h
    · obtain ⟨l', hl, he⟩ := eq_ok_of_map h
      obtain ⟨-, rfl⟩ := Reply.indexed.inj he
      exact forall₂_of_readBody hl

end Answers

/-! ## The two paths -/

/-- **Two answers about a service**, from the agent and from a blocking query. -/
structure Paths (name : String) (r r' : Http.Response) (l l' : List Report) : Prop where
  /-- Each entry says something of a service, and is one report. -/
  agent : List.Forall₂ (fun d _ => (agentService? d).isSome = true) (agentEntries r) l
  health : List.Forall₂ (fun d _ => (healthService? d).isSome = true) (entries r'.body) l'
  /-- Two entries that say the same of a service are read as the same instance EXACTLY if the service has an address,
      or its node has none; -/
  same : ∀ p ∈ (agentEntries r).zip l, ∀ p' ∈ (entries r'.body).zip l', ∀ b node,
    agentService? p.1 = some b → healthService? p'.1 = some (b, node) →
      (p.2.service = p'.2.service ↔ b.address ≠ "" ∨ node = "")
  /-- and in any case as instances with the same name and port. -/
  alike : ∀ p ∈ (agentEntries r).zip l, ∀ p' ∈ (entries r'.body).zip l', ∀ b node,
    agentService? p.1 = some b → healthService? p'.1 = some (b, node) →
      p.2.service.name = p'.2.service.name ∧ p.2.service.port = p'.2.service.port
  /-- A first load of the service caches an instance without an address EXACTLY if a report that counts is about a
      service without one, wherever its node is. -/
  loaded : ∀ s : State, s.registry.get? name = none →
    ((∃ i ∈ ((merge name l s).registry.members name).list, i.address = "") ↔
      ∃ p ∈ (agentEntries r).zip l, p.2.CountsIn l ∧ ∃ b, agentService? p.1 = some b ∧ b.address = "")
  /-- After a changed result such an instance is only cached if neither a service nor its node has an address. -/
  changed : ∀ s : State, ∀ i ∈ ((apply name l' s).registry.members name).list, i.address = "" →
    ∃ p ∈ (entries r'.body).zip l', ∃ b, healthService? p.1 = some (b, "") ∧ b.address = ""

section Caches

variable {name : String} {s : State} {l : List Report}

/-- **An instance without an address is loaded** EXACTLY if a report that counts is about one. -/
theorem exists_loaded_iff (h : s.registry.get? name = none) :
    (∃ i ∈ ((merge name l s).registry.members name).list, i.address = "") ↔
      ∃ q ∈ l, q.CountsIn l ∧ q.service.address = "" := by
  have hmembers (i : Instance) : i ∈ ((merge name l s).registry.members name).list ↔ ComesIn l i := by
    rw [← mem_loaded_iff, Registry.members, get?_merge_of_none h]
    by_cases hl : l = []
    · subst hl
      exact Iff.rfl
    · rw [if_neg hl]
      exact Iff.rfl
  constructor
  · rintro ⟨i, hi, hempty⟩
    obtain ⟨front, q, back, rfl, rfl, hcounts, -⟩ := (hmembers i).1 hi
    exact ⟨q, List.mem_append_right _ (List.mem_cons_self ..), hcounts, hempty⟩
  · rintro ⟨q, hq, hcounts, hempty⟩
    -- whoever is taken for its endpoint has no address, either
    obtain ⟨i, hi, he⟩ := exists_comesIn hq hcounts
    refine ⟨i, (hmembers i).2 hi, ?_⟩
    rw [Instance.address_eq_empty_iff, he]
    exact Instance.address_eq_empty_iff.1 hempty

/-- **Whoever is cached after a changed result is reported**, with its address or without. -/
theorem exists_report_of_mem_apply {i : Instance}
    (hi : i ∈ ((apply name l s).registry.members name).list) (hempty : i.address = "") :
    ∃ q ∈ l, q.service.address = "" := by
  have hhas : (apply name l s).registry.has name i.endpoint = true := by
    rw [Registry.has, Members.has, Members.mem_list_iff.1 hi]
    rfl
  rw [apply_has] at hhas
  obtain ⟨q, hq, he⟩ := List.any_eq_true.1 (mentions_of_passes hhas)
  refine ⟨q, hq, ?_⟩
  rw [Instance.address_eq_empty_iff, beq_iff_eq.1 he]
  exact Instance.address_eq_empty_iff.1 hempty

/-- A report of a list that stands beside another has a partner. -/
theorem exists_mem_zip {α : Type} {as : List α} {q : Report} {f : α → Report → Prop}
    (h : List.Forall₂ f as l) (hq : q ∈ l) : ∃ p ∈ as.zip l, p.2 = q := by
  rw [← List.map_snd_zip (Nat.le_of_eq h.length_eq.symm)] at hq
  obtain ⟨p, hp, rfl⟩ := List.mem_map.1 hq
  exact ⟨p, hp, rfl⟩

end Caches

/-- **The two ways to ask tell the same of an instance EXACTLY if its service has an address**, or its node has none;
    whatever the agent and a blocking query answer. -/
theorem paths_agree_iff {name scope scope' : String} {index j : UInt64} {wait : Duration}
    {r r' : Http.Response} {l l' : List Report}
    (agent : reply (.instances name scope) r = .ok (.reports l))
    (health : reply (.changes name scope' index wait) r' = .ok (.indexed j l')) :
    Paths name r r' l l' := by
  have hagent := forall₂_of_agent agent
  have hhealth := forall₂_of_health health
  have hread {p : Datum × Report} (hp : p ∈ (agentEntries r).zip l) {b : Body}
      (hb : agentService? p.1 = some b) : p.2.service = b.toInstance name "" := by
    obtain ⟨b', hb', he⟩ := agentService_of_read (List.forall₂_zip hagent hp)
    obtain rfl := Option.some.inj (hb.symm.trans hb')
    exact he
  have hread' {p : Datum × Report} (hp : p ∈ (entries r'.body).zip l') {b : Body} {node : String}
      (hb : healthService? p.1 = some (b, node)) : p.2.service = b.toInstance name node := by
    obtain ⟨b', node', hb', he⟩ := healthService_of_read (List.forall₂_zip hhealth hp)
    obtain ⟨rfl, rfl⟩ := Prod.mk.inj (Option.some.inj (hb.symm.trans hb'))
    exact he
  constructor
  case agent =>
    refine hagent.imp fun d q hd => ?_
    obtain ⟨b, hb, -⟩ := agentService_of_read hd
    exact Option.isSome_iff_exists.2 ⟨b, hb⟩
  case health =>
    refine hhealth.imp fun d q hd => ?_
    obtain ⟨b, node, hb, -⟩ := healthService_of_read hd
    exact Option.isSome_iff_exists.2 ⟨_, hb⟩
  case same =>
    intro p hp p' hp' b node hb hb'
    rw [hread hp hb, hread' hp' hb', toInstance_eq_iff]
  case alike =>
    intro p hp p' hp' b node hb hb'
    rw [hread hp hb, hread' hp' hb']
    exact ⟨rfl, rfl⟩
  case loaded =>
    intro s hs
    rw [exists_loaded_iff hs]
    constructor
    · rintro ⟨q, hq, hcounts, hempty⟩
      obtain ⟨p, hp, rfl⟩ := exists_mem_zip hagent hq
      obtain ⟨b, hb, he⟩ := agentService_of_read (List.forall₂_zip hagent hp)
      rw [he] at hempty
      exact ⟨p, hp, hcounts, b, hb, (toInstance_address_eq_empty_iff.1 hempty).1⟩
    · rintro ⟨p, hp, hcounts, b, hb, hempty⟩
      refine ⟨p.2, (List.of_mem_zip hp).2, hcounts, ?_⟩
      rw [hread hp hb]
      exact toInstance_address_eq_empty_iff.2 ⟨hempty, rfl⟩
  case changed =>
    intro s i hi hempty
    obtain ⟨q, hq, hnone⟩ := exists_report_of_mem_apply hi hempty
    obtain ⟨p, hp, rfl⟩ := exists_mem_zip hhealth hq
    obtain ⟨b, node, hb, he⟩ := healthService_of_read (List.forall₂_zip hhealth hp)
    rw [he] at hnone
    obtain ⟨hbody, rfl⟩ := toInstance_address_eq_empty_iff.1 hnone
    exact ⟨p, hp, b, hb, hbody⟩

/-- What both answers say of a service: it has no address. -/
def blankService : Json := .object [("Service", .string "order"), ("Address", .string ""), ("Port", .ofNat 9000)]

/-- The entry of the agent, -/
def blankAgentEntry : Json := .object [("AggregatedStatus", .string "passing"), ("Service", blankService)]

/-- that of a blocking query, which says where the node is, -/
def blankHealthEntry : Json :=
  .object [("Node", .object [("Address", .string "10.0.0.5")]), ("Service", blankService)]

/-- the agent's answer, -/
def blankAgent : Http.Response := ⟨200, [], (Json.array [blankAgentEntry]).render.toByteArray⟩

/-- and that to a blocking query. -/
def blankHealth : Http.Response :=
  ⟨200, [(indexHeader, "5".toByteArray)], (Json.array [blankHealthEntry]).render.toByteArray⟩

/-- What the agent's answer is read as. -/
def blankReports : List Report := [⟨⟨"order", "", 9000⟩, .passing⟩]

/-- The answers are read back as they were written. -/
theorem blankAgent_parsed : Json.parseBytes blankAgent.body = some (.array [blankAgentEntry]) := by
  refine Json.parseBytes_render ?_
  simp [blankAgentEntry, blankService, Json.ofNat, Json.Plain, Json.PlainItems, Json.PlainMembers]

theorem blankHealth_parsed : Json.parseBytes blankHealth.body = some (.array [blankHealthEntry]) := by
  refine Json.parseBytes_render ?_
  simp [blankHealthEntry, blankService, Json.ofNat, Json.Plain, Json.PlainItems, Json.PlainMembers]

/-- The agent's answer is read without an address. -/
theorem blankAgent_read : reply (.instances "order" "") blankAgent = .ok (.reports blankReports) := by
  have hread : readList (readAgentEntry "order") (.ofJson (.array [blankAgentEntry])) = some blankReports := by
    decide +kernel
  have hbody : readBody (readAgentEntry "order") blankAgent.body = .ok blankReports := by
    rw [readBody, blankAgent_parsed, Option.bind_some, hread]
  show (readBody (readAgentEntry "order") blankAgent.body).map Reply.reports = _
  rw [hbody]
  rfl

/-- The answer to a blocking query is read with that of the node. -/
theorem blankHealth_read :
    reply (.changes "order" "" 0 (.ofSecs 1)) blankHealth =
      .ok (.indexed 5 [⟨⟨"order", "10.0.0.5", 9000⟩, .passing⟩]) := by
  have hindex : index? blankHealth = some 5 := by decide +kernel
  have hread : readList (readHealthEntry "order") (.ofJson (.array [blankHealthEntry])) =
      some [⟨⟨"order", "10.0.0.5", 9000⟩, .passing⟩] := by
    decide +kernel
  have hbody : readBody (readHealthEntry "order") blankHealth.body =
      .ok [⟨⟨"order", "10.0.0.5", 9000⟩, .passing⟩] := by
    rw [readBody, blankHealth_parsed, Option.bind_some, hread]
  rw [reply, if_neg (by decide), hindex, hbody]
  rfl

/-- The two answers about a service without an address are read, and the agent's brings an instance without one. -/
theorem paths_agree_iff_blank :
    Paths "order" blankAgent blankHealth blankReports [⟨⟨"order", "10.0.0.5", 9000⟩, .passing⟩] ∧
      ∃ p ∈ (agentEntries blankAgent).zip blankReports, ∃ b, agentService? p.1 = some b ∧ b.address = "" := by
  have hpaths := paths_agree_iff blankAgent_read blankHealth_read
  have hloaded : ∃ i ∈ ((merge "order" blankReports State.initial).registry.members "order").list,
      i.address = "" :=
    ⟨⟨"order", "", 9000⟩, by decide +kernel, rfl⟩
  obtain ⟨p, hp, -, b, hb, hempty⟩ := (hpaths.loaded .initial rfl).1 hloaded
  exact ⟨hpaths, p, hp, b, hb, hempty⟩

/-- **The agent's answer brings a phantom.**  A service has no address, and its node has one.  Both answers say the
    same of it; but the agent's is read as an instance without an address, which a new backend then returns. -/
theorem phantom_loaded :
    ∃ (b : Body) (d d' : Datum) (s t : State),
      agentEntries blankAgent = [d] ∧ entries blankHealth.body = [d'] ∧
      agentService? d = some b ∧ healthService? d' = some (b, "10.0.0.5") ∧
      (readAgentEntry "order" d).map (·.service) = some ⟨"order", "", 9000⟩ ∧
      (readHealthEntry "order" d').map (·.service) = some ⟨"order", "10.0.0.5", 9000⟩ ∧
      Settings.sample.act .initial (.call (.instances "order")) = some s ∧
      Settings.sample.act s (.signal 0 (.reply (reply (.instances "order" "") blankAgent))) = some t ∧
      (t.registry.members "order").list = [⟨"order", "", 9000⟩] := by
  have hentries : agentEntries blankAgent = [.ofJson blankAgentEntry] := by
    rw [agentEntries, if_neg (by decide), entries, blankAgent_parsed]
    rfl
  have hentries' : entries blankHealth.body = [.ofJson blankHealthEntry] := by
    rw [entries, blankHealth_parsed]
    rfl
  have hrun : ((Settings.sample.act .initial (.call (.instances "order"))).bind fun s =>
      (Settings.sample.act s (.signal 0 (.reply (.ok (.reports blankReports))))).map fun t =>
        (t.registry.members "order").list) = some [⟨"order", "", 9000⟩] := by
    decide +kernel
  obtain ⟨s, hs, hrun⟩ := Option.bind_eq_some_iff.1 hrun
  obtain ⟨t, ht, hlist⟩ := Option.map_eq_some_iff.1 hrun
  rw [← blankAgent_read] at ht
  exact ⟨⟨"order", "", 9000⟩, _, _, s, t, hentries, hentries', rfl, rfl, by decide +kernel, by decide +kernel,
    hs, ht, hlist⟩

end Probed.Remote

end Muster
