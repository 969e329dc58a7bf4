/-
  What a registration key says, exactly.

  (1) `parse_eq_some_iff` — a text is a key of a namespace EXACTLY when it is the lead, a name, a slash
      and an endpoint, with characters in both and a slash in neither;
  (2) `parse_key` — the key of a process with a legal name and address says its name and its endpoint;
  (3) `findPut_eq_announced_iff`, `findDelete_eq_withdrawn_iff` — what a put announces, and what a removal
      withdraws;
  (4) `findDelete_key` — whoever the own key is found to withdraw, it is the own instance.

  The name is cut off at the FIRST slash, so a slash in the name of a process moves the cut, and what
  is left for the endpoint has a slash too many: such a process has a key that nobody reads.
-/
import Muster.Leased.Event
import Muster.Proofs.Endpoints

namespace Muster

/-- The name and the address of a process have characters, and no slash. -/
structure Registrant.Legal (r : Registrant) : Prop where
  name : r.name ≠ ""
  address : r.address ≠ ""
  slash_name : '/' ∉ r.name.toList
  slash_address : '/' ∉ r.address.toList

namespace Leased

namespace Layout

/-! ## Keys -/

theorem parts_eq_some_iff {rest name endpoint : List Char} :
    parts rest = some (name, endpoint) ↔
      rest = name ++ '/' :: endpoint ∧ name ≠ [] ∧ '/' ∉ name ∧ endpoint ≠ [] ∧ '/' ∉ endpoint := by
  unfold parts
  constructor
  · intro h
    split at h
    · cases h
    · rename_i n e hcut
      split at h
      · cases h
      · rename_i hno
        obtain ⟨rfl, rfl⟩ := Prod.mk.inj (Option.some.inj h)
        obtain ⟨rfl, hs⟩ := Text.cutFirst_slash_eq_some_iff.1 hcut
        simp only [not_or] at hno
        exact ⟨rfl, hno.1, hs, hno.2.1, hno.2.2⟩
  · rintro ⟨rfl, hn, hs, he, hse⟩
    rw [Text.cutFirst_slash_eq_some_iff.2 ⟨rfl, hs⟩]
    simp [hn, he, hse]

/-- **The keys of a namespace, exactly.** -/
theorem parse_eq_some_iff {scope k n e : String} :
    parse scope k = some (n, e) ↔
      k = lead scope ++ n ++ "/" ++ e ∧ n ≠ "" ∧ '/' ∉ n.toList ∧ e ≠ "" ∧ '/' ∉ e.toList := by
  unfold parse
  rw [Option.map_eq_some_iff]
  constructor
  · rintro ⟨⟨n', e'⟩, h, hne⟩
    obtain ⟨rfl, rfl⟩ := Prod.mk.inj hne
    obtain ⟨rest, hr, hp⟩ := Option.bind_eq_some_iff.1 h
    obtain ⟨rfl, hn, hs, he, hse⟩ := parts_eq_some_iff.1 hp
    refine ⟨String.toList_inj.1 ?_, ?_, ?_, ?_, ?_⟩
    · simpa using Text.dropLead_eq_some_iff.1 hr
    all_goals simpa using ‹_›
  · rintro ⟨rfl, hn, hs, he, hse⟩
    refine ⟨(n.toList, e.toList), Option.bind_eq_some_iff.2 ⟨n.toList ++ '/' :: e.toList, ?_, ?_⟩, ?_⟩
    · simp
    · exact parts_eq_some_iff.2 ⟨rfl, by simpa using hn, hs, by simpa using he, hse⟩
    · simp

/-- The key under which an endpoint of a service is registered. -/
def place (scope name endpoint : String) : String := lead scope ++ name ++ "/" ++ endpoint

theorem key_eq (scope : String) (r : Registrant) :
    key scope r = place scope r.name r.endpoint := rfl

/-- **What the own key says**, if it says anything. -/
theorem eq_of_parse_key {scope n e : String} {r : Registrant}
    (h : parse scope (key scope r) = some (n, e)) : n = r.name ∧ e = r.endpoint := by
  obtain ⟨hk, -, hs, -, hse⟩ := parse_eq_some_iff.1 h
  have hlist : r.name.toList ++ '/' :: r.endpoint.toList = n.toList ++ '/' :: e.toList := by
    have := congrArg String.toList hk
    simpa [key_eq, place] using this
  obtain ⟨hn, he⟩ := Text.append_slash_inj hlist hs hse
  exact ⟨(String.toList_inj.1 hn).symm, (String.toList_inj.1 he).symm⟩

/-- The key of a process with a legal name and address says both. -/
theorem parse_key {scope : String} {r : Registrant} (h : r.Legal) :
    parse scope (key scope r) = some (r.name, r.endpoint) := by
  refine parse_eq_some_iff.2 ⟨key_eq scope r, h.name, h.slash_name, ?_, ?_⟩
  · exact Endpoint.render_ne_empty _ _
  · exact fun hs => h.slash_address (Endpoint.slash_mem_render.1 hs)

end Layout

/-! ## Findings -/

/-- **A put announces the instance in its value**, under the name in its key. -/
theorem findPut_eq_announced_iff {scope n k : String} {v : ByteArray} {i : Instance} :
    findPut scope k v = .announced n i ↔
      (∃ p, Layout.parse scope k = some (n, p)) ∧ Instance.decode? v = some i := by
  constructor
  · intro h
    unfold findPut at h
    split at h
    · cases h
    · rename_i hk
      split at h
      · cases h
      · rename_i hv
        obtain ⟨rfl, rfl⟩ := Finding.announced.inj h
        exact ⟨⟨_, hk⟩, hv⟩
  · rintro ⟨⟨p, hk⟩, hv⟩
    unfold findPut
    rw [hk]
    simp only [hv]

/-- **A removal withdraws the instance that is rebuilt from its key.** -/
theorem findDelete_eq_withdrawn_iff {scope n k : String} {i : Instance} :
    findDelete scope k = .withdrawn n i ↔
      ∃ p, Layout.parse scope k = some (n, p) ∧ Instance.ofEndpoint n p = some i := by
  constructor
  · intro h
    unfold findDelete at h
    split at h
    · cases h
    · rename_i hk
      split at h
      · cases h
      · rename_i hi
        obtain ⟨rfl, rfl⟩ := Finding.withdrawn.inj h
        exact ⟨_, hk, hi⟩
  · rintro ⟨p, hk, hi⟩
    unfold findDelete
    rw [hk]
    simp only [hi]

/-- **Whoever the own key is found to withdraw, it is the own instance.** -/
theorem findDelete_key {scope n : String} {r : Registrant} {i : Instance}
    (h : findDelete scope (Layout.key scope r) = .withdrawn n i) : n = r.name ∧ i = r.self := by
  unfold findDelete at h
  split at h
  · cases h
  · rename_i service endpoint hp
    obtain ⟨rfl, rfl⟩ := Layout.eq_of_parse_key hp
    split at h
    · cases h
    · rename_i j hj
      obtain ⟨rfl, rfl⟩ := Finding.withdrawn.inj h
      refine ⟨rfl, ?_⟩
      by_cases ha : r.address = ""
      · simp [Instance.ofEndpoint, Registrant.endpoint, Endpoint.split_render, ha] at hj
      · exact Option.some.inj (hj.symm.trans (r.self.ofEndpoint_endpoint ha))

/-- A process with a legal name and address is withdrawn by the removal of its key. -/
theorem findDelete_key_of_legal {scope : String} {r : Registrant} (h : r.Legal) :
    findDelete scope (Layout.key scope r) = .withdrawn r.name r.self := by
  have hself : Instance.ofEndpoint r.name r.endpoint = some r.self :=
    r.self.ofEndpoint_endpoint h.address
  rw [findDelete, Layout.parse_key h]
  simp only [hself]

end Leased

end Muster
