/-
  Namespaces keep their keys to themselves.

  A key is the text `discovery/<namespace>/<service>/<endpoint>`, and nothing is asked of the namespace:
  it may hold slashes, end in one, or begin with another namespace.

  (1) `place_inj` — a text is the place of ONE endpoint of one service in one namespace;
  (2) `isSome_parse_key_iff` — a backend reads the key of a process EXACTLY when both are of one
      namespace;
  (3) `namespaces_isolated` — together with what is read: the service, the endpoint, and from them the
      process as it announced itself.

  THE CRUX: cut at the LAST slash.  Service and endpoint have none, so the last slash is the one before
  the endpoint and the last before that is the one before the service, whatever the namespace holds.
-/
import Muster.Leased.Basic
import Muster.Proofs.Leased.Layout

namespace Muster

/-- The endpoint of a process with a legal address has no slash. -/
theorem Registrant.Legal.slash_endpoint {r : Registrant} (h : r.Legal) :
    '/' ∉ r.endpoint.toList :=
  fun hs => h.slash_address (Endpoint.slash_mem_render.1 hs)

/-- Processes with the same name, address and port announce the same instance. -/
theorem Registrant.self_eq_iff {r q : Registrant} :
    r.self = q.self ↔ r.name = q.name ∧ r.address = q.address ∧ r.port = q.port := by
  rw [self, self, Instance.mk.injEq]

namespace Leased

namespace Layout

/-- **A text is the place of one endpoint** of one service in one namespace. -/
theorem place_inj {scope scope' n n' e e' : String} (h : place scope n e = place scope' n' e')
    (hn : '/' ∉ n.toList) (hn' : '/' ∉ n'.toList) (he : '/' ∉ e.toList) (he' : '/' ∉ e'.toList) :
    scope = scope' ∧ n = n' ∧ e = e' := by
  have hlist : ("discovery/".toList ++ scope.toList ++ '/' :: n.toList) ++ '/' :: e.toList =
      ("discovery/".toList ++ scope'.toList ++ '/' :: n'.toList) ++ '/' :: e'.toList := by
    have := congrArg String.toList h
    simpa [place, lead, root] using this
  obtain ⟨hfront, hend⟩ := Text.append_last_inj hlist he he'
  obtain ⟨hroot, hname⟩ := Text.append_last_inj hfront hn hn'
  have hscope : scope.toList = scope'.toList := List.append_cancel_left hroot
  exact ⟨String.toList_inj.1 hscope, String.toList_inj.1 hname, String.toList_inj.1 hend⟩

/-- **The key of a process is read in its own namespace only.** -/
theorem scope_eq_of_parse_key {scope scope' n e : String} {r : Registrant} (hr : r.Legal)
    (h : parse scope (key scope' r) = some (n, e)) : scope = scope' := by
  obtain ⟨hk, -, hn, -, he⟩ := parse_eq_some_iff.1 h
  have hplace : place scope n e = place scope' r.name r.endpoint := hk.symm
  exact (place_inj hplace hn hr.slash_name he hr.slash_endpoint).1

/-- A backend reads the key of a process EXACTLY when both are of one namespace. -/
theorem isSome_parse_key_iff {scope scope' : String} {r : Registrant} (hr : r.Legal) :
    (parse scope (key scope' r)).isSome = true ↔ scope = scope' := by
  constructor
  · intro h
    obtain ⟨p, hp⟩ := Option.isSome_iff_exists.1 h
    exact scope_eq_of_parse_key hr hp
  · rintro rfl
    rw [parse_key hr]; rfl

/-- **A key names a namespace and a process in it.** -/
theorem key_inj {scope scope' : String} {r q : Registrant} (hr : r.Legal) (hq : q.Legal)
    (h : key scope r = key scope' q) : scope = scope' ∧ r.self = q.self := by
  have hplace : place scope r.name r.endpoint = place scope' q.name q.endpoint := h
  obtain ⟨hscope, hname, hend⟩ :=
    place_inj hplace hr.slash_name hq.slash_name hr.slash_endpoint hq.slash_endpoint
  obtain ⟨haddress, hport⟩ := Endpoint.render_eq_iff.1 hend
  exact ⟨hscope, Registrant.self_eq_iff.2 ⟨hname, haddress, hport⟩⟩

end Layout

open Layout in
/-- **Namespaces are isolated.**  The keys of a namespace are exactly these texts.  The key of a process is
    read by a backend of its own namespace and by no other; what is read is its service and its endpoint,
    and from these the process is rebuilt as it is.  Two processes have one key only if they are one. -/
theorem namespaces_isolated :
    (∀ scope k n e : String, parse scope k = some (n, e) ↔
      k = "discovery/" ++ scope ++ "/" ++ n ++ "/" ++ e ∧
        n ≠ "" ∧ '/' ∉ n.toList ∧ e ≠ "" ∧ '/' ∉ e.toList) ∧
    ∀ c d : Settings, d.self.Legal →
      ((parse c.scope d.key).isSome = true ↔ c.scope = d.scope) ∧
      (∀ n e, parse c.scope d.key = some (n, e) →
        n = d.self.name ∧ e = d.self.endpoint ∧ Instance.ofEndpoint n e = some d.self.self) ∧
      (c.self.Legal → c.key = d.key →
        c.scope = d.scope ∧ c.self.name = d.self.name ∧ c.self.address = d.self.address ∧
          c.self.port = d.self.port) := by
  refine ⟨fun scope k n e => parse_eq_some_iff, fun c d hd => ⟨?_, ?_, ?_⟩⟩
  · exact isSome_parse_key_iff hd
  · intro n e h
    have hscope : c.scope = d.scope := scope_eq_of_parse_key hd h
    rw [hscope] at h
    obtain ⟨rfl, rfl⟩ := eq_of_parse_key h
    exact ⟨rfl, rfl, d.self.self.ofEndpoint_endpoint hd.address⟩
  · intro hc h
    obtain ⟨hscope, hself⟩ := key_inj hc hd h
    exact ⟨hscope, Registrant.self_eq_iff.1 hself⟩

/-- A process at an address with colons, in the namespace `a/b`, which lies inside the namespace `a`. -/
def Settings.nested : Settings := .ofConfig ⟨"order", "fe80::1", 9000, .grpc⟩ { scope := some "a/b" }

/-- The inner namespace reads the key of the process, and the outer one does not. -/
theorem namespaces_isolated_nested :
    Settings.nested.self.Legal ∧ Settings.nested.key = "discovery/a/b/order/fe80::1:9000" ∧
      (Layout.parse Settings.nested.scope Settings.nested.key).isSome = true ∧
      ¬ (Layout.parse "a" Settings.nested.key).isSome = true := by
  have hlegal : Settings.nested.self.Legal := by constructor <;> decide +kernel
  have hread (c : Settings) := (namespaces_isolated.2 c .nested hlegal).1
  refine ⟨hlegal, by decide +kernel, (hread .nested).2 rfl, fun h => ?_⟩
  have hscope := (hread { Settings.nested with scope := "a" }).1 h
  revert hscope
  decide +kernel

end Leased

end Muster
