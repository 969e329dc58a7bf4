/-
  Can a configured process be discovered?

  A process is DISCOVERABLE if its key says its service and its endpoint, and the process is rebuilt from
  the two; a key that does not is passed over by every reader of its namespace.  A configuration is
  validated before anybody registers: the name of the application must have characters that are not
  blank, and no slash, since it is a segment of the key.

  The address is a segment of the key too, and nothing is asked of it.

  (1) `discoverable_iff` — a process is discoverable EXACTLY when its name and its address have
      characters, and a slash in neither;
  (2) `legal_configured_iff` — validation sees to the name, and a configured address that is not blank has
      characters once it is trimmed; what is left is the slash in the address, which trimming keeps;
  (3) `configured_discoverable_iff` — so a process whose configuration is accepted is discoverable EXACTLY
      when no slash is in its configured address, and is passed over by every reader otherwise.
-/
import Mathlib.Data.List.TakeWhile
import Muster.Config.Whole
import Muster.Leased.Basic
import Muster.Proofs.Leased.Layout

namespace Muster

/-! ## Trimming -/

namespace Text

/-- What is dropped from the front is all of one kind. -/
theorem mem_dropWhile_iff {p : Char → Bool} {c : Char} (h : p c = false) {l : List Char} :
    c ∈ l.dropWhile p ↔ c ∈ l := by
  have hfront : c ∉ l.takeWhile p := fun hc => by
    rw [List.mem_takeWhile_imp hc] at h
    cases h
  have hsplit : c ∈ l ↔ c ∈ l.takeWhile p ∨ c ∈ l.dropWhile p := by
    rw [← List.mem_append, List.takeWhile_append_dropWhile]
  rw [hsplit, or_iff_right hfront]

/-- **Trimming keeps what is not blank.** -/
theorem mem_trimmed_iff {c : Char} (h : isBlank c = false) {s : String} :
    c ∈ (trimmed s).toList ↔ c ∈ s.toList := by
  rw [trimmed, String.toList_ofList, trim, trimEnd, List.mem_reverse, mem_dropWhile_iff h,
    List.mem_reverse, mem_dropWhile_iff h]

theorem nonBlank?_eq_some_iff {s t : String} :
    nonBlank? s = some t ↔ t = trimmed s ∧ t ≠ "" := by
  unfold nonBlank?
  by_cases h : trimmed s = ""
  · simp [h]
  · simp only [h, if_false, Option.some.injEq]
    exact ⟨fun he => he ▸ ⟨rfl, h⟩, fun he => he.1.symm⟩

/-- A text that is not blank has characters. -/
theorem ne_empty_of_nonBlank {s : String} (h : (nonBlank? s).isSome = true) : s ≠ "" := by
  rintro rfl
  obtain ⟨t, ht⟩ := Option.isSome_iff_exists.1 h
  obtain ⟨rfl, hne⟩ := nonBlank?_eq_some_iff.1 ht
  exact hne (by decide +kernel)

end Text

/-! ## Validation -/

namespace Config

/-- **The rules beyond types**, as they are meant. -/
theorem validate_eq_ok_iff {c : Config} :
    c.validate = .ok () ↔ (Text.nonBlank? c.application.name).isSome = true ∧
      '/' ∉ c.application.name.toList ∧ 0 < c.discovery.lease.ttlSecs := by
  unfold validate
  by_cases hname : (Text.nonBlank? c.application.name).isNone = true
  · simp [Option.isNone_iff_eq_none.1 hname]
  rw [if_neg hname]
  by_cases hslash : '/' ∈ c.application.name.toList
  · simp [hslash]
  rw [if_neg hslash]
  by_cases httl : c.discovery.lease.ttlSecs ≤ 0
  · simp [httl]
  · have hpos : 0 < c.discovery.lease.ttlSecs := by omega
    simpa [httl, hslash, hpos, Option.isSome_iff_ne_none] using hname

/-- A configuration that is read has been validated. -/
theorem validate_of_parse {text : String} {c : Config} (h : parse text = .ok c) :
    c.validate = .ok () := by
  unfold parse at h
  split at h
  · cases h
  · split at h
    · rename_i hvalid
      obtain rfl := Except.ok.inj h
      exact hvalid
    · cases h

section Address

variable {c : Application} {a : String}

/-- What is announced of an address that is not blank is what trimming leaves of it. -/
theorem address_configured (host : String) (configured : c.address = some a)
    (present : (Text.nonBlank? a).isSome = true) :
    (c.registrant host).address = Text.trimmed a ∧ Text.trimmed a ≠ "" := by
  obtain ⟨t, ht⟩ := Option.isSome_iff_exists.1 present
  obtain ⟨rfl, hne⟩ := Text.nonBlank?_eq_some_iff.1 ht
  exact ⟨by simp [Application.registrant, Application.publicAddress, configured, ht], hne⟩

/-- A slash in it is announced. -/
theorem slash_configured_iff (host : String) (configured : c.address = some a)
    (present : (Text.nonBlank? a).isSome = true) :
    '/' ∈ (c.registrant host).address.toList ↔ '/' ∈ a.toList := by
  rw [(address_configured host configured present).1, Text.mem_trimmed_iff (by decide)]

end Address

/-- **A process with a valid configuration has a legal name and address EXACTLY when no slash is in its
    configured address**, provided that it is not blank. -/
theorem legal_configured_iff {c : Config} (valid : c.validate = .ok ()) (host : String) {a : String}
    (configured : c.application.address = some a) (present : (Text.nonBlank? a).isSome = true) :
    (c.application.registrant host).Legal ↔ '/' ∉ a.toList := by
  obtain ⟨hname, hslash, -⟩ := validate_eq_ok_iff.1 valid
  obtain ⟨haddress, hne⟩ := address_configured host configured present
  rw [← slash_configured_iff host configured present]
  exact ⟨(·.slash_address), fun hno =>
    ⟨Text.ne_empty_of_nonBlank hname, by rwa [haddress], hslash, hno⟩⟩

end Config

/-! ## Processes that can be discovered -/

namespace Leased

/-- **A process is discoverable**: its key says its service and its endpoint, and they give the process
    back. -/
structure Settings.Discoverable (c : Settings) : Prop where
  key : Layout.parse c.scope c.key = some (c.self.name, c.self.endpoint)
  rebuilt : Instance.ofEndpoint c.self.name c.self.endpoint = some c.self.self

/-- **A process is passed over**: whatever stands under its key, and when it is removed, its readers
    ignore it. -/
structure Settings.PassedOver (c : Settings) : Prop where
  put : ∀ value, findPut c.scope c.key value = .foreign
  delete : findDelete c.scope c.key = .foreign

namespace Settings

variable {c : Settings}

/-- **A process is discoverable EXACTLY when its name and address are legal.** -/
theorem discoverable_iff : c.Discoverable ↔ c.self.Legal := by
  constructor
  · rintro ⟨hkey, hself⟩
    obtain ⟨-, hname, hslash, -, hend⟩ := Layout.parse_eq_some_iff.1 hkey
    refine ⟨hname, fun hempty => ?_, hslash, fun hs => hend (Endpoint.slash_mem_render.2 hs)⟩
    -- an endpoint without an address gives nobody back
    rw [Instance.ofEndpoint, Registrant.endpoint, Endpoint.split_render, if_pos hempty] at hself
    cases hself
  · intro hlegal
    exact ⟨Layout.parse_key hlegal, c.self.self.ofEndpoint_endpoint hlegal.address⟩

/-- **A process with a slash in its address is passed over** -/
theorem passedOver_of_slash (h : '/' ∈ c.self.address.toList) : c.PassedOver := by
  have hparse : Layout.parse c.scope c.key = none := by
    rw [Option.eq_none_iff_forall_ne_some]
    rintro ⟨n, e⟩ hp
    obtain ⟨-, rfl⟩ := Layout.eq_of_parse_key hp
    obtain ⟨-, -, -, -, hend⟩ := Layout.parse_eq_some_iff.1 hp
    exact hend (Endpoint.slash_mem_render.2 h)
  exact ⟨fun value => by rw [findPut, hparse], by rw [findDelete, hparse]⟩

/-- — and no process that is discoverable is. -/
theorem Discoverable.not_passedOver (h : c.Discoverable) : ¬ c.PassedOver := by
  intro hover
  have hdelete := hover.delete
  simp only [findDelete, h.key, h.rebuilt] at hdelete
  cases hdelete

end Settings

/-- **A process whose configuration is accepted**, with an address that is not blank, **is discoverable
    EXACTLY when no slash is in the address**, and is passed over by every reader when one is. -/
theorem configured_discoverable_iff {text host a : String} {d : Config}
    (accepted : Config.parse text = .ok d) (configured : d.application.address = some a)
    (present : (Text.nonBlank? a).isSome = true) :
    let c := Settings.ofConfig (d.application.registrant host) d.discovery
    (c.Discoverable ↔ '/' ∉ a.toList) ∧ (c.PassedOver ↔ '/' ∈ a.toList) := by
  intro c
  have hdiscoverable : c.Discoverable ↔ '/' ∉ a.toList :=
    Settings.discoverable_iff.trans
      (Config.legal_configured_iff (Config.validate_of_parse accepted) host configured present)
  refine ⟨hdiscoverable, fun hover => ?_, fun hslash => ?_⟩
  · by_contra hno
    exact (hdiscoverable.2 hno).not_passedOver hover
  · exact Settings.passedOver_of_slash ((Config.slash_configured_iff host configured present).2 hslash)

/-- A configuration of a process at an address, with nothing else configured than must be. -/
def configText (address : String) : String :=
  "[application]\nname = \"order\"\nport = 9000\naddress = \"" ++ address ++ "\"\n"

/-- A process at an address with blanks around it is discoverable. -/
theorem configured_discoverable_trimmed :
    ∃ d, Config.parse (configText " 10.0.0.1 ") = .ok d ∧
      d.application.address = some " 10.0.0.1 " ∧
      (Settings.ofConfig (d.application.registrant "127.0.0.1") d.discovery).Discoverable := by
  have hparse : Config.parse (configText " 10.0.0.1 ") =
      .ok { application := ⟨"order", 9000, .grpc, some " 10.0.0.1 "⟩ } := by decide +kernel
  refine ⟨_, hparse, rfl, (configured_discoverable_iff hparse rfl ?_).1.2 ?_⟩
  · decide +kernel
  · decide +kernel

/-- **A process whose configuration is accepted is NOT discoverable**: its address holds a slash, the key
    is the one it registers under, and every reader passes it over. -/
theorem configured_passed_over :
    ∃ d, Config.parse (configText "10.0.0.1/24") = .ok d ∧
      let c := Settings.ofConfig (d.application.registrant "127.0.0.1") d.discovery
      c.key = "discovery/default/order/10.0.0.1/24:9000" ∧ ¬ c.Discoverable ∧ c.PassedOver := by
  have hparse : Config.parse (configText "10.0.0.1/24") =
      .ok { application := ⟨"order", 9000, .grpc, some "10.0.0.1/24"⟩ } := by decide +kernel
  refine ⟨_, hparse, by decide +kernel, fun hd => ?_, Settings.passedOver_of_slash ?_⟩
  · have hlegal := Settings.discoverable_iff.1 hd
    exact hlegal.slash_address (by decide +kernel)
  · decide +kernel

end Leased

end Muster
