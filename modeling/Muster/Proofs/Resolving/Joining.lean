/-
  What a target means that is put together from a backend's URL and the name of a service.

  The URL and the name are written one after the other and the text is read as any other, so what stood between them is
  forgotten: the scheme is what comes before the first "://", and the service the last piece behind the authority that
  has any characters, whoever brought it along.

  (1) `service?` — the service in what follows a scheme, and `service?_append`: the name has the last word, the path of
      the URL the first;
  (2) `ofSchemeUrl_eq` — what comes of a URL that is more than slashes, `ofSchemeUrl_slash` and `ofSchemeUrl_bare` — of
      one that is not;
  (3) `Borrows`, `Swallows` — the two ways in which it goes wrong: a name without characters takes a piece of the URL
      for the service, and slashes for a URL are taken off together with those of the "://" behind the scheme;
  (4) `target_asked_iff` — it goes right EXACTLY if neither is the case.

  THE CRUX: slashes at the end of a text leave its last piece alone, so that the last piece of the whole is that of the
  name, or, if the name is nothing but slashes, that of the path of the URL.  A URL with a scheme of its own HAS a path.
-/
import Muster.Config.Discovery
import Muster.Proofs.Resolving.Targets

namespace Muster

namespace Target

/-! ## The last piece -/

/-- **The last piece of a text that has any characters**, between slashes. -/
def IsLastPiece (s p : List Char) : Prop :=
  p ≠ [] ∧ ∃ front back, s.splitOn '/' = front ++ p :: back ∧ ∀ q ∈ back, q = []

/-- **Characters behind a slash.** -/
def HasPath (s : List Char) : Prop := ∃ a q, s = a ++ '/' :: q ∧ ∃ c ∈ q, c ≠ '/'

section Pieces

variable {s a b p : List Char}

theorem lastSegment?_eq_some_iff : lastSegment? s = some p ↔ IsLastPiece s p := by
  rw [lastSegment?, Text.pieces_eq_splitOn]
  exact find?_reverse_eq_some_iff

/-- Nothing but slashes has no piece with characters. -/
theorem lastSegment?_eq_none_iff : lastSegment? s = none ↔ ∀ c ∈ s, c = '/' := by
  rw [lastSegment?, Text.pieces_eq_splitOn, List.find?_eq_none]
  simp only [List.mem_reverse, bne_iff_ne, ne_eq, not_not]
  induction s with
  | nil => simp
  | cons x s ih =>
    rw [List.splitOn_cons_eq_if_modifyHead, List.forall_mem_cons]
    by_cases hx : x = '/'
    · rw [if_pos (beq_iff_eq.2 hx), List.forall_mem_cons, ih]
      simp [hx]
    · obtain ⟨q, qs, hqs⟩ := List.exists_cons_of_ne_nil (List.splitOn_ne_nil '/' s)
      rw [if_neg (by simpa using hx), hqs, List.modifyHead_cons, List.forall_mem_cons]
      simp [hx]

/-- The last piece of two texts with a slash between them is that of the second, if it has one. -/
theorem lastSegment?_append (a b : List Char) :
    lastSegment? (a ++ '/' :: b) = (lastSegment? b).or (lastSegment? a) := by
  simp only [lastSegment?, Text.pieces_eq_splitOn]
  rw [Text.splitOn_append, List.reverse_append, List.find?_append]

theorem lastSegment?_cons_slash (b : List Char) : lastSegment? ('/' :: b) = lastSegment? b := by
  have h := lastSegment?_append [] b
  rwa [List.nil_append, show lastSegment? [] = none from rfl, Option.or_none] at h

end Pieces

/-! ## The service behind a scheme -/

/-- **The service in what follows a scheme**: the last piece behind the authority that has any characters. -/
def service? (rest : List Char) : Option (List Char) := lastSegment? (splitPath rest).2

section Service

variable {s a b q p rest : List Char}

theorem splitPath_append (h : '/' ∉ a) : splitPath (a ++ '/' :: q) = (a, '/' :: q) := by
  have hall : ∀ c ∈ a, (c != '/') = true := fun c hc => bne_iff_ne.2 fun he => h (he ▸ hc)
  rw [splitPath, List.takeWhile_append_of_pos hall, List.dropWhile_append_of_pos hall]
  simp

theorem splitPath_of_not_mem (h : '/' ∉ a) : splitPath a = (a, []) := by
  have hall : ∀ c ∈ a, (c != '/') = true := fun c hc => bne_iff_ne.2 fun he => h (he ▸ hc)
  rw [splitPath, List.takeWhile_eq_self_iff.2 hall, List.dropWhile_eq_nil_iff.2 hall]

/-- Where there is a slash, the service is the last piece behind the first one. -/
theorem service?_of_first (h : '/' ∉ a) : service? (a ++ '/' :: q) = lastSegment? q := by
  rw [service?, splitPath_append h, lastSegment?_cons_slash]

theorem service?_of_not_mem (h : '/' ∉ a) : service? a = none := by
  rw [service?, splitPath_of_not_mem h]
  rfl

/-- **What comes behind a slash has the last word**, and what comes before it the first. -/
theorem service?_append (s q : List Char) : service? (s ++ '/' :: q) = (lastSegment? q).or (service? s) := by
  by_cases h : '/' ∈ s
  · obtain ⟨a, b, rfl, ha⟩ := List.eq_append_cons_of_mem h
    rw [List.append_assoc, List.cons_append, service?_of_first ha, service?_of_first ha, lastSegment?_append]
  · rw [service?_of_first h, service?_of_not_mem h, Option.or_none]

/-- The service is the last piece of the whole, if there is one. -/
theorem lastSegment?_of_service? (h : service? s = some p) : lastSegment? s = some p := by
  by_cases hs : '/' ∈ s
  · obtain ⟨a, q, rfl, ha⟩ := List.eq_append_cons_of_mem hs
    rw [service?_of_first ha] at h
    rw [lastSegment?_append, h, Option.some_or]
  · rw [service?_of_not_mem hs] at h
    cases h

/-- There is a service EXACTLY if there are characters behind a slash. -/
theorem isSome_service?_iff : (service? s).isSome = true ↔ HasPath s := by
  rw [Option.isSome_iff_ne_none]
  constructor
  · intro h
    by_cases hs : '/' ∈ s
    · obtain ⟨a, q, rfl, ha⟩ := List.eq_append_cons_of_mem hs
      rw [service?_of_first ha, Ne, lastSegment?_eq_none_iff] at h
      exact ⟨a, q, rfl, by simpa using h⟩
    · exact absurd (service?_of_not_mem hs) h
  · rintro ⟨a, q, rfl, c, hc, hne⟩
    rw [service?_append, Ne, Option.or_eq_none_iff, lastSegment?_eq_none_iff]
    exact fun hnone => hne (hnone.1 c hc)

/-- Slashes at the end change nothing. -/
theorem service?_trimEnd (s : List Char) : service? (Text.trimEnd (· == '/') s) = service? s := by
  obtain ⟨tail, hs, htail⟩ := Text.exists_append_trimEnd (· == '/') s
  have hwhole : service? s = service? (Text.trimEnd (· == '/') s ++ tail) := congrArg service? hs
  rw [hwhole]
  cases tail with
  | nil => rw [List.append_nil]
  | cons c tail =>
    obtain ⟨hc, hrest⟩ := List.forall_mem_cons.1 htail
    obtain rfl : c = '/' := beq_iff_eq.1 hc
    have hnone : lastSegment? tail = none := lastSegment?_eq_none_iff.2 fun d hd => beq_iff_eq.1 (hrest d hd)
    rw [service?_append, hnone, Option.none_or]

/-- **What a text is read as**, once it is cut behind its scheme. -/
theorem parse_of_cut {t : String} {scheme : List Char}
    (hcut : Text.cutFirst "://".toList t.toList = some (scheme, rest)) (hne : scheme ≠ []) :
    parse t = (service? rest).elim (.error .missingService) fun service =>
      .ok ⟨String.ofList scheme, String.ofList (splitPath rest).1, String.ofList service⟩ := by
  rw [parse_eq, hcut]
  dsimp only
  rw [if_neg hne, service?]
  cases lastSegment? (splitPath rest).2 <;> rfl

end Service

/-! ## The URL of a backend -/

/-- **A service without a name takes one from the URL**: the name is nothing but slashes, and the URL has a path. -/
def Borrows (url service : String) : Prop := (∀ c ∈ service.toList, c = '/') ∧ HasPath url.toList

/-- **The scheme swallows a part of the name**: the URL is nothing but slashes, which are taken off with those of the
    "://" behind the scheme, and a "://" in the name stands in for it. -/
def Swallows (url service : String) : Prop :=
  (∀ c ∈ url.toList, c = '/') ∧ (∀ rest, service.toList ≠ '/' :: rest) ∧
    ∃ p rest, service.toList = p ++ "://".toList ++ rest ∧ HasPath rest

/-- **The target that was asked for**: the scheme of the backend, and the last piece of the name. -/
def Asked (b : Config.Backend) (service : String) (t : Target) : Prop :=
  t.scheme = b.text ∧ IsLastPiece service.toList t.service.toList

section Joining

variable {b : Config.Backend} {url service : String} {t : Target}

theorem text_ne_nil (b : Config.Backend) : b.text.toList ≠ [] := by
  cases b <;> decide

theorem plain_text (b : Config.Backend) : ¬ "://".toList <:+: b.text.toList := by
  cases b <;> decide

/-- A URL that is more than slashes keeps its place. -/
theorem toList_joined (hurl : ∃ c ∈ url.toList, c ≠ '/') :
    (joined (b.schemeUrl url) service).toList =
      b.text.toList ++ "://".toList ++ (Text.trimEnd (· == '/') url.toList ++ '/' :: service.toList) := by
  have hne : Text.trimEnd (· == '/') url.toList ≠ [] := by
    rw [Ne, Text.trimEnd_eq_nil_iff]
    simpa using hurl
  have htrim := Text.trimEnd_append (· == '/') (b.text.toList ++ "://".toList) url.toList
  rw [if_neg hne] at htrim
  rw [joined, String.toList_ofList, Config.Backend.schemeUrl, String.toList_append, String.toList_append, htrim]
  simp

/-- Slashes for a URL go, and two of the three characters behind the scheme with them. -/
theorem toList_joined_slashes (hurl : ∀ c ∈ url.toList, c = '/') :
    (joined (b.schemeUrl url) service).toList = b.text.toList ++ ':' :: '/' :: service.toList := by
  have hnil : Text.trimEnd (· == '/') url.toList = [] := Text.trimEnd_eq_nil_iff.2 fun c hc => beq_iff_eq.2 (hurl c hc)
  have hmark : Text.trimEnd (· == '/') (b.text.toList ++ "://".toList) = b.text.toList ++ [':'] := by
    cases b <;> decide
  have htrim := Text.trimEnd_append (· == '/') (b.text.toList ++ "://".toList) url.toList
  rw [if_pos hnil, hmark] at htrim
  rw [joined, String.toList_ofList, Config.Backend.schemeUrl, String.toList_append, String.toList_append, htrim]
  simp

/-- **What comes of a URL that is more than slashes**: the last piece of the name, or else that of the path of the
    URL. -/
theorem ofSchemeUrl_eq (b : Config.Backend) (service : String) (hurl : ∃ c ∈ url.toList, c ≠ '/') : ∃ authority,
    ofSchemeUrl (b.schemeUrl url) service =
      ((lastSegment? service.toList).or (service? url.toList)).elim (.error .missingService) fun p =>
        .ok ⟨b.text, authority, String.ofList p⟩ := by
  have hcut := Text.cutFirst_append (b := Text.trimEnd (· == '/') url.toList ++ '/' :: service.toList) (plain_text b)
  rw [← toList_joined hurl] at hcut
  have hparse := parse_of_cut hcut (text_ne_nil b)
  rw [service?_append, service?_trimEnd, String.ofList_toList] at hparse
  exact ⟨_, hparse⟩

/-- A slash at the beginning of the name stands in for one that was taken off. -/
theorem ofSchemeUrl_slash {rest : List Char} (hurl : ∀ c ∈ url.toList, c = '/') (hs : service.toList = '/' :: rest) :
    ∃ authority, ofSchemeUrl (b.schemeUrl url) service =
      (service? rest).elim (.error .missingService) fun p => .ok ⟨b.text, authority, String.ofList p⟩ := by
  have hcut := Text.cutFirst_append (b := rest) (plain_text b)
  have htext : (joined (b.schemeUrl url) service).toList = b.text.toList ++ "://".toList ++ rest := by
    rw [toList_joined_slashes hurl, hs]
    simp
  rw [← htext] at hcut
  have hparse := parse_of_cut hcut (text_ne_nil b)
  rw [String.ofList_toList] at hparse
  exact ⟨_, hparse⟩

/-- **Otherwise the text is cut within the name**, if anywhere. -/
theorem ofSchemeUrl_bare (hurl : ∀ c ∈ url.toList, c = '/') (hs : ∀ rest, service.toList ≠ '/' :: rest) :
    ofSchemeUrl (b.schemeUrl url) service =
      (Text.cutFirst "://".toList service.toList).elim (.error .missingScheme) fun cut =>
        (service? cut.2).elim (.error .missingService) fun q =>
          .ok ⟨String.ofList (b.text.toList ++ ':' :: '/' :: cut.1), String.ofList (splitPath cut.2).1,
            String.ofList q⟩ := by
  have hcut : Text.cutFirst "://".toList (b.text.toList ++ ':' :: '/' :: service.toList) =
      (Text.cutFirst "://".toList service.toList).map fun q => (b.text.toList ++ ':' :: '/' :: q.1, q.2) := by
    cases hcs : service.toList with
    | nil => cases b <;> rfl
    | cons c cs =>
      have hc : '/' ≠ c := fun he => hs cs (by rw [hcs, he])
      cases b <;> simp [Config.Backend.text, Text.cutFirst, Text.dropLead, hc, Option.map_map, Function.comp_def]
  rw [← toList_joined_slashes hurl] at hcut
  cases hservice : Text.cutFirst "://".toList service.toList with
  | none =>
    rw [hservice, Option.map_none] at hcut
    rw [ofSchemeUrl, parse_eq, hcut]
    rfl
  | some q =>
    rw [hservice, Option.map_some] at hcut
    exact parse_of_cut hcut (by simp)

end Joining

/-! ## When it goes right -/

section Outcomes

variable {b : Config.Backend} {url service : String} {t : Target}

theorem HasPath.exists_ne {s : List Char} (h : HasPath s) : ∃ c ∈ s, c ≠ '/' := by
  obtain ⟨a, q, rfl, c, hc, hne⟩ := h
  exact ⟨c, List.mem_append_right _ (List.mem_cons_of_mem _ hc), hne⟩

/-- A path behind a "://" is behind the first one, too. -/
theorem HasPath.of_cut {s p rest a b : List Char} (h : HasPath rest) (hs : s = p ++ "://".toList ++ rest)
    (hcut : Text.cutFirst "://".toList s = some (a, b)) : HasPath b := by
  obtain ⟨hsplit, hfirst⟩ := Text.cutFirst_eq_some_iff.1 hcut
  have hle : a.length ≤ p.length := hfirst p rest hs
  obtain ⟨d, hd, hb⟩ | ⟨d, hd, hb⟩ := List.append_eq_append_iff.1 (hs.symm.trans hsplit)
  · -- then the first would end behind the other
    have hlength := congrArg List.length hd
    simp only [List.length_append] at hlength
    obtain rfl : d = [] := List.length_eq_zero_iff.1 (by omega)
    rw [List.nil_append] at hb
    exact hb ▸ h
  · obtain ⟨x, q, rfl, hq⟩ := h
    exact ⟨d ++ x, q, by rw [hb, List.append_assoc], hq⟩

theorem elim_eq_ok_iff {α : Type} {o : Option α} {r : Refusal} {f : α → Target} :
    (o.elim (.error r) fun p => .ok (f p)) = Except.ok t ↔ ∃ p, o = some p ∧ f p = t := by
  cases o <;> simp

/-- A name with characters that is not preceded by a URL, nor by a slash of its own, is swallowed in part. -/
theorem swallows_of_bare (hurl : ∀ c ∈ url.toList, c = '/') (hs : ∀ rest, service.toList ≠ '/' :: rest)
    (h : ofSchemeUrl (b.schemeUrl url) service = .ok t) : Swallows url service ∧ t.scheme ≠ b.text := by
  have heq := (ofSchemeUrl_bare hurl hs).symm.trans h
  cases hcut : Text.cutFirst "://".toList service.toList with
  | none => rw [hcut] at heq; cases heq
  | some cut =>
    rw [hcut, Option.elim_some] at heq
    obtain ⟨p, hp, rfl⟩ := elim_eq_ok_iff.1 heq
    have hpath : HasPath cut.2 := isSome_service?_iff.1 (by rw [hp]; rfl)
    refine ⟨⟨hurl, hs, cut.1, cut.2, Text.append_of_cutFirst hcut, hpath⟩, fun he => ?_⟩
    have hlist := congrArg String.toList he
    simp at hlist

/-- **Whatever target comes of a URL and a name**, it is the one that was asked for, or names a piece of the URL, or has
    swallowed a part of the name. -/
theorem outcome (h : ofSchemeUrl (b.schemeUrl url) service = .ok t) :
    t.Asked b service ∨
      (Borrows url service ∧ t.scheme = b.text ∧ IsLastPiece url.toList t.service.toList) ∨
      Swallows url service ∧ t.scheme ≠ b.text := by
  have hasked {p : List Char} {authority : String} (hp : lastSegment? service.toList = some p) :
      Asked b service ⟨b.text, authority, String.ofList p⟩ :=
    ⟨rfl, by simpa using lastSegment?_eq_some_iff.1 hp⟩
  by_cases hurl : ∃ c ∈ url.toList, c ≠ '/'
  · obtain ⟨authority, heq⟩ := ofSchemeUrl_eq b service hurl
    obtain ⟨p, hp, rfl⟩ := elim_eq_ok_iff.1 (heq.symm.trans h)
    rcases Option.or_eq_some_iff.1 hp with hname | ⟨hname, hservice⟩
    · exact .inl (hasked hname)
    · -- the name says nothing, so the URL has the word
      have hpath : HasPath url.toList := isSome_service?_iff.1 (by rw [hservice]; rfl)
      refine .inr (.inl ⟨⟨lastSegment?_eq_none_iff.1 hname, hpath⟩, rfl, ?_⟩)
      simpa using lastSegment?_eq_some_iff.1 (lastSegment?_of_service? hservice)
  · have hslashes : ∀ c ∈ url.toList, c = '/' := by simpa using hurl
    by_cases hs : ∃ rest, service.toList = '/' :: rest
    · obtain ⟨rest, hs⟩ := hs
      obtain ⟨authority, heq⟩ := ofSchemeUrl_slash (b := b) hslashes hs
      obtain ⟨p, hp, rfl⟩ := elim_eq_ok_iff.1 (heq.symm.trans h)
      refine .inl (hasked ?_)
      rw [hs, lastSegment?_cons_slash]
      exact lastSegment?_of_service? hp
    · exact .inr (.inr (swallows_of_bare hslashes (fun rest he => hs ⟨rest, he⟩) h))

/-- A service without a name takes one from the URL, -/
theorem Borrows.exists_ok (h : Borrows url service) (b : Config.Backend) :
    ∃ t, ofSchemeUrl (b.schemeUrl url) service = .ok t ∧ t.scheme = b.text := by
  obtain ⟨hname, hpath⟩ := h
  obtain ⟨authority, heq⟩ := ofSchemeUrl_eq b service hpath.exists_ne
  obtain ⟨p, hp⟩ := Option.isSome_iff_exists.1 (isSome_service?_iff.2 hpath)
  rw [lastSegment?_eq_none_iff.2 hname, Option.none_or, hp] at heq
  exact ⟨_, heq, rfl⟩

/-- a scheme swallows a part of the name, -/
theorem Swallows.exists_ok (h : Swallows url service) (b : Config.Backend) :
    ∃ t, ofSchemeUrl (b.schemeUrl url) service = .ok t ∧ t.scheme ≠ b.text := by
  obtain ⟨hurl, hs, p, rest, htext, hpath⟩ := h
  have heq := ofSchemeUrl_bare (b := b) hurl hs
  cases hcut : Text.cutFirst "://".toList service.toList with
  | none => exact absurd ⟨p, rest, htext.symm⟩ (Text.cutFirst_eq_none_iff.1 hcut)
  | some cut =>
    obtain ⟨name, hname⟩ := Option.isSome_iff_exists.1 (isSome_service?_iff.2 (hpath.of_cut htext hcut))
    rw [hcut, Option.elim_some, hname, Option.elim_some] at heq
    exact ⟨_, heq, (swallows_of_bare hurl hs heq).2⟩

/-- and a name with characters is asked for if the URL has any, or the name brings its own slash. -/
theorem exists_asked_iff : (∃ t, ofSchemeUrl (b.schemeUrl url) service = .ok t ∧ t.Asked b service) ↔
    (∃ c ∈ service.toList, c ≠ '/') ∧
      ((∃ c ∈ url.toList, c ≠ '/') ∨ ∃ rest, service.toList = '/' :: rest ∧ HasPath rest) := by
  constructor
  · rintro ⟨t, ht, hscheme, hpiece⟩
    refine ⟨?_, Classical.or_iff_not_imp_left.2 fun hno => ?_⟩
    · by_contra hno
      have hlast := lastSegment?_eq_some_iff.2 hpiece
      rw [lastSegment?_eq_none_iff.2 (by simpa using hno)] at hlast
      cases hlast
    · have hslashes : ∀ c ∈ url.toList, c = '/' := by simpa using hno
      by_cases hs : ∃ rest, service.toList = '/' :: rest
      · obtain ⟨rest, hs⟩ := hs
        obtain ⟨authority, heq⟩ := ofSchemeUrl_slash (b := b) hslashes hs
        obtain ⟨p, hp, -⟩ := elim_eq_ok_iff.1 (heq.symm.trans ht)
        exact ⟨rest, hs, isSome_service?_iff.1 (by rw [hp]; rfl)⟩
      · exact absurd hscheme (swallows_of_bare hslashes (fun rest he => hs ⟨rest, he⟩) ht).2
  · rintro ⟨⟨c, hc, hne⟩, hslash⟩
    have hname : ∃ p, lastSegment? service.toList = some p := by
      rw [← Option.isSome_iff_exists, Option.isSome_iff_ne_none, Ne, lastSegment?_eq_none_iff]
      exact fun hall => hne (hall c hc)
    obtain ⟨p, hp⟩ := hname
    have hpiece : IsLastPiece service.toList (String.ofList p).toList := by
      simpa using lastSegment?_eq_some_iff.1 hp
    by_cases hurl : ∃ c ∈ url.toList, c ≠ '/'
    · obtain ⟨authority, heq⟩ := ofSchemeUrl_eq b service hurl
      rw [hp, Option.some_or, Option.elim_some] at heq
      exact ⟨_, heq, rfl, hpiece⟩
    · obtain ⟨rest, hs, hpath⟩ := hslash.resolve_left hurl
      obtain ⟨authority, heq⟩ := ofSchemeUrl_slash (b := b) (by simpa using hurl) hs
      obtain ⟨q, hq⟩ := Option.isSome_iff_exists.1 (isSome_service?_iff.2 hpath)
      rw [hs, lastSegment?_cons_slash, lastSegment?_of_service? hq] at hp
      obtain rfl := Option.some.inj hp
      rw [hq, Option.elim_some] at heq
      exact ⟨_, heq, rfl, hpiece⟩

end Outcomes

/-! ## The configured backend -/

section Configured

open Config (Discovery)

/-- Slashes are no piece, so that what is taken from the URL is NOT the name's. -/
theorem Borrows.not_isLastPiece {url service : String} {p : List Char} (h : Borrows url service) :
    ¬ IsLastPiece service.toList p := by
  intro hp
  have hnone := lastSegment?_eq_none_iff.2 h.1
  rw [lastSegment?_eq_some_iff.2 hp] at hnone
  cases hnone

/-- **A target of the configured URL and the name of a service**, whatever the two are:

    every target is the one that was asked for EXACTLY if the name does not borrow from the URL and the scheme swallows
    nothing of it;
    a piece of the URL stands for the service EXACTLY if the name borrows it;
    the scheme is not that of the backend EXACTLY if it has swallowed a part of the name;
    and a target that was asked for is there EXACTLY if the name has characters, and the URL has some, too, or the name
    comes with a slash and a path of its own. -/
theorem target_asked_iff (d : Discovery) (service : String) :
    ((∀ t, ofSchemeUrl d.schemeUrl service = .ok t → t.Asked d.backend service) ↔
      ¬ Borrows d.urlOrDefault service ∧ ¬ Swallows d.urlOrDefault service) ∧
    ((∃ t, ofSchemeUrl d.schemeUrl service = .ok t ∧ t.scheme = d.backend.text ∧
        ¬ IsLastPiece service.toList t.service.toList ∧ IsLastPiece d.urlOrDefault.toList t.service.toList) ↔
      Borrows d.urlOrDefault service) ∧
    ((∃ t, ofSchemeUrl d.schemeUrl service = .ok t ∧ t.scheme ≠ d.backend.text) ↔ Swallows d.urlOrDefault service) ∧
    ((∃ t, ofSchemeUrl d.schemeUrl service = .ok t ∧ t.Asked d.backend service) ↔
      (∃ c ∈ service.toList, c ≠ '/') ∧
        ((∃ c ∈ d.urlOrDefault.toList, c ≠ '/') ∨ ∃ rest, service.toList = '/' :: rest ∧ HasPath rest)) := by
  rw [Discovery.schemeUrl]
  refine ⟨⟨fun hall => ⟨fun hborrows => ?_, fun hswallows => ?_⟩, ?_⟩, ⟨?_, fun hborrows => ?_⟩,
    ⟨?_, fun hswallows => hswallows.exists_ok d.backend⟩, exists_asked_iff⟩
  · obtain ⟨t, ht, -⟩ := hborrows.exists_ok d.backend
    exact hborrows.not_isLastPiece (hall t ht).2
  · obtain ⟨t, ht, hne⟩ := hswallows.exists_ok d.backend
    exact hne (hall t ht).1
  · rintro ⟨hborrows, hswallows⟩ t ht
    rcases outcome ht with hasked | ⟨h, -⟩ | ⟨h, -⟩
    · exact hasked
    · exact absurd h hborrows
    · exact absurd h hswallows
  · rintro ⟨t, ht, hscheme, hnot, -⟩
    rcases outcome ht with hasked | ⟨h, -⟩ | ⟨-, hne⟩
    · exact absurd hasked.2 hnot
    · exact h
    · exact absurd hscheme hne
  · obtain ⟨t, ht, hscheme⟩ := hborrows.exists_ok d.backend
    rcases outcome ht with hasked | ⟨-, -, hpiece⟩ | ⟨-, hne⟩
    · exact absurd hasked.2 hborrows.not_isLastPiece
    · exact ⟨t, ht, hscheme, hborrows.not_isLastPiece, hpiece⟩
    · exact absurd hscheme hne
  · rintro ⟨t, ht, hne⟩
    rcases outcome ht with hasked | ⟨-, hscheme, -⟩ | ⟨h, -⟩
    · exact absurd hasked.1 hne
    · exact absurd hscheme hne
    · exact h

/-- **The port of the URL is taken for a service**: an endpoint with a scheme of its own, and a name that is empty. -/
theorem host_asked_for : ¬ ∀ (d : Discovery) (service : String) (t : Target),
    ofSchemeUrl d.schemeUrl service = .ok t → t.Asked d.backend service := by
  intro hall
  let d : Discovery := { url := some "http://127.0.0.1:2379" }
  have htarget : ofSchemeUrl d.schemeUrl "" = .ok ⟨"etcd", "http:", "127.0.0.1:2379"⟩ := by
    decide +kernel
  obtain ⟨-, hpiece⟩ := hall _ _ _ htarget
  have hname := lastSegment?_eq_some_iff.2 hpiece
  cases hname

end Configured

end Target

end Muster
