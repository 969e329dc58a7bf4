/-
  Which texts are targets, and which targets survive being written.

  A target is cut at its first "://", and what follows at every slash: the first piece is the authority, and of the
  others the last that has any characters is the service.  All else is forgotten.

  (1) `Says` — how a text says a target;
  (2) `parse_eq_ok_iff` — what is read is what the text says, and `parse_eq_error_iff` — a text is refused EXACTLY for
      what it lacks;
  (3) `parse_render_iff` — a target survives being written EXACTLY if none of its parts is mistaken for another;
  (4) `targets_round_trip` — all of it; in particular whatever was read survives.

  THE CRUX (`Text.cutFirst_append`): no two occurrences of "://" overlap.  A scheme without one ends where it is cut
  off, though it end in a colon, or hold slashes.
-/
import Muster.Proofs.Cuts
import Muster.Resolver.Target

namespace Muster

namespace Target

/-! ## The grammar -/

/-- **How a text says a target**: the scheme, the FIRST "://", the authority, and pieces of which the service is the
    last that has any characters. -/
inductive Says (s : String) (t : Target) : Prop
  | intro (rest : List Char) (segments front back : List (List Char)) :
      t.scheme ≠ "" → s.toList = t.scheme.toList ++ "://".toList ++ rest →
      (∀ x y, s.toList = x ++ "://".toList ++ y → t.scheme.toList.length ≤ x.length) →
      rest.splitOn '/' = t.authority.toList :: segments →
      segments = front ++ t.service.toList :: back → t.service ≠ "" → (∀ p ∈ back, p = []) → Says s t

/-- **What a text lacks** that is no target. -/
def Lacks (s : String) : Refusal → Prop
  | .missingScheme => ¬ "://".toList <:+: s.toList
  | .emptyScheme => "://".toList <+: s.toList
  | .missingService => ∃ scheme rest, scheme ≠ [] ∧ s.toList = scheme ++ "://".toList ++ rest ∧
      (∀ x y, s.toList = x ++ "://".toList ++ y → scheme.length ≤ x.length) ∧
      ∀ p ∈ (rest.splitOn '/').tail, p = []

section Reading

variable {s : String} {t : Target} {scheme rest : List Char}

/-- **What follows the scheme in its pieces**: the authority, and those among which the service is looked for. -/
theorem splitOn_splitPath (rest : List Char) :
    ∃ segments, rest.splitOn '/' = (splitPath rest).1 :: segments ∧
      lastSegment? (splitPath rest).2 = segments.reverse.find? (· != []) := by
  have hfront : '/' ∉ rest.takeWhile (· != '/') := fun hmem => by
    simpa using List.mem_takeWhile_imp hmem
  have hsplit : rest.takeWhile (· != '/') ++ rest.dropWhile (· != '/') = rest :=
    List.takeWhile_append_dropWhile
  unfold splitPath lastSegment?
  rw [Text.pieces_eq_splitOn]
  cases hback : rest.dropWhile (· != '/') with
  | nil =>
    rw [hback, List.append_nil] at hsplit
    refine ⟨[], ?_, by simp⟩
    rw [hsplit] at hfront ⊢
    exact List.splitOn_eq_singleton hfront
  | cons c path =>
    obtain rfl : c = '/' := by
      have hstop := List.head_dropWhile_not (· != '/') (l := rest) (by rw [hback]; exact List.cons_ne_nil _ _)
      simpa [hback] using hstop
    refine ⟨path.splitOn '/', ?_, by simp [List.splitOn_cons_eq_if_modifyHead]⟩
    have hpieces := List.splitOn_append_cons_self_of_not_mem hfront path
    rwa [← hback, hsplit] at hpieces

/-- The last piece that has any characters. -/
theorem find?_reverse_eq_some_iff {segments : List (List Char)} {service : List Char} :
    segments.reverse.find? (· != []) = some service ↔
      service ≠ [] ∧ ∃ front back, segments = front ++ service :: back ∧ ∀ p ∈ back, p = [] := by
  rw [List.find?_eq_some_iff_append]
  refine and_congr (by simp) ⟨?_, ?_⟩
  · rintro ⟨back, front, hrev, hback⟩
    refine ⟨front.reverse, back.reverse, ?_, fun p hp => ?_⟩
    · rw [← List.reverse_inj, hrev]
      simp
    · simpa using hback p (List.mem_reverse.1 hp)
  · rintro ⟨front, back, rfl, hback⟩
    refine ⟨back.reverse, front.reverse, by simp, fun p hp => ?_⟩
    simpa using hback p (List.mem_reverse.1 hp)

/-- **A text is cut at its first "://"**; the scheme in front must have characters, and a piece behind. -/
theorem parse_eq (s : String) :
    parse s = match Text.cutFirst "://".toList s.toList with
      | none => .error .missingScheme
      | some (scheme, rest) =>
        if scheme = [] then .error .emptyScheme
        else match lastSegment? (splitPath rest).2 with
          | none => .error .missingService
          | some service =>
            .ok ⟨String.ofList scheme, String.ofList (splitPath rest).1, String.ofList service⟩ := by
  show parse s = match Text.cutFirst [':', '/', '/'] s.toList with | none => _ | some (scheme, rest) => _
  unfold parse
  cases Text.cutFirst [':', '/', '/'] s.toList with
  | none => rfl
  | some p =>
    obtain ⟨scheme, rest⟩ := p
    cases scheme <;> rfl

/-- What is read is what the text says, and a refusal is for what it lacks. -/
theorem parse_sound (s : String) :
    match parse s with
    | .ok t => Says s t
    | .error r => Lacks s r := by
  rw [parse_eq]
  cases hcut : Text.cutFirst "://".toList s.toList with
  | none => exact Text.cutFirst_eq_none_iff.1 hcut
  | some p =>
    obtain ⟨scheme, rest⟩ := p
    obtain ⟨htext, hfirst⟩ := Text.cutFirst_eq_some_iff.1 hcut
    obtain ⟨segments, hsegments, hlast⟩ := splitOn_splitPath rest
    dsimp only
    rw [hlast]
    by_cases hne : scheme = []
    · rw [if_pos hne]
      exact ⟨rest, by rw [htext, hne, List.nil_append]⟩
    · rw [if_neg hne]
      cases hfind : segments.reverse.find? (· != []) with
      | none =>
        refine ⟨scheme, rest, hne, htext, hfirst, fun q hq => ?_⟩
        rw [hsegments, List.tail_cons] at hq
        simpa using List.find?_eq_none.1 hfind q (List.mem_reverse.2 hq)
      | some service =>
        obtain ⟨hservice, front, back, hfront, hback⟩ := find?_reverse_eq_some_iff.1 hfind
        refine .intro rest segments front back ?_ ?_ ?_ ?_ ?_ ?_ hback
        · simpa using hne
        · simpa using htext
        · simpa using hfirst
        · simpa using hsegments
        · simpa using hfront
        · simpa using hservice

/-- A text says ONE target, -/
theorem Says.parse (h : Says s t) : parse s = .ok t := by
  obtain ⟨rest, segments, front, back, hscheme, htext, hfirst, hpieces, hfront, hservice, hback⟩ := h
  obtain ⟨_, hsegments, hlast⟩ := splitOn_splitPath rest
  rw [hpieces] at hsegments
  obtain ⟨hauthority, rfl⟩ := List.cons_eq_cons.1 hsegments
  have hfind := find?_reverse_eq_some_iff.2 ⟨by simpa using hservice, front, back, hfront, hback⟩
  rw [parse_eq, Text.cutFirst_eq_some_iff.2 ⟨htext, hfirst⟩]
  dsimp only
  rw [if_neg (by simpa using hscheme), hlast, hfind, ← hauthority]
  simp

/-- and lacks one thing at most. -/
theorem Lacks.parse {r : Refusal} (h : Lacks s r) : parse s = .error r := by
  cases r with
  | missingScheme => rw [parse_eq, Text.cutFirst_eq_none_iff.2 h]
  | emptyScheme =>
    obtain ⟨rest, hrest⟩ := h
    have hcut : Text.cutFirst "://".toList s.toList = some ([], rest) :=
      Text.cutFirst_eq_some_iff.2 ⟨by rw [← hrest, List.nil_append], fun _ _ _ => Nat.zero_le _⟩
    rw [parse_eq, hcut]
    rfl
  | missingService =>
    obtain ⟨scheme, rest, hne, htext, hfirst, hempty⟩ := h
    obtain ⟨segments, hsegments, hlast⟩ := splitOn_splitPath rest
    have hfind : segments.reverse.find? (· != []) = none := by
      rw [List.find?_eq_none]
      intro q hq
      simpa using hempty q (by rw [hsegments]; exact List.mem_reverse.1 hq)
    rw [parse_eq, Text.cutFirst_eq_some_iff.2 ⟨htext, hfirst⟩]
    dsimp only
    rw [if_neg hne, hlast, hfind]

/-- **What is read is what the text says.** -/
theorem parse_eq_ok_iff : parse s = .ok t ↔ Says s t := by
  refine ⟨fun h => ?_, Says.parse⟩
  have hsound := parse_sound s
  rwa [h] at hsound

/-- **A text is refused EXACTLY for what it lacks.** -/
theorem parse_eq_error_iff {r : Refusal} : parse s = .error r ↔ Lacks s r := by
  refine ⟨fun h => ?_, Lacks.parse⟩
  have hsound := parse_sound s
  rwa [h] at hsound

end Reading

/-! ## Written targets -/

/-- **No part of a target is mistaken for another** when it is written. -/
structure Plain (t : Target) : Prop where
  scheme_ne : t.scheme ≠ ""
  scheme : ¬ "://".toList <:+: t.scheme.toList
  authority : '/' ∉ t.authority.toList
  service_ne : t.service ≠ ""
  service : '/' ∉ t.service.toList

section Writing

variable {s : String} {t : Target}

theorem toList_render (t : Target) :
    t.render.toList =
      t.scheme.toList ++ "://".toList ++ (t.authority.toList ++ '/' :: t.service.toList) := by
  simp [render]

/-- **What a text says is plain.** -/
theorem Says.plain (h : Says s t) : t.Plain := by
  obtain ⟨rest, segments, front, back, hscheme, htext, hfirst, hpieces, rfl, hservice, hback⟩ := h
  refine ⟨hscheme, ?_, ?_, hservice, ?_⟩
  · rintro ⟨x, y, hxy⟩
    have hle := hfirst x (y ++ "://".toList ++ rest) (by rw [htext, ← hxy]; simp)
    have hlength := congrArg List.length hxy
    simp only [List.length_append] at hlength
    have hmark : "://".toList.length = 3 := rfl
    omega
  · exact Text.not_mem_of_mem_splitOn (s := rest) (by rw [hpieces]; simp)
  · exact Text.not_mem_of_mem_splitOn (s := rest) (by rw [hpieces]; simp)

/-- **A plain target is said by its text.** -/
theorem Plain.says (h : t.Plain) : Says t.render t := by
  have hpieces : (t.authority.toList ++ '/' :: t.service.toList).splitOn '/' =
      [t.authority.toList, t.service.toList] := by
    rw [List.splitOn_append_cons_self_of_not_mem h.authority, List.splitOn_eq_singleton h.service]
  refine .intro _ [t.service.toList] [] [] h.scheme_ne (toList_render t) ?_ hpieces rfl h.service_ne
    fun _ hp => nomatch hp
  rw [toList_render]
  exact (Text.cutFirst_eq_some_iff.1 (Text.cutFirst_append h.scheme)).2

/-- **A target survives being written EXACTLY if it is plain.** -/
theorem parse_render_iff : parse t.render = .ok t ↔ t.Plain :=
  parse_eq_ok_iff.trans ⟨Says.plain, Plain.says⟩

end Writing

/-- **The grammar of targets, and their round trip.**  A text is read as the target that it says; a text that says
    none is refused as an invalid target, for what it lacks.  Whatever has been read survives being written, and of
    all targets exactly those do whose scheme and service have characters, with no "://" in the scheme and no slash in
    the authority or the service. -/
theorem targets_round_trip :
    (∀ s t, parse s = .ok t ↔ Says s t) ∧
    (∀ s, (∀ t, ¬ Says s t) → ∃ r, Lacks s r ∧
      (parse s).mapError (Refusal.failure s) = .error (.invalidTarget s r.reason)) ∧
    (∀ s t, parse s = .ok t → parse t.render = .ok t) ∧
    ∀ t, parse t.render = .ok t ↔ t.Plain := by
  refine ⟨fun s t => parse_eq_ok_iff, fun s hno => ?_, fun s t h => ?_, fun t => parse_render_iff⟩
  · cases hparse : parse s with
    | ok t => exact absurd (parse_eq_ok_iff.1 hparse) (hno t)
    | error r => exact ⟨r, parse_eq_error_iff.1 hparse, rfl⟩
  · exact parse_render_iff.2 (parse_eq_ok_iff.1 h).plain

/-- A scheme that ends in a colon, and a service behind two slashes and before another; and a text without a path. -/
theorem targets_round_trip_colon :
    parse "a:://b//c/" = .ok ⟨"a:", "b", "c"⟩ ∧ parse (render ⟨"a:", "b", "c"⟩) = .ok ⟨"a:", "b", "c"⟩ ∧
      (parse "a://b").mapError (Refusal.failure "a://b") =
        .error (.invalidTarget "a://b" "missing service name") := by
  have hparse : parse "a:://b//c/" = .ok ⟨"a:", "b", "c"⟩ := by decide +kernel
  have hrefused : parse "a://b" = .error .missingService := by decide +kernel
  refine ⟨hparse, targets_round_trip.2.2.1 _ _ hparse, ?_⟩
  obtain ⟨r, hlacks, hfailure⟩ := targets_round_trip.2.1 "a://b" fun t hsays => by
    rw [(targets_round_trip.1 _ t).2 hsays] at hrefused
    cases hrefused
  rw [hlacks.parse] at hrefused
  obtain rfl := Except.error.inj hrefused
  exact hfailure

end Target

end Muster
