/-
HttpSuite/Proofs/Http/ShortTarget.lean

Targets without a scheme.  A target that starts with a host, or with the port of the usual host, is
a short form, whatever path, query or fragment follows the host:

    example.com/api          stands for  http://example.com/api
    :8080?q=1                stands for  http://localhost:8080?q=1

What is missing is seen from the first colon with two slashes in the whole text, though, and there
may be one behind the host, in a query for instance:

    example.com/?to=http://h     stays as it is

Main result: what follows the host is carried over as it stands, and the usual scheme is put in
front, exactly when the target starts with a port or nothing behind the host holds such a mark
(`complete_append_iff`).
-/
import HttpSuite.Http.Target
import HttpSuite.Proofs.Text.Lines

namespace HttpSuite.Target

open Text (isBlank)

variable {host rest : List Char}

/-! ### Hosts and what follows them -/

/-- A character that ends a host. -/
def endsHost (c : Char) : Bool := c == '/' || c == '?' || c == '#'

/-- A host with or without a port, or a port alone. -/
structure IsHost (host : List Char) : Prop where
  ne_nil : host ≠ []
  plain : ∀ c ∈ host, isBlank c = false ∧ endsHost c = false
  last : host.getLast? ≠ some ':'

/-- A path, a query or a fragment, with all that follows it. -/
structure IsRest (rest : List Char) : Prop where
  first : ∃ c, rest.head? = some c ∧ endsHost c = true
  last : ∀ c, rest.getLast? = some c → isBlank c = false

instance (host : List Char) : Decidable (IsHost host) :=
  decidable_of_iff (host ≠ [] ∧ (host.all fun c => !isBlank c && !endsHost c) = true ∧
      host.getLast? ≠ some ':')
    ⟨fun ⟨hne, hall, hlast⟩ => ⟨hne, by simpa using hall, hlast⟩,
      fun h => ⟨h.ne_nil, by simpa using h.plain, h.last⟩⟩

theorem isRest_iff {rest : List Char} : IsRest rest ↔
    (rest.head?.any endsHost) = true ∧ (rest.getLast?.all (!isBlank ·)) = true := by
  constructor
  · rintro ⟨⟨c, hc, hfirst⟩, hlast⟩
    refine ⟨by simpa [hc] using hfirst, ?_⟩
    cases hc : rest.getLast? with
    | none => rfl
    | some c => simpa using hlast c hc
  · rintro ⟨hfirst, hlast⟩
    refine ⟨?_, fun c hc => by simpa [hc] using hlast⟩
    cases hc : rest.head? with
    | none => simp [hc] at hfirst
    | some c => exact ⟨c, rfl, by simpa [hc] using hfirst⟩

instance (rest : List Char) : Decidable (IsRest rest) := decidable_of_iff _ isRest_iff.symm

/-- What is put in front of a host. -/
def front (host : List Char) : List Char :=
  if host.head? = some ':' then usualScheme ++ usualHost else usualScheme

theorem IsRest.exists_cons (hrest : IsRest rest) :
    ∃ c tail, rest = c :: tail ∧ endsHost c = true := by
  obtain ⟨c, hhead, hc⟩ := hrest.first
  obtain ⟨tail, htail⟩ := List.head?_eq_some_iff.mp hhead
  exact ⟨c, tail, htail, hc⟩

/-- A target goes up to the first character that ends its host. -/
theorem IsHost.takeWhile_append (hhost : IsHost host) (hrest : IsRest rest) :
    (host ++ rest).takeWhile (!endsHost ·) = host := by
  obtain ⟨c, tail, rfl, hc⟩ := hrest.exists_cons
  have hall : ∀ a ∈ host, (!endsHost a) = true := fun a ha => by simp [(hhost.plain a ha).2]
  rw [List.takeWhile_append_of_pos hall, List.takeWhile_cons_of_neg (by simp [hc]),
    List.append_nil]

/-- A target has no blanks around it. -/
theorem IsHost.trim_append (hhost : IsHost host) (hrest : IsRest rest) :
    Text.trim (host ++ rest) = host ++ rest := by
  obtain ⟨c, tail, rfl, -⟩ := hrest.exists_cons
  obtain ⟨a, host', rfl⟩ := List.exists_cons_of_ne_nil hhost.ne_nil
  refine Text.trim_eq_self_iff.mpr ⟨fun d hd => ?_, fun d hd => ?_⟩
  · obtain rfl : a = d := by simpa using hd
    exact (hhost.plain a List.mem_cons_self).1
  · -- the last character is one behind the host
    rw [List.getLast?_append, List.getLast?_cons] at hd
    exact hrest.last d (by simpa [List.getLast?_cons] using hd)

theorem IsHost.head?_append (hhost : IsHost host) (rest : List Char) :
    (host ++ rest).head? = host.head? := by
  obtain ⟨a, host, rfl⟩ := List.exists_cons_of_ne_nil hhost.ne_nil
  rfl

/-! ### The mark of a scheme -/

/-- No host holds the mark of a scheme. -/
theorem IsHost.not_mark (hhost : IsHost host) : ¬ schemeMark <:+: host := by
  intro hmark
  have hslash := (hhost.plain '/' (hmark.subset (by decide))).2
  exact absurd hslash (by decide)

/-- The mark of a scheme occurs in a target if it occurs behind the host: it cannot start in the host,
which has no slash and does not end with a colon. -/
theorem IsHost.mark_append_iff (hhost : IsHost host) (hrest : IsRest rest) :
    schemeMark <:+: host ++ rest ↔ schemeMark <:+: rest := by
  refine ⟨fun hmark => ?_, fun hmark => hmark.trans (List.suffix_append host rest).isInfix⟩
  obtain ⟨before, after, heq⟩ := hmark
  rw [List.append_assoc] at heq
  rcases List.append_eq_append_iff.mp heq with ⟨inner, hhost', hinner⟩ | ⟨inner, -, hrest'⟩
  · -- the mark starts within the host
    exfalso
    have hslash : '/' ∉ inner := by
      intro hmem
      have hplain := (hhost.plain '/' (by rw [hhost']; exact List.mem_append_right _ hmem)).2
      exact absurd hplain (by decide)
    obtain ⟨c, tail, rfl, hc⟩ := hrest.exists_cons
    match inner with
    | [] =>
        obtain rfl : ':' = c := (List.cons.inj hinner).1
        exact absurd hc (by decide)
    | [a] =>
        obtain rfl : ':' = a := (List.cons.inj hinner).1
        exact hhost.last (by rw [hhost', List.getLast?_concat])
    | a :: b :: inner =>
        obtain rfl : '/' = b := (List.cons.inj (List.cons.inj hinner).2).1
        exact hslash (by simp)
  · exact ⟨inner, after, by rw [hrest', List.append_assoc]⟩

/-! ### Completion -/

theorem complete_of_colon {target : List Char} (h : target.head? = some ':') :
    complete target = usualScheme ++ usualHost ++ target := by
  obtain ⟨tail, rfl⟩ := List.head?_eq_some_iff.mp h
  rfl

theorem complete_of_not_mark {target : List Char} (hcolon : target.head? ≠ some ':')
    (hmark : ¬ schemeMark <:+: target) : complete target = usualScheme ++ target := by
  unfold complete
  split
  · exact absurd rfl hcolon
  · rw [Text.splitOnce?_eq_none_iff.mpr hmark]

/-- A text with the mark of a scheme stays as it is up to this mark, and a host alone is put behind
it: it starts with the same characters up to the first slash. -/
theorem takeWhile_complete_of_mark {target : List Char} (hcolon : target.head? ≠ some ':')
    (hmark : schemeMark <:+: target) :
    (complete target).takeWhile (!endsHost ·) = target.takeWhile (!endsHost ·) := by
  have hsame : ∀ scheme s t : List Char,
      (scheme ++ schemeMark ++ s).takeWhile (!endsHost ·) =
        (scheme ++ schemeMark ++ t).takeWhile (!endsHost ·) := by
    intro scheme s t
    have hmark' : ∀ u, (schemeMark ++ u).takeWhile (!endsHost ·) = [':'] := fun u => rfl
    simp only [List.append_assoc, List.takeWhile_append, hmark']
  unfold complete
  split
  · exact absurd rfl hcolon
  · split
    · rename_i scheme tail hsplit
      rw [Text.splitOnce?_eq_some hsplit, List.append_assoc]
      exact hsame scheme _ _
    · rfl
    · rename_i hnone
      exact absurd hmark (Text.splitOnce?_eq_none_iff.mp hnone)

/-- A host alone gets what is missing in front. -/
theorem IsHost.complete_eq (hhost : IsHost host) : complete host = front host ++ host := by
  unfold front
  split
  · rename_i hcolon
    exact complete_of_colon hcolon
  · rename_i hcolon
    exact complete_of_not_mark hcolon hhost.not_mark

/-- What is put in front of a host starts with the usual scheme. -/
theorem usualScheme_prefix_front (host : List Char) : usualScheme <+: front host := by
  unfold front
  split
  · exact List.prefix_append usualScheme usualHost
  · exact List.prefix_refl usualScheme

/-- The URL of a target without blanks around it is that of the completed target. -/
theorem url_of_trimmed {target : List Char} (hne : target ≠ []) (htrim : Text.trim target = target) :
    url (String.ofList target) =
      (Url.ofText (complete target)).mapError (.invalidTarget (String.ofList target)) := by
  rw [url, String.toList_ofList, htrim]
  rw [if_neg (by simpa using hne)]

/-- **Short forms**: a host alone gets the usual scheme in front, and the usual host where it is only
a port. With a path, a query or a fragment behind the host, the URL is read from the completed text,
too, and the completed text is that of the host with all that follows it, or so much as starts with
the usual scheme, if and only if the target starts with a port or the mark of a scheme does not occur
behind the host. -/
theorem complete_append_iff (hhost : IsHost host) (hrest : IsRest rest) :
    complete host = front host ++ host ∧
    url (String.ofList (host ++ rest)) =
      (Url.ofText (complete (host ++ rest))).mapError
        (.invalidTarget (String.ofList (host ++ rest))) ∧
    (complete (host ++ rest) = complete host ++ rest ↔
      host.head? = some ':' ∨ ¬ schemeMark <:+: rest) ∧
    (usualScheme <+: complete (host ++ rest) ↔
      host.head? = some ':' ∨ ¬ schemeMark <:+: rest) := by
  have hkeeps : host.head? = some ':' ∨ ¬ schemeMark <:+: rest →
      complete (host ++ rest) = complete host ++ rest := by
    intro hcase
    rw [hhost.complete_eq, List.append_assoc]
    unfold front
    split
    · rename_i hcolon
      exact complete_of_colon ((hhost.head?_append rest).trans hcolon)
    · rename_i hcolon
      refine complete_of_not_mark (by rwa [hhost.head?_append]) ?_
      rw [hhost.mark_append_iff hrest]
      exact hcase.resolve_left hcolon
  have hscheme : complete (host ++ rest) = complete host ++ rest →
      usualScheme <+: complete (host ++ rest) := by
    intro heq
    rw [heq, hhost.complete_eq, List.append_assoc]
    exact (usualScheme_prefix_front host).trans (List.prefix_append _ _)
  have hcase : usualScheme <+: complete (host ++ rest) →
      host.head? = some ':' ∨ ¬ schemeMark <:+: rest := by
    rintro ⟨tail, htail⟩
    refine Classical.byContradiction fun hnot => ?_
    obtain ⟨hcolon, hmark⟩ : host.head? ≠ some ':' ∧ schemeMark <:+: rest := by
      simpa [not_or] using hnot
    -- up to the first slash the target would be the usual scheme, but no host ends with a colon
    have hcolon' : (host ++ rest).head? ≠ some ':' := by rwa [hhost.head?_append]
    have hfirst := takeWhile_complete_of_mark hcolon' ((hhost.mark_append_iff hrest).mpr hmark)
    rw [← htail, hhost.takeWhile_append hrest] at hfirst
    exact hhost.last (by rw [← hfirst]; rfl)
  refine ⟨hhost.complete_eq, url_of_trimmed ?_ (hhost.trim_append hrest), ?_, ?_⟩
  · simp [hhost.ne_nil]
  · exact ⟨fun heq => hcase (hscheme heq), hkeeps⟩
  · exact ⟨hcase, fun h => hscheme (hkeeps h)⟩

/-- A port with an address in the query behind it is completed; the mark of a scheme does not count
there. -/
theorem complete_append_iff_port :
    let host := ":8080".toList
    let rest := "/login?to=https://h/a b://c".toList
    (IsHost host ∧ IsRest rest) ∧
      complete (host ++ rest) = "http://localhost:8080/login?to=https://h/a b://c".toList := by
  intro host rest
  have hhost : IsHost host := by decide
  have hrest : IsRest rest := by decide
  refine ⟨⟨hhost, hrest⟩, ?_⟩
  obtain ⟨hcomplete, -, hkeeps, -⟩ := complete_append_iff hhost hrest
  rw [hkeeps.mpr (.inl rfl), hcomplete]
  rfl

/-- A host with an address in the query behind it stays without a scheme, and so it is no URL, while
the host alone, and the completed text, are. -/
theorem complete_query_address :
    let host := "example.com".toList
    let rest := "/login?to=https://h".toList
    IsHost host ∧ IsRest rest ∧
      complete host ++ rest = "http://example.com/login?to=https://h".toList ∧
      complete (host ++ rest) = "example.com/login?to=https://h".toList ∧
      complete (host ++ rest) ≠ complete host ++ rest ∧
      (Url.ofText (complete host ++ rest)).toOption.isSome = true ∧
      (url (String.ofList (host ++ rest))).toOption = none := by
  intro host rest
  have hhost : IsHost host := by decide
  have hrest : IsRest rest := by decide
  exact ⟨hhost, hrest, rfl, rfl, by decide, by decide +kernel, by decide +kernel⟩

end HttpSuite.Target
