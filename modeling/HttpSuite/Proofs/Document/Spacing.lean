/-
HttpSuite/Proofs/Document/Spacing.lean

Blanks around the equals sign of a directive.  A directive is written as a key, an equals sign and a
text, with blanks on both sides of the sign or without them.  For most keys these blanks do not
matter.  The key `name` is read as the word that introduces the
name of a request, though, and this word ends with its blank:

    @name = a      binds the name  a
    @name= a       assigns  a  to the key  name
    @name ==a      binds the name  a,  and  @name = =a  the name  =a

Main result: a directive is read as the one with a single blank on each side exactly when its key is
not this word, or a space stands in front of the sign and it is not followed by another equals sign
at once (`ofLine?_written_eq_iff`).
-/
import HttpSuite.Document.Directive
import HttpSuite.Proofs.Text.Lines

namespace HttpSuite.Directive

open Text (isBlank trim trimEnd)

variable {key gap gap' value tail rest : List Char}

/-! ### Written directives -/

/-- A character that is no blank and no equals sign. -/
def isBare (c : Char) : Bool := !isBlank c && c != '='

/-- A key as it can stand in front of any blanks: it has none itself, and no equals sign. -/
structure IsBareKey (key : List Char) : Prop where
  ne_nil : key ≠ []
  plain : ∀ c ∈ key, isBlank c = false ∧ c ≠ '='

instance (key : List Char) : Decidable (IsBareKey key) :=
  decidable_of_iff (key ≠ [] ∧ (key.all fun c => !isBlank c && c != '=') = true)
    ⟨fun ⟨hne, hall⟩ => ⟨hne, by simpa using hall⟩, fun h => ⟨h.ne_nil, by simpa using h.plain⟩⟩

/-- Spaces and tabs. -/
def IsGap (gap : List Char) : Prop := ∀ c ∈ gap, c = ' ' ∨ c = '\t'

/-- A key, an equals sign and a text, with something in front of the sign and something behind it. -/
def written (key gap gap' value : List Char) : List Char :=
  '@' :: (key ++ gap ++ '=' :: (gap' ++ value))

/-- The key that is read as the word that introduces names, in whatever case. -/
def IsNameKey (key : List Char) : Prop := Ascii.equalFold key "name".toList = true

instance (key : List Char) : Decidable (IsNameKey key) :=
  inferInstanceAs (Decidable (_ = true))

/-- What is bound by a name, if there is one. -/
def bound (id : List Char) : Except DirectiveError Directive :=
  if id.isEmpty then .error .emptyName else .ok (.nameBinding (String.ofList id))

/-- What is assigned to a key, or taken out of the response for it. -/
def assigned (key value : List Char) : Except DirectiveError Directive :=
  if Text.startsWith pathMark value then
    .ok (.pathExtraction (String.ofList key) (String.ofList value))
  else .ok (.staticAssignment (String.ofList key) (String.ofList value))

theorem IsGap.isBlank (hgap : IsGap gap) {c : Char} (hc : c ∈ gap) : isBlank c = true := by
  rcases hgap c hc with rfl | rfl
  · decide
  · decide

theorem isGap_space : IsGap [' '] := by simp [IsGap]

theorem IsGap.isBlankText (hgap : IsGap gap) : Text.isBlankText gap = true :=
  List.all_eq_true.mpr fun _ hc => hgap.isBlank hc

theorem bound_ne_assigned (id key value : List Char) : bound id ≠ assigned key value := by
  unfold bound assigned
  split
  · split
    · rintro ⟨⟩
    · rintro ⟨⟩
  · split
    · rintro ⟨⟩
    · rintro ⟨⟩

theorem bound_inj {id id' : List Char} : bound id = bound id' ↔ id = id' := by
  constructor
  · intro h
    unfold bound at h
    split at h
    · rename_i hempty
      split at h
      · rename_i hempty'
        rw [List.isEmpty_iff.mp hempty, List.isEmpty_iff.mp hempty']
      · cases h
    · split at h
      · cases h
      · simpa [String.ofList_inj] using h
  · rintro rfl
    rfl

/-! ### Trimming -/

theorem trim_append_of_blank {blanks : List Char} (h : Text.isBlankText blanks = true)
    (s : List Char) : trim (s ++ blanks) = trim s := by
  induction blanks generalizing s with
  | nil => rw [List.append_nil]
  | cons c blanks ih =>
      obtain ⟨hc, hrest⟩ : isBlank c = true ∧ Text.isBlankText blanks = true := by
        simpa [Text.isBlankText] using h
      rw [List.append_cons, ih hrest, Text.trim_concat_of_blank hc]

theorem trim_blank_append (hgap : IsGap gap) (s : List Char) : trim (gap ++ s) = trim s := by
  induction gap with
  | nil => rfl
  | cons c gap ih =>
      rw [List.cons_append, Text.trim_cons_of_blank (hgap.isBlank List.mem_cons_self)]
      exact ih fun a ha => hgap a (List.mem_cons_of_mem _ ha)

/-- What is taken from the end of a text is blank. -/
theorem exists_eq_trimEnd_append (s : List Char) :
    ∃ blanks, Text.isBlankText blanks = true ∧ s = trimEnd s ++ blanks := by
  refine ⟨(s.reverse.takeWhile isBlank).reverse, ?_, ?_⟩
  · rw [Text.isBlankText, List.all_reverse]
    exact List.all_takeWhile
  · rw [trimEnd, ← List.reverse_append, List.takeWhile_append_dropWhile, List.reverse_reverse]

theorem trim_trimEnd (s : List Char) : trim (trimEnd s) = trim s := by
  obtain ⟨blanks, hblank, hs⟩ := exists_eq_trimEnd_append s
  conv => rhs; rw [hs]
  exact (trim_append_of_blank hblank _).symm

theorem length_trim_le (s : List Char) : (trim s).length ≤ s.length := by
  have hstart : (s.dropWhile isBlank).length ≤ s.length := (List.dropWhile_sublist _).length_le
  have hend : ((s.dropWhile isBlank).reverse.dropWhile isBlank).length ≤
      (s.dropWhile isBlank).reverse.length := (List.dropWhile_sublist _).length_le
  rw [List.length_reverse] at hend
  rw [trim, trimEnd, Text.trimStart, List.length_reverse]
  exact Nat.le_trans hend hstart

/-- Equals signs in front and blanks at the end can be taken away in either order. -/
theorem trim_dropWhile_trimEnd (s : List Char) :
    trim ((trimEnd s).dropWhile (· == '=')) = trim (s.dropWhile (· == '=')) := by
  obtain ⟨blanks, hblank, hs⟩ := exists_eq_trimEnd_append s
  conv => rhs; rw [hs]
  rw [List.dropWhile_append]
  split
  · rename_i hempty
    have hrest : Text.isBlankText (blanks.dropWhile (· == '=')) = true :=
      List.all_eq_true.mpr fun c hc =>
        List.all_eq_true.mp hblank c ((List.dropWhile_sublist _).subset hc)
    rw [List.isEmpty_iff.mp hempty, Text.trim_eq_nil_iff.mpr hrest]
    rfl
  · exact (trim_append_of_blank hblank _).symm

/-! ### Letters -/

theorem isBare_lowerChar (c : Char) : isBare (Ascii.lowerChar c) = isBare c := by
  rcases Ascii.lowerChar_eq_or c with h | ⟨i, rfl⟩
  · rw [h]
  · have hall : ∀ i : Fin 26,
        isBare (Ascii.lowerChar (Char.ofNat (65 + i))) = isBare (Char.ofNat (65 + i)) := by
      decide
    exact hall i

theorem eq_space_of_lowerChar {c : Char} (h : Ascii.lowerChar c = ' ') : c = ' ' := by
  rcases Ascii.lowerChar_eq_or c with hsame | ⟨i, rfl⟩
  · rw [← hsame, h]
  · have hall : ∀ i : Fin 26, Ascii.lowerChar (Char.ofNat (65 + i)) ≠ ' ' := by decide
    exact absurd h (hall i)

/-! ### Reading -/

/-- A written directive is trimmed at its end only. -/
theorem IsBareKey.trim_append (hkey : IsBareKey key) (gap tail : List Char) :
    trim (key ++ gap ++ '=' :: tail) = key ++ gap ++ '=' :: trimEnd tail := by
  obtain ⟨c, key, rfl⟩ := List.exists_cons_of_ne_nil hkey.ne_nil
  rw [List.cons_append, List.cons_append,
    Text.trim_cons_of_not_blank (hkey.plain c List.mem_cons_self).1,
    Text.trimEnd_append_cons (by decide)]
  rfl

/-- A key ends at the first character that it cannot hold. -/
theorem IsBareKey.takeWhile_append (hkey : IsBareKey key) (hgap : IsGap gap) (tail : List Char) :
    (key ++ gap ++ '=' :: tail).takeWhile isBare = key := by
  have hall : ∀ c ∈ key, isBare c = true := fun c hc => by
    simp [isBare, hkey.plain c hc]
  have hstop : (gap ++ '=' :: tail).takeWhile isBare = [] := by
    cases gap with
    | nil => rfl
    | cons c gap => simp [isBare, hgap.isBlank List.mem_cons_self]
  rw [List.append_assoc, List.takeWhile_append_of_pos hall, hstop, List.append_nil]

/-- The key is the word for names if its small letters spell this word. -/
theorem isNameKey_iff : IsNameKey key ↔ Ascii.lower key = "name".toList := by
  rw [IsNameKey, Ascii.equalFold, beq_iff_eq]
  rfl

/-- The word for names is found when it is the key and a space follows it. -/
theorem afterNameWord?_eq_some_iff (hkey : IsBareKey key) (hgap : IsGap gap) :
    afterNameWord? (key ++ gap ++ '=' :: tail) = some rest ↔
      IsNameKey key ∧ ∃ gap₁, gap = ' ' :: gap₁ ∧ rest = gap₁ ++ '=' :: tail := by
  have hlength : IsNameKey key → ∀ c : Char, (key ++ [c]).length = nameWord.length := by
    intro hname c
    have hletters := congrArg List.length (isNameKey_iff.mp hname)
    simp only [Ascii.lower, List.length_map] at hletters
    simp only [List.length_append, hletters]
    rfl
  constructor
  · intro h
    unfold afterNameWord? at h
    split at h
    · rename_i hfold
      obtain rfl := Option.some.inj h
      have hsmall : Ascii.lower (key ++ gap ++ '=' :: tail) = "name".toList ++ ' ' ::
          Ascii.lower ((key ++ gap ++ '=' :: tail).drop nameWord.length) := by
        conv => lhs; rw [← List.take_append_drop nameWord.length (key ++ gap ++ '=' :: tail)]
        rw [Ascii.lower, List.map_append]
        exact congrArg (· ++ _) (beq_iff_eq.mp hfold)
      -- up to the first character that is not bare this is the key
      have hname : Ascii.lower key = "name".toList := by
        have hbare := congrArg (List.takeWhile isBare) hsmall
        have hsame : isBare ∘ Ascii.lowerChar = isBare := funext isBare_lowerChar
        rw [Ascii.lower, List.takeWhile_map, hsame, hkey.takeWhile_append hgap] at hbare
        exact hbare
      refine ⟨isNameKey_iff.mpr hname, ?_⟩
      have hbehind : Ascii.lower (gap ++ '=' :: tail) = ' ' ::
          Ascii.lower ((key ++ gap ++ '=' :: tail).drop nameWord.length) := by
        rw [← hname] at hsmall
        refine List.append_cancel_left (Eq.trans ?_ hsmall)
        rw [List.append_assoc]
        exact List.map_append.symm
      cases gap with
      | nil => exact absurd (List.cons.inj hbehind).1 (by decide)
      | cons c gap =>
          obtain rfl := eq_space_of_lowerChar (List.cons.inj hbehind).1
          refine ⟨gap, rfl, ?_⟩
          rw [List.append_cons key, List.append_assoc]
          exact List.drop_left' (hlength (isNameKey_iff.mpr hname) ' ')
    · cases h
  · rintro ⟨hname, gap₁, rfl, rfl⟩
    have hfold : Ascii.equalFold (key ++ [' ']) nameWord = true := by
      have hletters := isNameKey_iff.mp hname
      rw [Ascii.equalFold, beq_iff_eq, Ascii.lower, List.map_append]
      exact congrArg (· ++ [' ']) hletters
    rw [List.append_cons key, List.append_assoc, afterNameWord?,
      List.take_left' (hlength hname ' '), List.drop_left' (hlength hname ' '), if_pos hfold]

/-- A key and a text are told apart by the first equals sign. -/
theorem assignmentOf_append (hkey : IsBareKey key) (hgap : IsGap gap) (tail : List Char) :
    assignmentOf (key ++ gap ++ '=' :: tail) = assigned key (trim tail) := by
  have hequals : '=' ∉ key ++ gap := by
    intro hmem
    rcases List.mem_append.mp hmem with hmem | hmem
    · exact (hkey.plain _ hmem).2 rfl
    · exact absurd (hgap.isBlank hmem) (by decide)
  have htrim : trim (key ++ gap) = key := by
    rw [trim_append_of_blank hgap.isBlankText]
    refine Text.trim_eq_self_iff.mpr ⟨fun c hc => ?_, fun c hc => ?_⟩
    · exact (hkey.plain c (List.mem_of_head? hc)).1
    · exact (hkey.plain c (List.mem_of_getLast? hc)).1
  rw [assignmentOf, Text.splitOnce?_append_cons hequals]
  simp only [htrim]
  rw [if_neg (by simpa using hkey.ne_nil)]
  rfl

/-- Behind the word for names, blanks and equals signs do not count. -/
theorem nameOf_append (hgap : IsGap gap) (tail : List Char) :
    nameOf (gap ++ '=' :: tail) = bound (trim (tail.dropWhile (· == '='))) := by
  have hstart : Text.trimStart (gap ++ '=' :: tail) = '=' :: tail := by
    rw [Text.trimStart, List.dropWhile_append_of_pos fun c hc => hgap.isBlank hc]
    rfl
  rw [nameOf, hstart]
  rfl

/-- What a written directive is read as. -/
theorem ofLine?_written (hkey : IsBareKey key) (hgap : IsGap gap) (hgap' : IsGap gap')
    (value : List Char) :
    (¬ (IsNameKey key ∧ gap.head? = some ' ') →
      ofLine? (written key gap gap' value) = some (assigned key (trim value))) ∧
    (IsNameKey key ∧ gap.head? = some ' ' →
      ofLine? (written key gap gap' value) =
        some (bound (trim ((gap' ++ value).dropWhile (· == '='))))) := by
  have hline : ofLine? (written key gap gap' value) =
      some (ofBody (key ++ gap ++ '=' :: trimEnd (gap' ++ value))) := by
    rw [← hkey.trim_append]
    rfl
  rw [hline, ofBody]
  constructor
  · intro hname
    have hnone : afterNameWord? (key ++ gap ++ '=' :: trimEnd (gap' ++ value)) = none := by
      refine Option.eq_none_iff_forall_ne_some.mpr fun rest hrest => hname ?_
      obtain ⟨hword, gap₁, rfl, -⟩ := (afterNameWord?_eq_some_iff hkey hgap).mp hrest
      exact ⟨hword, rfl⟩
    rw [hnone]
    simp only [assignmentOf_append hkey hgap, trim_trimEnd, trim_blank_append hgap']
  · rintro ⟨hword, hspace⟩
    obtain ⟨gap₁, rfl⟩ := List.head?_eq_some_iff.mp hspace
    have hgap₁ : IsGap gap₁ := fun c hc => hgap c (List.mem_cons_of_mem _ hc)
    rw [(afterNameWord?_eq_some_iff hkey hgap).mpr ⟨hword, gap₁, rfl, rfl⟩]
    simp only [nameOf_append hgap₁, trim_dropWhile_trimEnd]

/-- Equals signs in front of a text are taken away with the one that is written, and then less is
left of it. -/
theorem trim_dropWhile_eq_iff (value : List Char) :
    trim (value.dropWhile (· == '=')) = trim value ↔ value.head? ≠ some '=' := by
  cases value with
  | nil => simp
  | cons c value =>
      by_cases hc : c = '='
      · subst hc
        refine ⟨fun h => ?_, fun h => absurd rfl h⟩
        have hlength := congrArg List.length h
        rw [List.dropWhile_cons_of_pos (by decide), ← trim_dropWhile_trimEnd,
          Text.trim_cons_of_not_blank (by decide), List.length_cons] at hlength
        have hdrop : ((trimEnd value).dropWhile (· == '=')).length ≤ (trimEnd value).length :=
          (List.dropWhile_sublist _).length_le
        have htrim := length_trim_le ((trimEnd value).dropWhile (· == '='))
        omega
      · simp [hc]

/-- **Blanks around the equals sign**: a written directive is read as the one with a single blank on
each side if and only if its key is not the word for names, or a space stands in front of the sign
and no other equals sign follows it at once. -/
theorem ofLine?_written_eq_iff (hkey : IsBareKey key) (hgap : IsGap gap) (hgap' : IsGap gap')
    (value : List Char) :
    ofLine? (written key gap gap' value) = ofLine? (written key [' '] [' '] value) ↔
      ¬ IsNameKey key ∨
        gap.head? = some ' ' ∧ (gap' = [] → value.head? ≠ some '=') := by
  obtain ⟨hplain, hbinds⟩ := ofLine?_written hkey hgap hgap' value
  obtain ⟨hplain', hbinds'⟩ := ofLine?_written hkey isGap_space isGap_space value
  by_cases hname : IsNameKey key
  · -- with a blank on each side the key is read as the word for names
    have hspaced : ofLine? (written key [' '] [' '] value) = some (bound (trim value)) := by
      rw [hbinds' ⟨hname, rfl⟩]
      exact congrArg (fun id => some (bound id)) (Text.trim_cons_of_blank (by decide) value)
    rw [hspaced]
    by_cases hspace : gap.head? = some ' '
    · rw [hbinds ⟨hname, hspace⟩, Option.some.injEq, bound_inj]
      cases gap' with
      | nil => simpa [hname, hspace] using trim_dropWhile_eq_iff value
      | cons c gap' =>
          have hc : isBlank c = true := hgap'.isBlank List.mem_cons_self
          have hequals : (c == '=') = false := by
            rcases hgap' c List.mem_cons_self with rfl | rfl
            · rfl
            · rfl
          rw [List.cons_append, List.dropWhile_cons_of_neg (by simp [hequals]),
            ← List.cons_append, trim_blank_append hgap']
          simp [hspace]
    · rw [hplain fun h => hspace h.2]
      simp only [hname, hspace, not_true_eq_false, false_and, or_false, iff_false,
        Option.some.injEq]
      exact fun h => bound_ne_assigned _ _ _ h.symm
  · rw [hplain fun h => hname h.1, hplain' fun h => hname h.1]
    simp [hname]

/-- A name in capital letters, with blanks in front of the sign only. -/
theorem ofLine?_written_eq_iff_capitals :
    let key := "NAME".toList
    (IsBareKey key ∧ IsGap [' ', '\t'] ∧ IsGap []) ∧
      ofLine? (written key [' ', '\t'] [] "a=b".toList) =
        ofLine? (written key [' '] [' '] "a=b".toList) := by
  intro key
  have hkey : IsBareKey key := by decide
  have hgap : IsGap [' ', '\t'] := by simp [IsGap]
  have hnone : IsGap [] := fun _ hc => absurd hc List.not_mem_nil
  refine ⟨⟨hkey, hgap, hnone⟩, (ofLine?_written_eq_iff hkey hgap hnone _).mpr (.inr ⟨rfl, ?_⟩)⟩
  intro _
  decide

/-- Without a space in front of the sign a name is assigned and not bound. -/
theorem ofLine?_name_unspaced :
    IsBareKey "name".toList ∧
      written "name".toList [' '] [' '] "login".toList = "@name = login".toList ∧
      written "name".toList [] [] "login".toList = "@name=login".toList ∧
      ofLine? "@name = login".toList = some (.ok (.nameBinding "login")) ∧
      ofLine? "@name=login".toList = some (.ok (.staticAssignment "name" "login")) :=
  ⟨by decide, rfl, rfl, rfl, rfl⟩

end HttpSuite.Directive
