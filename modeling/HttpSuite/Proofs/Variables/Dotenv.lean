/-
HttpSuite/Proofs/Variables/Dotenv.lean

Files of environment variables that are written and read back.  A file is written item by item, one
line each:

    blank         blanks alone
    comment       a number sign and anything behind it
    assignment    name="value", perhaps with `export ` in front

A value stands between quotes, so whatever it holds, blanks at its ends, equals signs and quotes of
its own, it starts and ends where the outer quotes do.  A name has no quotes around it and must do
without an equals sign and without the start of a comment or of an export (`IsName`).  Then a line
is read back on its own (`entryOfLine_print`), and the ends of lines do not get in the way
(`filterMap_entryOfLine_lines`).

Main result: of each name the last value is read that was written for it, and no other names are
read (`get?_parse_print`).
-/
import HttpSuite.Proofs.Document.WellFormed
import HttpSuite.Variables.Dotenv

namespace HttpSuite.Dotenv

open Text (trim unlines content)

/-! ### Files that are written -/

/-- A name that can be written in front of an equals sign. -/
structure IsName (name : String) : Prop extends IsKey '=' name where
  noFeed : '\n' ∉ name.toList
  noComment : name.toList.head? ≠ some '#'
  noExport : ¬ "export ".toList <+: name.toList

/-- A text between double quotes, as it stands. -/
def inQuotes (value : List Char) : List Char := '"' :: (value ++ ['"'])

/-- A name with a value between quotes. -/
def written (name value : String) : List Char := name.toList ++ '=' :: inQuotes value.toList

/-- What is written on one line of a file. -/
inductive Item where
  | blank (line : List Char) (isBlank : Text.isBlankText line = true) (noFeed : '\n' ∉ line)
  | comment (line : List Char) (isComment : (trim line).head? = some '#') (noFeed : '\n' ∉ line)
  | assignment (exported : Bool) (name value : String) (isName : IsName name)
    (noFeed : '\n' ∉ value.toList)

namespace Item

/-- The line of an item. -/
def print : Item → List Char
  | blank line _ _ => line
  | comment line _ _ => line
  | assignment exported name value _ _ =>
    if exported then "export ".toList ++ written name value else written name value

/-- The entry that an item writes. -/
def entry? : Item → Option (String × String)
  | assignment _ name value _ _ => some (name, value)
  | _ => none

/-- The value that an item writes for a name. -/
def valueOf? (name : String) (item : Item) : Option String :=
  item.entry?.bind fun e => if e.1 = name then some e.2 else none

theorem newline_not_mem_print (item : Item) : '\n' ∉ item.print := by
  cases item with
  | blank line _ noFeed => exact noFeed
  | comment line _ noFeed => exact noFeed
  | assignment exported name value isName noFeed =>
      cases exported <;> simp [print, written, inQuotes, isName.noFeed, noFeed]

end Item

/-! ### One line -/

/-- Quotes are taken off once. -/
theorem unquote_inQuotes (value : List Char) : unquote (inQuotes value) = value := by
  simp [unquote, inQuotes]

theorem trim_inQuotes (value : List Char) : trim (inQuotes value) = inQuotes value := by
  have hquote : Text.isBlank '"' = false := rfl
  rw [inQuotes, Text.trim_cons_of_not_blank hquote, Text.trimEnd_append_of_not_blank hquote]

/-- A line is read without the blanks at its ends. -/
theorem entryOfLine_trim (line : List Char) : entryOfLine (trim line) = entryOfLine line := by
  rw [entryOfLine, entryOfLine, Text.trim_trim]

theorem entryOfLine_of_blank {line : List Char} (h : trim line = []) : entryOfLine line = none := by
  rw [entryOfLine, h]

theorem entryOfLine_of_comment {line : List Char} (h : (trim line).head? = some '#') :
    entryOfLine line = none := by
  obtain ⟨rest, hrest⟩ := List.head?_eq_some_iff.mp h
  simp [entryOfLine, hrest]

/-- A line that starts with another character and has no blanks at its ends is read as it is. -/
theorem entryOfLine_eq {line : List Char} {c : Char} (htrim : trim line = line)
    (hhead : line.head? = some c) (hc : c ≠ '#') : entryOfLine line = entryOfTrimmed line := by
  obtain ⟨rest, rfl⟩ := List.head?_eq_some_iff.mp hhead
  rw [entryOfLine, htrim]
  simp [hc]

/-- What starts a text in front of a character that it does not hold is in front of it. -/
theorem prefix_of_prefix_append_cons {c : Char} {front name rest : List Char} (hc : c ∉ front)
    (h : front <+: name ++ c :: rest) : front <+: name := by
  rcases List.prefix_or_prefix_of_prefix h (List.prefix_append name (c :: rest)) with hfront | hname
  · exact hfront
  · obtain ⟨more, rfl⟩ := hname
    cases more with
    | nil => simp
    | cons d more =>
        obtain ⟨tail, htail⟩ := h
        obtain ⟨rfl, -⟩ : d = c ∧ more ++ tail = rest := by simpa using htail
        exact absurd (by simp) hc

namespace IsName

variable {name : String}

theorem exists_head (h : IsName name) :
    ∃ c, name.toList.head? = some c ∧ Text.isBlank c = false ∧ c ≠ '#' := by
  rcases hname : name.toList with - | ⟨c, rest⟩
  · exact absurd (String.toList_eq_nil_iff.mp hname) h.ne_empty
  · have htrimmed := h.trimmed
    have hcomment := h.noComment
    rw [hname] at htrimmed hcomment
    exact ⟨c, rfl, (Text.trim_eq_self_iff.mp htrimmed).1 c rfl, by simpa using hcomment⟩

/-- Without `export ` in front there is none to be taken off. -/
theorem stripStart?_written (h : IsName name) (value : String) :
    Text.stripStart? "export ".toList (written name value) = none := by
  refine Option.eq_none_iff_forall_ne_some.mpr fun rest hrest => h.noExport ?_
  have hprefix : "export ".toList <+: written name value :=
    ⟨rest, (Text.stripStart?_eq_some.mp hrest).symm⟩
  exact prefix_of_prefix_append_cons (by decide) hprefix

/-- Without `export `, the name is what stands in front of the first equals sign. -/
theorem entryOfTrimmed_eq (h : IsName name) (value : String) {line : List Char}
    (hline : (Text.stripStart? "export ".toList line).getD line = written name value) :
    entryOfTrimmed line = some (name, value) := by
  have hcut : Text.splitOnce? ['='] (written name value) =
      some (name.toList, inQuotes value.toList) :=
    Text.splitOnce?_append_cons h.noMark _
  have hne : name.toList.isEmpty = false := by
    rw [List.isEmpty_eq_false_iff, ne_eq, String.toList_eq_nil_iff]
    exact h.ne_empty
  simp only [entryOfTrimmed, hline, hcut, h.trimmed, hne, trim_inQuotes, unquote_inQuotes,
    String.ofList_toList, Bool.false_eq_true, if_false]

end IsName

/-- An assignment is read where its line starts with no blank and no number sign. -/
theorem entryOfLine_append_written {front : List Char} {name value : String} {a : Char}
    (hhead : (front ++ name.toList).head? = some a) (hblank : Text.isBlank a = false)
    (hcomment : a ≠ '#') :
    entryOfLine (front ++ written name value) = entryOfTrimmed (front ++ written name value) := by
  have hline : front ++ written name value =
      (front ++ name.toList) ++ '=' :: inQuotes value.toList := by
    rw [written, List.append_assoc]
  have hne : inQuotes value.toList ≠ [] := by simp [inQuotes]
  rw [hline]
  refine entryOfLine_eq ?_ ?_ hcomment
  · exact Text.trim_append_cons hhead hblank (trim_inQuotes value.toList) hne
  · rw [List.head?_append, hhead]
    rfl

/-- **One line**: a line is read as the entry that it was written for. -/
theorem entryOfLine_print (item : Item) : entryOfLine item.print = item.entry? := by
  cases item with
  | blank line isBlank _ => exact entryOfLine_of_blank (Text.trim_eq_nil_iff.mpr isBlank)
  | comment line isComment _ => exact entryOfLine_of_comment isComment
  | assignment exported name value isName _ =>
      cases exported with
      | true =>
          have hstrip : Text.stripStart? "export ".toList
              ("export ".toList ++ written name value) = some (written name value) :=
            Text.stripStart?_eq_some.mpr rfl
          have hhead : ("export ".toList ++ name.toList).head? = some 'e' := rfl
          show entryOfLine ("export ".toList ++ written name value) = some (name, value)
          rw [entryOfLine_append_written hhead rfl (by decide)]
          exact isName.entryOfTrimmed_eq value (by rw [hstrip, Option.getD_some])
      | false =>
          obtain ⟨c, hhead, hblank, hc⟩ := isName.exists_head
          show entryOfLine ([] ++ written name value) = some (name, value)
          rw [entryOfLine_append_written hhead hblank hc]
          exact isName.entryOfTrimmed_eq value
            (by rw [List.nil_append, isName.stripStart?_written, Option.getD_none])

/-! ### All lines -/

/-- The entries of lines are those of the lines that are not blank. -/
theorem filterMap_entryOfLine_content (lines : List (List Char)) :
    (content lines).filterMap entryOfLine = lines.filterMap entryOfLine := by
  induction lines with
  | nil => rfl
  | cons line lines ih =>
      by_cases hblank : trim line = []
      · rw [Text.content_cons_of_blank hblank, ih,
          List.filterMap_cons_none (entryOfLine_of_blank hblank)]
      · rw [Text.content_cons_of_ne_nil hblank, List.filterMap_cons, List.filterMap_cons,
          entryOfLine_trim, ih]

/-- Lines that are joined and taken apart again have the same entries. -/
theorem filterMap_entryOfLine_lines {lines : List (List Char)} (noFeed : ∀ l ∈ lines, '\n' ∉ l) :
    (Text.lines (unlines lines)).filterMap entryOfLine = lines.filterMap entryOfLine := by
  rw [← filterMap_entryOfLine_content, Text.content_lines_unlines noFeed,
    filterMap_entryOfLine_content]

/-- A file is read as the table of the entries that were written. -/
theorem parse_print (items : List Item) :
    parse (String.ofList (unlines (items.map Item.print))) =
      Table.ofList (items.filterMap Item.entry?) := by
  have hfeed : ∀ line ∈ items.map Item.print, '\n' ∉ line := by
    intro line hline
    obtain ⟨item, -, rfl⟩ := List.mem_map.mp hline
    exact item.newline_not_mem_print
  have hentries : entryOfLine ∘ Item.print = Item.entry? := funext entryOfLine_print
  rw [parse, String.toList_ofList, filterMap_entryOfLine_lines hfeed, List.filterMap_map, hentries]

/-- The entry of a name in a list is the first value that the list has for it. -/
theorem find?_eq_head? (name : String) (entries : List (String × String)) :
    Table.find? name entries =
      (entries.filterMap fun e => if e.1 = name then some e.2 else none).head? := by
  induction entries with
  | nil => rfl
  | cons e entries ih =>
      by_cases h : name = e.1
      · simp [Table.find?, h]
      · simp [Table.find?, h, Ne.symm h, ih]

/-- **Reading back**: of each name a file that was written has the last value that was written for
it, and nothing of a name that no value was written for. -/
theorem get?_parse_print (items : List Item) (name : String) :
    (parse (String.ofList (unlines (items.map Item.print)))).get? name =
      (items.filterMap (Item.valueOf? name)).getLast? := by
  have hvalues : items.filterMap (Item.valueOf? name) =
      (items.filterMap Item.entry?).filterMap fun e => if e.1 = name then some e.2 else none := by
    rw [List.filterMap_filterMap]
    rfl
  rw [parse_print, Table.ofList, Table.get?_insertAll, Table.get?_empty, Option.or_none,
    find?_eq_head?, List.filterMap_reverse, List.head?_reverse, hvalues]

/-! A name that is written twice, with signs and quotes in its values. -/

example : (parse "# keys\nA=\"x\"\n\nexport A=\" 'b' = \"c\" # \"\n").get? "A" =
    some " 'b' = \"c\" # " := by
  decide +kernel

end HttpSuite.Dotenv
