/-
HttpSuite/Proofs/Variables/Snapshot.lean

The entries of `.env` files in the course of time.  Files are written and removed, the current
directory changes, expressions are evaluated, and the tables are forgotten.  Generators without
tables answer from the files as they are (`dotenvEntry_load`), and keep the tables if there were
any; from then on they do not look at the files again:

    no tables, no file        no tables        none
    no tables, a file         the tables       the entry by the files as they are
    tables                    the tables       the entry by the tables

So a stretch of events from generators without tables on has one moment that counts, the first
evaluation at which a file can be read.

Main result: before that moment nothing is answered, and from it on all answers are the entries by
the files of that moment, until the tables are forgotten (`dotenv_snapshot`).
-/
import HttpSuite.Variables.Generator
import HttpSuite.Proofs.Variables.Arguments

namespace HttpSuite

namespace Dotenv

/-! ### Entries by the files -/

/-- The table of the file at a path, if it can be read. -/
def tableAt? (f : Files) (path : String) : Option (Table String) :=
  (f.read path).toOption.map parse

/-- The table of the configured directory, if there is one. -/
def configured? (directory : Option String) (f : Files) : Option (Table String) :=
  directory.bind fun d => tableAt? f (Path.join d fileName)

/-- Whether one of the files can be read. -/
def isReadable (directory : Option String) (f : Files) : Bool :=
  (configured? directory f).isSome || (tableAt? f fileName).isSome

/-- The entry of a name in the file of the configured directory, or else in that of the current
directory. -/
def entryIn (directory : Option String) (f : Files) (name : String) : Option String :=
  ((configured? directory f).bind (·.get? name)).or ((tableAt? f fileName).bind (·.get? name))

theorem entryIn_of_unreadable {directory : Option String} {f : Files} {name : String}
    (h : isReadable directory f = false) : entryIn directory f name = none := by
  obtain ⟨hconfigured, hcurrent⟩ := by simpa [isReadable] using h
  rw [entryIn, hconfigured, hcurrent]
  rfl

/-- The name that an expression asks the `.env` files for. -/
def nameAsked? (expression : String) : Option String :=
  match Text.trim expression.toList with
  | '$' :: body =>
    match Arguments.split body with
    | word :: name :: _ =>
      if String.ofList (Ascii.lower word) = "dotenv" then some (String.ofList name) else none
    | _ => none
  | _ => none

/-- The expressions that are meant: the name behind `$dotenv`. -/
theorem nameAsked?_append {name : String} (hne : name ≠ "")
    (hplain : ∀ c ∈ name.toList, Text.isBlank c = false ∧ Arguments.isQuote c = false) :
    nameAsked? ("$dotenv " ++ name) = some name := by
  obtain ⟨c, s, hname⟩ : ∃ c s, name.toList = c :: s :=
    List.exists_cons_of_ne_nil (by simpa using hne)
  have htrim : Text.trim ("$dotenv " ++ name).toList = "$dotenv ".toList ++ name.toList := by
    rw [String.toList_append, Text.trim_eq_self_iff]
    refine ⟨fun d hd => ?_, fun d hd => ?_⟩
    · obtain rfl : '$' = d := by simpa using hd
      decide
    · have hlast : name.toList.getLast? = some d := by
        rw [← hd, List.getLast?_append, hname, List.getLast?_cons, Option.some_or]
      exact (hplain d (List.mem_of_getLast? hlast)).1
  have hsplit : Arguments.split ("dotenv ".toList ++ name.toList) =
      ["dotenv".toList, name.toList] := by
    have hquote : ∀ c ∈ "dotenv ".toList ++ name.toList, Arguments.isQuote c = false :=
      List.forall_mem_append.mpr ⟨Text.eq_false_of_any rfl, fun c hc => (hplain c hc).2⟩
    have hword : Text.words ("dotenv".toList ++ ' ' :: name.toList) =
        "dotenv".toList :: Text.words name.toList :=
      Text.words_append_cons (by decide) (Text.isBlank_eq_false_of_any rfl) rfl name.toList
    rw [Arguments.split_eq_words hquote]
    refine hword.trans (congrArg _ ?_)
    exact Text.words_eq_singleton (by simp [hname]) fun c hc => (hplain c hc).1
  have hbody : "$dotenv ".toList ++ name.toList = '$' :: ("dotenv ".toList ++ name.toList) := rfl
  rw [nameAsked?, htrim, hbody]
  simp only [hsplit]
  rw [String.ofList_toList]
  rfl

end Dotenv

namespace Generators

open Dotenv (tableAt? configured? isReadable entryIn nameAsked?)

variable (g : Generators) (w : World)

theorem readTables_eq :
    g.readTables w = (configured? g.dotenvDirectory w.files).toList ++
      (tableAt? w.files Dotenv.fileName).toList := by
  have hpaths : g.readTables w =
      ((g.dotenvDirectory.map fun d => Path.join d Dotenv.fileName).toList ++
        [Dotenv.fileName]).filterMap (tableAt? w.files) := by
    refine congrArg (List.filterMap · _) (funext fun path => ?_)
    rw [tableAt?]
    cases w.files.read path <;> rfl
  have hread : ∀ path, [path].filterMap (tableAt? w.files) = (tableAt? w.files path).toList := by
    intro path
    cases h : tableAt? w.files path <;> simp [h]
  rw [hpaths, List.filterMap_append, hread]
  cases g.dotenvDirectory with
  | none => rfl
  | some d => exact congrArg (· ++ _) (hread (Path.join d Dotenv.fileName))

theorem readTables_eq_nil_iff :
    g.readTables w = [] ↔ isReadable g.dotenvDirectory w.files = false := by
  rw [readTables_eq, isReadable]
  cases configured? g.dotenvDirectory w.files <;> cases tableAt? w.files Dotenv.fileName <;> simp

/-- The first table that has an entry is that of the configured directory, if it has one. -/
theorem findSome?_readTables (name : String) :
    (g.readTables w).findSome? (·.get? name) = entryIn g.dotenvDirectory w.files name := by
  rw [readTables_eq, entryIn, List.findSome?_append]
  cases configured? g.dotenvDirectory w.files <;> cases tableAt? w.files Dotenv.fileName <;> simp

variable {g}

theorem load_of_unreadable (hnone : g.tables = none)
    (h : isReadable g.dotenvDirectory w.files = false) : g.load w = g := by
  rw [load, hnone, (g.readTables_eq_nil_iff w).mpr h]

theorem load_of_isReadable (hnone : g.tables = none)
    (h : isReadable g.dotenvDirectory w.files = true) :
    g.load w = { g with tables := some (g.readTables w) } := by
  have hne : g.readTables w ≠ [] := by simp [readTables_eq_nil_iff, h]
  rw [load, hnone]
  cases hread : g.readTables w with
  | nil => contradiction
  | cons table tables => rfl

theorem load_of_tables {tables : List (Table String)} (h : g.tables = some tables) :
    g.load w = g := by
  rw [load, h]

/-- Generators without tables answer from the files as they are. -/
theorem dotenvEntry_load (hnone : g.tables = none) (name : String) :
    (g.load w).dotenvEntry name = entryIn g.dotenvDirectory w.files name := by
  rw [← findSome?_readTables]
  cases h : isReadable g.dotenvDirectory w.files with
  | false =>
      rw [load_of_unreadable w hnone h, (g.readTables_eq_nil_iff w).mpr h, dotenvEntry, hnone]
      rfl
  | true => rw [load_of_isReadable w hnone h, dotenvEntry, Option.getD_some]

theorem load_dotenvDirectory (g : Generators) : (g.load w).dotenvDirectory = g.dotenvDirectory := by
  unfold load
  repeat' split
  all_goals rfl

/-! ### Expressions -/

/-- A name other than that of the `.env` files changes at most the place in the random sequence. -/
theorem generate_snd (g : Generators) {name : String} (h : name ≠ "dotenv")
    (arguments : List (List Char)) :
    ∃ drawn, (g.generate w name arguments).2 = { g with drawn } := by
  unfold generate
  repeat' split
  all_goals first | exact ⟨_, rfl⟩ | contradiction

/-- An expression that asks for an entry. -/
theorem evaluate_of_nameAsked? (g : Generators) {expression name : String}
    (h : nameAsked? expression = some name) :
    g.evaluate w expression = ((g.load w).dotenvEntry name, g.load w) := by
  unfold nameAsked? at h
  split at h
  · rename_i body htrim
    split at h
    · rename_i word argument rest hsplit
      split at h
      · rename_i hword
        obtain rfl := Option.some.inj h
        simp only [evaluate, htrim, hsplit, hword]
        rfl
      · simp at h
    · simp at h
  · simp at h

/-- An expression that asks for no entry changes at most the place in the random sequence. -/
theorem evaluate_snd_of_nameAsked? (g : Generators) {expression : String}
    (h : nameAsked? expression = none) :
    ∃ drawn, (g.evaluate w expression).2 = { g with drawn } := by
  unfold evaluate
  split
  · rename_i body htrim
    split
    · exact ⟨g.drawn, rfl⟩
    · rename_i word arguments hsplit
      by_cases hword : String.ofList (Ascii.lower word) = "dotenv"
      · cases arguments with
        | nil =>
            rw [hword]
            exact ⟨g.drawn, rfl⟩
        | cons argument rest => simp [nameAsked?, htrim, hsplit, hword] at h
      · exact generate_snd w g hword arguments
  · exact ⟨g.drawn, rfl⟩

end Generators

namespace Dotenv

/-! ### Events -/

/-- What happens around the `.env` files. -/
inductive Event where
  /-- A file is written, named from the top of the tree. -/
  | write (path text : String)
  | remove (path : String)
  /-- The current directory becomes another one. -/
  | enter (directory : List String)
  | evaluate (expression : String)
  /-- The tables are forgotten. -/
  | forget
deriving DecidableEq

/-- The generators at a moment, and the world around them. -/
structure Moment where
  generators : Generators := {}
  world : World := {}

namespace Moment

/-- A moment with other files. -/
def withFiles (m : Moment) (files : Files) : Moment :=
  { m with world := { m.world with files } }

/-- The moment after an event. -/
def next (m : Moment) : Event → Moment
  | .write path text => m.withFiles (m.world.files.write path text)
  | .remove path => m.withFiles (m.world.files.remove path)
  | .enter directory => m.withFiles { m.world.files with current := directory }
  | .evaluate expression => { m with generators := (m.generators.evaluate m.world expression).2 }
  | .forget => { m with generators := m.generators.forgetTables }

/-- The moment after a number of events. -/
def after (m : Moment) (events : List Event) : Moment := events.foldl next m

/-- What an expression stands for. -/
def answer (m : Moment) (expression : String) : Option String :=
  (m.generators.evaluate m.world expression).1

/-- Whether an event asks for an entry while a file can be read. -/
def finds (m : Moment) : Event → Bool
  | .evaluate expression =>
    (nameAsked? expression).isSome && isReadable m.generators.dotenvDirectory m.world.files
  | _ => false

/-- Whether none of the events asks for an entry while a file can be read. -/
def findsNone (m : Moment) : List Event → Bool
  | [] => true
  | e :: events => !m.finds e && (m.next e).findsNone events

theorem after_append (m : Moment) (xs ys : List Event) :
    m.after (xs ++ ys) = (m.after xs).after ys :=
  List.foldl_append

theorem findsNone_append (m : Moment) (xs ys : List Event) :
    m.findsNone (xs ++ ys) = (m.findsNone xs && (m.after xs).findsNone ys) := by
  induction xs generalizing m with
  | nil => rfl
  | cons e xs ih =>
      rw [List.cons_append, findsNone, ih, findsNone, Bool.and_assoc]
      rfl

/-! ### One event -/

/-- An event forgets the tables, or asks for an entry and reads them if there are none, or changes
at most the place in the random sequence. -/
theorem next_generators (m : Moment) (e : Event) :
    (e = .forget ∧ (m.next e).generators = m.generators.forgetTables) ∨
      (∃ expression name, e = .evaluate expression ∧ nameAsked? expression = some name ∧
        (m.next e).generators = m.generators.load m.world) ∨
      ∃ drawn, (m.next e).generators = { m.generators with drawn } := by
  cases e with
  | evaluate expression =>
      cases hname : nameAsked? expression with
      | none => exact .inr (.inr (m.generators.evaluate_snd_of_nameAsked? m.world hname))
      | some name =>
          have heval := m.generators.evaluate_of_nameAsked? m.world hname
          exact .inr (.inl ⟨expression, name, rfl, hname, congrArg Prod.snd heval⟩)
  | forget => exact .inl ⟨rfl, rfl⟩
  | _ => exact .inr (.inr ⟨m.generators.drawn, rfl⟩)

theorem next_dotenvDirectory (m : Moment) (e : Event) :
    (m.next e).generators.dotenvDirectory = m.generators.dotenvDirectory := by
  obtain ⟨-, h⟩ | ⟨expression, name, -, -, h⟩ | ⟨drawn, h⟩ := m.next_generators e
  · rw [h]
    rfl
  · rw [h, Generators.load_dotenvDirectory]
  · rw [h]

/-- Without tables and without a file that is found, there are no tables. -/
theorem next_tables_of_finds {m : Moment} {e : Event} (hnone : m.generators.tables = none)
    (hfinds : m.finds e = false) : (m.next e).generators.tables = none := by
  obtain ⟨-, h⟩ | ⟨expression, name, rfl, hname, h⟩ | ⟨drawn, h⟩ := m.next_generators e
  · rw [h]
    rfl
  · have hunread : isReadable m.generators.dotenvDirectory m.world.files = false := by
      simpa [finds, hname] using hfinds
    rw [h, Generators.load_of_unreadable m.world hnone hunread, hnone]
  · rw [h, hnone]

/-- Tables are kept until they are forgotten. -/
theorem next_tables_of_tables {m : Moment} {e : Event} {tables : List (Table String)}
    (hsome : m.generators.tables = some tables) (hkept : e ≠ .forget) :
    (m.next e).generators.tables = some tables := by
  obtain ⟨rfl, -⟩ | ⟨expression, name, -, -, h⟩ | ⟨drawn, h⟩ := m.next_generators e
  · contradiction
  · rw [h, Generators.load_of_tables m.world hsome, hsome]
  · rw [h, hsome]

/-! ### Runs of events -/

theorem after_dotenvDirectory (m : Moment) (events : List Event) :
    (m.after events).generators.dotenvDirectory = m.generators.dotenvDirectory := by
  induction events generalizing m with
  | nil => rfl
  | cons e events ih => exact (ih (m.next e)).trans (m.next_dotenvDirectory e)

theorem after_tables_of_findsNone {m : Moment} {events : List Event}
    (hnone : m.generators.tables = none) (h : m.findsNone events = true) :
    (m.after events).generators.tables = none := by
  induction events generalizing m with
  | nil => exact hnone
  | cons e events ih =>
      rw [findsNone, Bool.and_eq_true, Bool.not_eq_true'] at h
      exact ih (next_tables_of_finds hnone h.1) h.2

theorem after_tables_of_tables {m : Moment} {events : List Event} {tables : List (Table String)}
    (h : m.generators.tables = some tables) (hkept : .forget ∉ events) :
    (m.after events).generators.tables = some tables := by
  induction events generalizing m with
  | nil => exact h
  | cons e events ih =>
      rw [List.mem_cons, not_or] at hkept
      exact ih (next_tables_of_tables h (Ne.symm hkept.1)) hkept.2

/-! ### Answers -/

section Answers

variable {m : Moment} {expression name : String}

/-- An answer is the entry by the tables that are kept. -/
theorem answer_eq_dotenvEntry (hname : nameAsked? expression = some name) :
    m.answer expression = (m.next (.evaluate expression)).generators.dotenvEntry name := by
  simp only [answer, next, m.generators.evaluate_of_nameAsked? m.world hname]

theorem answer_of_tables {tables : List (Table String)} (h : m.generators.tables = some tables)
    (hname : nameAsked? expression = some name) :
    m.answer expression = tables.findSome? (·.get? name) := by
  have hnext := next_tables_of_tables h (nofun : Event.evaluate expression ≠ .forget)
  rw [answer_eq_dotenvEntry hname, Generators.dotenvEntry, hnext, Option.getD_some]

theorem answer_of_tables_eq_none (h : m.generators.tables = none)
    (hname : nameAsked? expression = some name) :
    m.answer expression = entryIn m.generators.dotenvDirectory m.world.files name := by
  simp only [answer, m.generators.evaluate_of_nameAsked? m.world hname]
  exact Generators.dotenvEntry_load m.world h name

/-- An evaluation that finds a file keeps the tables as they are then. -/
theorem next_tables_of_isReadable (h : m.generators.tables = none)
    (hname : nameAsked? expression = some name)
    (hread : isReadable m.generators.dotenvDirectory m.world.files = true) :
    (m.next (.evaluate expression)).generators.tables =
      some (m.generators.readTables m.world) := by
  rw [next, m.generators.evaluate_of_nameAsked? m.world hname,
    Generators.load_of_isReadable m.world h hread]

/-- What was answered once is answered until the tables are forgotten. -/
theorem answer_after_of_answer {expression' value : String} {later : List Event}
    (hname : nameAsked? expression = some name) (hname' : nameAsked? expression' = some name)
    (hkept : .forget ∉ later) (h : m.answer expression = some value) :
    (m.after (.evaluate expression :: later)).answer expression' = some value := by
  rw [answer_eq_dotenvEntry hname] at h
  cases htables : (m.next (.evaluate expression)).generators.tables with
  | none => simp [Generators.dotenvEntry, htables] at h
  | some tables =>
      have hafter := after_tables_of_tables htables hkept
      refine (answer_of_tables hafter hname').trans ?_
      rw [← h, Generators.dotenvEntry, htables, Option.getD_some]

end Answers

/-! ### Stretches -/

/-- `Snapshot directory m`: what is answered from `m` on until the tables are forgotten, with `.env`
files in a configured directory and in the current one. -/
structure Snapshot (directory : Option String) (m : Moment) : Prop where
  /-- Before a file is found nothing is answered. -/
  before : ∀ front expression name, nameAsked? expression = some name →
    m.findsNone (front ++ [.evaluate expression]) = true → (m.after front).answer expression = none
  /-- The first evaluation that finds one answers by the files as they are. -/
  first : ∀ front expression name, nameAsked? expression = some name →
    m.findsNone front = true →
    (m.after front).answer expression = entryIn directory (m.after front).world.files name
  /-- All the later ones answer by the files as they were then. -/
  later : ∀ front first events expression name, nameAsked? expression = some name →
    m.findsNone front = true → (m.after front).finds (.evaluate first) = true →
    .forget ∉ events →
    (m.after (front ++ .evaluate first :: events)).answer expression =
      entryIn directory (m.after front).world.files name
  /-- What is answered for a name stays what is answered for it. -/
  lasting : ∀ front first events expression name value, nameAsked? first = some name →
    nameAsked? expression = some name → .forget ∉ events →
    (m.after front).answer first = some value →
    (m.after (front ++ .evaluate first :: events)).answer expression = some value

/-- **A stretch** begins with generators that have no tables. -/
theorem snapshot_of_tables {directory : Option String} {m : Moment}
    (hdirectory : m.generators.dotenvDirectory = directory) (hnone : m.generators.tables = none) :
    Snapshot directory m where
  before front expression name hname h := by
    rw [findsNone_append, Bool.and_eq_true] at h
    have htables := after_tables_of_findsNone hnone h.1
    have hunread : isReadable (m.after front).generators.dotenvDirectory
        (m.after front).world.files = false := by
      simpa [findsNone, finds, hname] using h.2
    rw [answer_of_tables_eq_none htables hname, entryIn_of_unreadable hunread]
  first front expression name hname h := by
    have htables := after_tables_of_findsNone hnone h
    rw [answer_of_tables_eq_none htables hname, after_dotenvDirectory, hdirectory]
  later front first events expression name hname h hfinds hkept := by
    have htables := after_tables_of_findsNone hnone h
    simp only [finds, Bool.and_eq_true, Option.isSome_iff_exists] at hfinds
    obtain ⟨⟨name', hname'⟩, hread⟩ := hfinds
    have hafter := after_tables_of_tables (next_tables_of_isReadable htables hname' hread) hkept
    rw [after_append]
    refine (answer_of_tables hafter hname).trans ?_
    rw [Generators.findSome?_readTables, after_dotenvDirectory, hdirectory]
  lasting front first events expression name value hname hname' hkept h := by
    rw [after_append]
    exact answer_after_of_answer hname hname' hkept h

end Moment

/-- **Snapshot**: from the start on, and from each moment on at which the tables are forgotten,
nothing is answered before the first evaluation that finds a file, and from it on all answers are
the entries by the files of that moment, until the tables are forgotten. -/
theorem dotenv_snapshot (directory : Option String) (w : World) :
    let start : Moment := ⟨{ dotenvDirectory := directory }, w⟩
    Moment.Snapshot directory start ∧
      (∀ past, Moment.Snapshot directory (start.after (past ++ [.forget]))) ∧
      ∀ name, name ≠ "" →
        (∀ c ∈ name.toList, Text.isBlank c = false ∧ Arguments.isQuote c = false) →
        nameAsked? ("$dotenv " ++ name) = some name := by
  intro start
  refine ⟨Moment.snapshot_of_tables rfl rfl, fun past => Moment.snapshot_of_tables ?_ ?_,
    fun name => nameAsked?_append⟩
  · exact start.after_dotenvDirectory (past ++ [.forget])
  · rw [Moment.after_append]
    rfl

/-- A file that is there late and changed later. -/
theorem dotenv_snapshot_late :
    let start : Moment := ⟨{ dotenvDirectory := some "conf" }, {}⟩
    let early : Event := .evaluate "$dotenv A"
    let front : List Event := [early, .write "conf/.env" "A=1", .write ".env" "A=2\nB=3"]
    let events : List Event :=
      [.write "conf/.env" "A=4", .remove ".env", .evaluate "$dotenv C", .enter ["other"]]
    start.answer "$dotenv A" = none ∧
      (start.after (front ++ .evaluate "$dotenv A" :: events)).answer "$dotenv B" = some "3" ∧
      (start.after (front ++ .evaluate "$dotenv A" :: events)).answer "$dotenv A" = some "1" := by
  intro start early front events
  have hname : nameAsked? "$dotenv A" = some "A" := by decide +kernel
  have h := (dotenv_snapshot (some "conf") {}).1
  refine ⟨h.before [] _ _ hname (by decide +kernel), ?_, ?_⟩
  · refine (h.later front "$dotenv A" events "$dotenv B" "B" (by decide +kernel) (by decide +kernel)
      (by decide +kernel) (by decide)).trans (by decide +kernel)
  · refine h.lasting front "$dotenv A" events "$dotenv A" "A" "1" hname hname (by decide) ?_
    rw [h.first front _ _ hname (by decide +kernel)]
    decide +kernel

end Dotenv

end HttpSuite
