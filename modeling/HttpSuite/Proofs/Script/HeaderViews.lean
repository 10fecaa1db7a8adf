/-
HttpSuite/Proofs/Script/HeaderViews.lean

The headers of a response, seen from several sides.  A response keeps its headers in a list, in which
a name may stand more than once.  Of the headers of one name

    the first is shown    by the name itself, by the reference `{{id.response.headers.name}}` and by
                          `response.headers.valueOf("name")` in a script
    the last is shown     in the JSON object of all headers, for which the reference
                          `{{id.response.headers}}` stands, and by `response.headers["name"]` in a
                          script, unless a function of the object has this name

Main result: all sides show one value exactly when the first and the last header of the name have
the same value and no function has this name (`exists_showsHeader_iff`).
-/
import HttpSuite.Proofs.Script.ResponseObject
import HttpSuite.Proofs.Variables.Reference

namespace HttpSuite

open Script (Engine Expr)
open Script.Library (withClient withResponse ground)

/-! ### First and last -/

/-- What a name finds is the first of all values that it has. -/
theorem Headers.find?_eq_head? (headers : Headers) (name : String) :
    headers.find? name = (headers.findAll name).head? := by
  rw [Headers.find?, Headers.findAll, List.head?_map, List.head?_filter]

/-- Among entries without names of another case, the look-up by the name as it is written finds the
first value, too. -/
theorem Headers.tableFind?_eq_head? {headers : Headers} {name : String}
    (hcase : ∀ e ∈ headers, Ascii.sameName e.1 name = true → e.1 = name) :
    Table.find? name headers = (headers.findAll name).head? := by
  induction headers with
  | nil => rfl
  | cons e rest ih =>
      have hrest := ih fun e' he' => hcase e' (List.mem_cons_of_mem e he')
      by_cases hname : e.1 = name
      · have hsame : Ascii.sameName e.1 name = true := by rw [hname, Ascii.sameName_refl]
        simp [Table.find?, Headers.findAll, hname, Ascii.sameName_refl]
      · have hother : Ascii.sameName e.1 name = false := by
          rw [← Bool.not_eq_true]
          exact fun hsame => hname (hcase e List.mem_cons_self hsame)
        rw [Table.find?, if_neg (Ne.symm hname), hrest, Headers.findAll, Headers.findAll,
          List.filter_cons, hother]
        rfl

/-- The last entry of a name has the last of its values. -/
theorem Headers.tableFind?_reverse {headers : Headers} {name : String}
    (hcase : ∀ e ∈ headers, Ascii.sameName e.1 name = true → e.1 = name) :
    Table.find? name headers.reverse = (headers.findAll name).getLast? := by
  have hreverse : Headers.findAll headers.reverse name = (headers.findAll name).reverse := by
    rw [Headers.findAll, Headers.findAll, List.filter_reverse, List.map_reverse]
  rw [Headers.tableFind?_eq_head? fun e he => hcase e (List.mem_reverse.mp he), hreverse,
    List.head?_reverse]

namespace ResponseRecord

variable {r : ResponseRecord} {name : String}

/-- In the JSON object of the headers a name has the value of its last header. -/
theorem get?_headersJson (hcase : ∀ e ∈ r.headers, Ascii.sameName e.1 name = true → e.1 = name) :
    r.headersJson.get? name = (r.headers.findAll name).getLast?.map .string := by
  rw [Script.Library.headersJson_eq, Json.get?, Table.find?_map, ← Headers.tableFind?_reverse hcase]
  have hentry := Table.get?_insertAll ∅ r.headers name
  rw [Table.get?_empty, Option.or_none] at hentry
  rw [← hentry]
  rfl

/-! ### All sides -/

/-- A value is what all sides show for the name of a header. -/
structure ShowsHeader (r : ResponseRecord) (name v : String) : Prop where
  header : r.headers.find? name = some v
  member : r.headersJson.get? name = some (.string v)
  reference : ∀ (responses : NamedResponses) (id : String), responses.get? id = some r →
    ¬ ".response".toList <:+: id.toList →
      responses.resolve (id ++ ".response." ++ "headers") = some r.headersJson.compact ∧
      responses.resolve (id ++ ".response." ++ ("headers." ++ name)) = some v
  script : ∀ (m : Engine) (scope : Nat),
    m.HasResponse (withClient ground) r scope →
      m.Evaluates (Engine.headerEntry name) scope (.string v) ∧
      m.Evaluates (Engine.headerCall name) scope (.string v)

/-- **Headers from several sides**: for a name in the list of the headers, of which no other one
differs only in the case of letters, all sides show one value if and only if the first and the last
header of the name have the same value, and the name is not that of a function of the object that
scripts see. -/
theorem exists_showsHeader_iff (hmem : ∃ e ∈ r.headers, e.1 = name)
    (hcase : ∀ e ∈ r.headers, Ascii.sameName e.1 name = true → e.1 = name) :
    (∃ v, r.ShowsHeader name v) ↔
      (r.headers.findAll name).head? = (r.headers.findAll name).getLast? ∧
        name ≠ "valueOf" ∧ name ≠ "valuesOf" := by
  have hfirst := Headers.find?_eq_head? r.headers name
  have hlast := get?_headersJson hcase
  have hfields := Script.Library.find?_headerFields (withClient ground) r name
  rw [Headers.tableFind?_reverse hcase] at hfields
  constructor
  · rintro ⟨v, hshows⟩
    refine ⟨?_, ?_⟩
    · rw [← hfirst, hshows.header]
      rw [hshows.member] at hlast
      obtain ⟨w, hw, heq⟩ := Option.map_eq_some_iff.mp hlast.symm
      rw [hw, Json.string.inj heq]
    · -- in a machine in which nothing waits, the entry would be a function as well
      obtain ⟨m, hm, hstack, hjobs⟩ := Engine.exists_hasResponse (withClient ground) r
      have hstring := (hshows.script m 0 hm).1
      constructor
      · rintro rfl
        have hobject := Engine.evaluates_headerEntry hm hfields
        cases Engine.Evaluates.unique hstack hjobs hstring hobject
      · rintro rfl
        have hobject := Engine.evaluates_headerEntry hm hfields
        cases Engine.Evaluates.unique hstack hjobs hstring hobject
  · rintro ⟨hsame, hone, hall⟩
    obtain ⟨v, hv⟩ : ∃ v, (r.headers.findAll name).head? = some v := by
      obtain ⟨e, he, rfl⟩ := hmem
      refine Option.ne_none_iff_exists'.mp fun hnone => ?_
      rw [List.head?_eq_none_iff] at hnone
      have hvalue : e.2 ∈ r.headers.findAll e.1 := List.mem_map.mpr
        ⟨e, List.mem_filter.mpr ⟨he, Ascii.sameName_refl e.1⟩, rfl⟩
      rw [hnone] at hvalue
      exact List.not_mem_nil hvalue
    rw [hv] at hfirst hsame
    rw [← hsame] at hlast hfields
    rw [if_neg hall, if_neg hone] at hfields
    refine ⟨v, hfirst, hlast, fun responses id hid hmark => ⟨?_, ?_⟩, fun m scope hm => ⟨?_, ?_⟩⟩
    · rw [NamedResponses.resolve_append responses hmark, hid]
      exact lookup_headers r
    · rw [NamedResponses.resolve_append responses hmark, hid]
      exact (lookup_header r name).trans hfirst
    · exact Engine.evaluates_headerEntry hm hfields
    · have hcall := Engine.evaluates_headerCall hm name
      rwa [hfirst] at hcall

/-- A name that stands twice with one value. -/
theorem exists_showsHeader_twice :
    let r : ResponseRecord := ⟨200, "OK", [("Vary", "*"), ("Age", "1"), ("Vary", "*")], .text ""⟩
    ((∃ e ∈ r.headers, e.1 = "Vary") ∧
      ∀ e ∈ r.headers, Ascii.sameName e.1 "Vary" = true → e.1 = "Vary") ∧
    ∃ v, r.ShowsHeader "Vary" v := by
  intro r
  have hmem : ∃ e ∈ r.headers, e.1 = "Vary" := ⟨("Vary", "*"), List.mem_cons_self, rfl⟩
  have hcase : ∀ e ∈ r.headers, Ascii.sameName e.1 "Vary" = true → e.1 = "Vary" := by decide
  have hvalues : r.headers.findAll "Vary" = ["*", "*"] := by decide
  refine ⟨⟨hmem, hcase⟩, (exists_showsHeader_iff hmem hcase).mpr ⟨?_, by decide, by decide⟩⟩
  rw [hvalues]
  rfl

/-- Two cookies: the name finds the first one, and the JSON object of the headers holds the last. -/
theorem headersJson_cookies :
    let r : ResponseRecord := ⟨200, "OK", [("Set-Cookie", "a=1"), ("Set-Cookie", "b=2")], .text ""⟩
    (∀ e ∈ r.headers, Ascii.sameName e.1 "Set-Cookie" = true → e.1 = "Set-Cookie") ∧
      r.headersJson.get? "Set-Cookie" = some (.string "b=2") ∧
      r.lookup "headers" = some "\x7b\"Set-Cookie\":\"b=2\"\x7d" ∧
      r.headers.find? "Set-Cookie" = some "a=1" ∧
      r.lookup "headers.Set-Cookie" = some "a=1" := by
  intro r
  have hcase : ∀ e ∈ r.headers, Ascii.sameName e.1 "Set-Cookie" = true → e.1 = "Set-Cookie" := by
    decide
  have hvalues : r.headers.findAll "Set-Cookie" = ["a=1", "b=2"] := by decide
  have hmember : r.headersJson.get? "Set-Cookie" = some (.string "b=2") := by
    rw [get?_headersJson hcase, hvalues]
    rfl
  have hheader : r.headers.find? "Set-Cookie" = some "a=1" := by
    rw [Headers.find?_eq_head?, hvalues]
    rfl
  refine ⟨hcase, hmember, ?_, hheader, (lookup_header r "Set-Cookie").trans hheader⟩
  rw [lookup_headers]
  decide +kernel

end ResponseRecord

end HttpSuite
