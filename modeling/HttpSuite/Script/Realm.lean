/-
HttpSuite/Script/Realm.lean

The objects that are there before a script starts: the library, and the objects that speak for what
is around the script.
-/
import HttpSuite.Script.Freeze
import HttpSuite.Script.Machine

namespace HttpSuite.Script

namespace Library

/-! ### Tables -/

/-- Methods of plain objects. -/
def objectMethods : List (String × Builtin) :=
  [("hasOwnProperty", .object .hasOwnProperty), ("isPrototypeOf", .object .isPrototypeOf),
    ("toString", .object .toText), ("toLocaleString", .object .toText),
    ("valueOf", .object .valueOf)]

/-- Methods of functions. -/
def functionMethods : List (String × Builtin) :=
  [("call", .other .call), ("apply", .other .apply), ("bind", .other .bind),
    ("toString", .other .functionToText)]

/-- Methods of arrays. -/
def arrayMethods : List (String × Builtin) :=
  [("at", .array .at), ("concat", .array .concat), ("every", .array .every),
    ("fill", .array .fill), ("filter", .array .filter), ("find", .array .find),
    ("findIndex", .array .findIndex), ("findLast", .array .findLast),
    ("findLastIndex", .array .findLastIndex), ("flat", .array .flat),
    ("flatMap", .array .flatMap), ("forEach", .array .forEach), ("includes", .array .includes),
    ("indexOf", .array .indexOf), ("join", .array .join), ("lastIndexOf", .array .lastIndexOf),
    ("map", .array .map), ("pop", .array .pop), ("push", .array .push),
    ("reduce", .array .reduce), ("reduceRight", .array .reduceRight),
    ("reverse", .array .reverse), ("shift", .array .shift), ("slice", .array .slice),
    ("some", .array .some), ("sort", .array .sort), ("splice", .array .splice),
    ("toString", .array .toText), ("unshift", .array .unshift)]

/-- Methods of texts. -/
def textMethods : List (String × Builtin) :=
  [("at", .string .at), ("charAt", .string .charAt), ("charCodeAt", .string .charCodeAt),
    ("codePointAt", .string .codePointAt), ("concat", .string .concat),
    ("endsWith", .string .endsWith), ("includes", .string .includes),
    ("indexOf", .string .indexOf), ("lastIndexOf", .string .lastIndexOf),
    ("padEnd", .string .padEnd), ("padStart", .string .padStart), ("repeat", .string .repeat),
    ("replace", .string .replace), ("replaceAll", .string .replaceAll),
    ("slice", .string .slice), ("split", .string .split), ("startsWith", .string .startsWith),
    ("substr", .string .substr), ("substring", .string .substring),
    ("toLowerCase", .string .toLowerCase), ("toLocaleLowerCase", .string .toLowerCase),
    ("toString", .string .toText), ("toUpperCase", .string .toUpperCase),
    ("toLocaleUpperCase", .string .toUpperCase), ("trim", .string .trim),
    ("trimEnd", .string .trimEnd), ("trimStart", .string .trimStart),
    ("valueOf", .string .toText)]

/-- Methods of numbers. -/
def numberMethods : List (String × Builtin) :=
  [("toFixed", .number .toFixed), ("toString", .number .toText), ("valueOf", .number .valueOf)]

/-- Methods of truth values. -/
def booleanMethods : List (String × Builtin) :=
  [("toString", .number .booleanToText), ("valueOf", .number .valueOf)]

/-- Methods of promises. -/
def promiseMethods : List (String × Builtin) :=
  [("then", .promise .then), ("catch", .promise .catch), ("finally", .promise .finally)]

/-- A constructor with the object that its objects inherit from and its own functions. -/
structure Constructor where
  name : String
  builtin : Builtin
  objects : Ref
  functions : List (String × Builtin) := []

/-- The constructors. -/
def constructors : List Constructor :=
  [⟨"Object", .object .constructor, objects,
      [("assign", .object .assign), ("create", .object .create), ("entries", .object .entries),
        ("freeze", .object .freeze), ("fromEntries", .object .fromEntries),
        ("getOwnPropertyNames", .object .getOwnPropertyNames),
        ("getPrototypeOf", .object .getPrototypeOf), ("hasOwn", .object .hasOwn),
        ("is", .object .is), ("isExtensible", .object .isExtensible),
        ("isFrozen", .object .isFrozen), ("isSealed", .object .isClosed),
        ("keys", .object .keys), ("preventExtensions", .object .preventExtensions),
        ("seal", .object .close), ("values", .object .values)]⟩,
    ⟨"Function", .other .functionConstructor, functions, []⟩,
    ⟨"Array", .array .constructor, arrays,
      [("from", .array .fromList), ("isArray", .array .isArray), ("of", .array .of)]⟩,
    ⟨"String", .string .constructor, strings, [("fromCharCode", .string .fromCharCode)]⟩,
    ⟨"Number", .number .constructor, numbers,
      [("isFinite", .number .isFinite), ("isInteger", .number .isInteger),
        ("isNaN", .number .isNaN), ("isSafeInteger", .number .isSafeInteger),
        ("parseFloat", .number .parseFloat), ("parseInt", .number .parseInt)]⟩,
    ⟨"Boolean", .number .boolean, booleans, []⟩,
    ⟨"Promise", .promise .constructor, promises,
      [("all", .promise (.gather .all)), ("allSettled", .promise (.gather .allSettled)),
        ("any", .promise (.gather .any)), ("race", .promise (.gather .race)),
        ("reject", .promise .reject), ("resolve", .promise .resolve)]⟩] ++
    ErrorKind.all.map fun k => ⟨k.name, .other (.errorConstructor k), errors k, []⟩

/-- Functions of mathematics. -/
def mathFunctions : List (String × Builtin) :=
  [("abs", .math .abs), ("ceil", .math .ceil), ("floor", .math .floor), ("max", .math .max),
    ("min", .math .min), ("pow", .math .pow), ("random", .math .random),
    ("round", .math .round), ("sign", .math .sign), ("sqrt", .math .sqrt),
    ("trunc", .math .trunc)]

/-- Functions on JSON texts. -/
def jsonFunctions : List (String × Builtin) :=
  [("parse", .other .jsonParse), ("stringify", .other .jsonStringify)]

/-- Functions with global names. -/
def globalFunctions : List (String × Builtin) :=
  [("parseInt", .number .parseInt), ("parseFloat", .number .parseFloat),
    ("isNaN", .number .globalIsNaN), ("isFinite", .number .globalIsFinite),
    ("encodeURIComponent", .other .encodeComponent),
    ("decodeURIComponent", .other .decodeComponent)]

/-- Global names that cannot be given another value. -/
def globalConstants : List (String × Value) :=
  [("NaN", .number .nan), ("Infinity", .number (.infinite false)), ("undefined", .undefined)]

/-! ### Building -/

/-- Gives an object a function of the library, not listed. -/
def addMethod (r : Ref) (h : Heap) (m : String × Builtin) : Heap :=
  let (v, h) := h.makeBuiltin m.1 m.2
  h.putHidden r m.1 v

/-- Gives an object functions of the library, listed. -/
def addFields (h : Heap) : List (String × Builtin) → List (String × Value) × Heap
  | [] => ([], h)
  | (k, b) :: rest =>
    let (v, h) := h.makeBuiltin k b
    let (l, h) := addFields h rest
    ((k, v) :: l, h)

/-- Adds a constructor with its functions, and its global name. -/
def addConstructor (h : Heap) (c : Constructor) : Heap :=
  let (i, h) := h.allocate
    { parent := some functions
      slots := [("name", ⟨.string c.name, false, false, true⟩),
        ("prototype", ⟨.object c.objects, false, false, false⟩)]
      kind := .builtin c.builtin }
  let h := c.functions.foldl (addMethod (.cell i)) h
  let h := h.putHidden c.objects "constructor" (.object (.cell i))
  h.putHidden global c.name (.object (.cell i))

/-- Adds an object with functions, and its global name. -/
def addNamespace (h : Heap) (name : String) (l : List (String × Builtin)) : Heap :=
  let (i, h) := h.allocate { parent := some objects }
  (l.foldl (addMethod (.cell i)) h).putHidden global name (.object (.cell i))

/-- The objects at the fixed places. -/
def places : Array Object :=
  let child : Object := { parent := some objects }
  let error (k : ErrorKind) : Object :=
    { parent := some (if k = .error then objects else errors .error)
      slots := [("name", ⟨.string k.name, true, false, true⟩),
        ("message", ⟨.string "", true, false, true⟩)] }
  #[child, {}, child, { child with kind := .array #[] true }, child, child, child, child] ++
    (ErrorKind.all.map error).toArray

/-- The library. -/
def ground : Heap :=
  let h : Heap := { cells := places }
  let h := objectMethods.foldl (addMethod objects) h
  let h := functionMethods.foldl (addMethod functions) h
  let h := arrayMethods.foldl (addMethod arrays) h
  let h := textMethods.foldl (addMethod strings) h
  let h := numberMethods.foldl (addMethod numbers) h
  let h := booleanMethods.foldl (addMethod booleans) h
  let h := promiseMethods.foldl (addMethod promises) h
  let h := addMethod (errors .error) h ("toString", .other .errorToText)
  let h := constructors.foldl addConstructor h
  let h := addNamespace h "JSON" jsonFunctions
  let h := addNamespace h "Math" mathFunctions
  let h := globalFunctions.foldl (addMethod global) h
  let h := h.modify global fun o =>
    { o with
      slots := o.slots ++ globalConstants.map fun (k, v) => (k, ⟨v, false, false, false⟩) }
  h.putHidden global "globalThis" (.object global)

/-! ### What speaks for the surroundings -/

/-- Functions on the global store. -/
def storeFunctions : List (String × Builtin) :=
  [("get", .host .globalGet), ("set", .host .globalSet), ("clear", .host .globalClear),
    ("clearAll", .host .globalClearAll)]

/-- Functions of the client. -/
def clientFunctions : List (String × Builtin) :=
  [("log", .host .log), ("test", .host .test), ("assert", .host .assert)]

/-- Functions on the variables of a request. -/
def variableFunctions : List (String × Builtin) :=
  [("get", .host .variableGet), ("set", .host .variableSet)]

/-- Gives a global name a value, listed. -/
def addGlobal (h : Heap) (name : String) (v : Value) : Heap :=
  h.modify global (·.put name v)

/-- The library with the client. -/
def withClient (h : Heap) : Heap :=
  let (fields, h) := addFields h clientFunctions
  let (stores, h) := addFields h storeFunctions
  let (store, h) := h.makePlain stores
  let (client, h) := h.makePlain (fields ++ [("global", store)])
  let h := addGlobal h "client" client
  let (path, h) := h.makeBuiltin "jsonPath" (.host .jsonPath)
  addGlobal h "jsonPath" path

/-- The library with a request. -/
def withRequest (h : Heap) : Heap :=
  let (fields, h) := addFields h variableFunctions
  let (vars, h) := h.makePlain fields
  let (request, h) := h.makePlain [("variables", vars)]
  addGlobal h "request" request

/-- The library with a response that is not frozen yet, and the place of the response. Of the objects
that belong to a response only the two functions that look headers up lie in cells. -/
def draftResponse (h : Heap) (r : ResponseRecord) : Heap × Ref :=
  let (one, h) := h.makeBuiltin "" (.host (.headerValue r.headers))
  let (all, h) := h.makeBuiltin "" (.host (.headerValues r.headers))
  let (mime, charset) := (r.contentType).getD ("", none)
  let (body, given) := Given.ofDatum #[] (Datum.ofJson r.body.toJson)
  let (kind, given) := Given.add given
    (Given.plain
      [("charset", (charset.map Value.string).getD .null), ("mimeType", .string mime)])
  let members :=
    match Datum.ofJson r.headersJson with
    | .object l => l
    | _ => []
  let (headers, given) := Given.ofMembers given members
  let (headers, given) := Given.add given
    (Given.plain (headers ++ [("valueOf", one), ("valuesOf", all)]))
  let response := Given.plain
    [("body", body), ("contentType", kind), ("headers", headers),
      ("status", .ofInt r.status), ("statusText", .string r.statusText)]
  ({ h with given := given.push response }, .given given.size)

/-- The library with a response, which is frozen with all that lies within it. -/
def withResponse (h : Heap) (r : ResponseRecord) : Heap :=
  let (h, response) := draftResponse h r
  addGlobal (h.deepFreeze h.given.size response) "response" (.object response)

end Library

namespace Engine

/-- The state in which a script starts. -/
def start (heap : Heap) (body : List Stmt) :
    Engine :=
  let vars := varNamesOfAll body
  let heap := vars.foldl (fun h x =>
    match h.slot? Library.global x with
    | some _ => h
    | none => h.modify Library.global (·.put x .undefined)) heap
  let scope : Scope :=
    { bindings := (body.flatMap Stmt.lexicalNames).map fun (x, constant) => (x, ⟨none, constant⟩)
      activation := some ⟨some (.object Library.global), none, none⟩ }
  let m : Engine := { heap, scopes := #[scope] }
  ((m.declareFunctions 0 (declaredFunctions body)).push (.statements body 0)).finish

end Engine

end HttpSuite.Script
