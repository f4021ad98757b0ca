import EndpointIndex.Endpoint.Basic
import EndpointIndex.Json.Checked

/-!
# Stored endpoints

Endpoints as JSON records. Main fact: what is written reads back as it was (`ofJson_toJson`).
-/

namespace EndpointIndex.Endpoint

open Json

/-- The verb is one of the nine words, in capitals. -/
def checkVerb : Json → Checked Verb
  | .string s =>
    match Verb.ofName? s with
    | some v => .ok v
    | none => .misfit .unknownWord
  | _ => .misfit .unknownWord

/-- The fields in the order of their declaration. Route, type, method and file must be given. -/
def fields (r : Json) : Checked Endpoint :=
  Endpoint.mk
    <$> required ⟨"fullPath", "full_path"⟩ checkString r
    <*> withDefault ⟨"rawPath", "raw_path"⟩ "" checkString r
    <*> withDefault ⟨"originalClassPath", "original_class_path"⟩ "" checkString r
    <*> withDefault ⟨"originalMethodPath", "original_method_path"⟩ "" checkString r
    <*> withDefault ⟨"httpMethod", "http_method"⟩ Verb.any checkVerb r
    <*> required ⟨"className", "class_name"⟩ checkString r
    <*> required ⟨"methodName", "method_name"⟩ checkString r
    <*> required ⟨"filePath", "file_path"⟩ checkString r
    <*> withDefault ⟨"startLine", "start_line"⟩ 1 checkInt r
    <*> withDefault ⟨"startColumn", "start_column"⟩ 1 checkInt r
    <*> withDefault ⟨"endLine", "end_line"⟩ 1 checkInt r
    <*> withDefault ⟨"endColumn", "end_column"⟩ 1 checkInt r

def ofJson : Json → Checked Endpoint := checkRecord fields

def toJson (e : Endpoint) : Json :=
  .object
    [("fullPath", .string e.fullPath), ("rawPath", .string e.rawPath),
     ("originalClassPath", .string e.typePath), ("originalMethodPath", .string e.methodPath),
     ("httpMethod", .string e.verb.name), ("className", .string e.typeName),
     ("methodName", .string e.methodName), ("filePath", .string e.file),
     ("startLine", .int e.startLine), ("startColumn", .int e.startColumn),
     ("endLine", .int e.endLine), ("endColumn", .int e.endColumn)]

theorem checkVerb_name (v : Verb) : checkVerb (.string v.name) = .ok v := by
  simp [checkVerb, Verb.ofName?_name]

theorem ofJson_toJson (e : Endpoint) : ofJson e.toJson = .ok e := by
  simp [ofJson, toJson, checkRecord, fields, required, withDefault, Key.find?, member?, checkString,
    checkInt, checkVerb_name]

end EndpointIndex.Endpoint
