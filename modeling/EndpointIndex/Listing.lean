import EndpointIndex.Console.Table
import EndpointIndex.Endpoint.Stored
import EndpointIndex.Json.Writer
import EndpointIndex.Path
import EndpointIndex.Text.Case
import EndpointIndex.Text.Occurs

/-!
# Listings

Endpoints filtered, put in order, cut to a limit and laid out as a table or as JSON. The order is by
route, then verb, then file, then line; endpoints that agree in all of them keep their order.
-/

namespace EndpointIndex.Listing

/-! ## Choosing rows -/

structure Filter where
  verb : Option String
  /-- A part of the route. -/
  pathPart : Option String
  /-- A part of the type's name; case does not matter. -/
  typePart : Option String
  deriving DecidableEq, Repr

/-- A filter that is empty, or not given, admits everything. -/
def passes (given : Option String) (test : String → Bool) : Bool :=
  match given with
  | none => true
  | some text => text.isEmpty || test text

def Filter.admits (f : Filter) (e : Endpoint) : Bool :=
  passes f.verb (fun v => e.verb.name == Text.upper v)
    && passes f.pathPart (fun p => Text.contains e.fullPath p)
    && passes f.typePart (fun t => Text.contains (Text.lower e.typeName) (Text.lower t))

/-- Whether one endpoint may be listed before another. -/
def precedes (a b : Endpoint) : Bool :=
  if a.fullPath ≠ b.fullPath then a.fullPath < b.fullPath
  else if a.verb.name ≠ b.verb.name then a.verb.name < b.verb.name
  else if a.file ≠ b.file then a.file < b.file
  else a.startLine ≤ b.startLine

def select (f : Filter) (endpoints : List Endpoint) : List Endpoint :=
  (endpoints.filter f.admits).mergeSort precedes

/-- The first rows; a limit below zero leaves out as many at the end. -/
def cut {α : Type} (limit : Int) (rows : List α) : List α :=
  if 0 ≤ limit then rows.take limit.toNat else rows.take (rows.length + limit).toNat

theorem cut_isPrefix {α : Type} (limit : Int) (rows : List α) : cut limit rows <+: rows := by
  unfold cut
  split
  · exact List.take_prefix _ _
  · exact List.take_prefix _ _

/-! ## Layout -/

inductive Format where
  | table
  | json
  deriving DecidableEq, Repr

def Format.ofText? (text : String) : Option Format :=
  match Text.strip (Text.lower text) with
  | "table" => some .table
  | "json" => some .json
  | _ => none

/-- A file as it is shown: below the root without it. -/
def shownFile (root : Path) (file : String) : String :=
  match (Path.ofString file).below? root with
  | some p => p.toString
  | none => file

/-- The file and line where an endpoint stands. -/
def place (root : Path) (e : Endpoint) : String :=
  shownFile root e.file ++ ":" ++ String.ofList (Json.intChars e.startLine)

/-- Routes and handlers may be broken into lines. -/
def table (root : Path) (rows : List Endpoint) : Console.Table :=
  [⟨"METHOD", false, rows.map (·.verb.name)⟩,
   ⟨"PATH", true, rows.map (·.fullPath)⟩,
   ⟨"HANDLER", true, rows.map fun e => e.typeName ++ "." ++ e.methodName⟩,
   ⟨"FILE:LINE", false, rows.map (place root)⟩]

def json (rows : List Endpoint) : Json := .array (rows.map Endpoint.toJson)

end EndpointIndex.Listing
