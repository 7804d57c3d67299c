import NoteSearch.Trace.Attributes
import NoteSearch.Trace.Context

/-!
# Resources

All spans of a process are exported together with a description of the process, which names the service.
-/

namespace NoteSearch.Trace

def serviceKey : String := "service.name"

def executableKey : String := "process.executable.name"

def defaultService : Text := "scratch-pad-search".toList

/-- Why a service gets no name. -/
inductive ResourceError
  | executableNotText (name : Json)

def ResourceError.message : ResourceError → String
  | .executableNotText name =>
      let kind := match name with
        | .list _ => "tuple"
        | other => other.kindName
      "can only concatenate str (not \"" ++ kind ++ "\") to str"

/-- The name of a service that has none: that of its program, when there is one. -/
def nameService (executable : Json) : Except ResourceError Text :=
  let unknown := "unknown_service".toList
  match executable with
  | .str name => .ok (unknown ++ if name.isEmpty then [] else ':' :: name)
  | other => if isGiven other then .error (.executableNotText other) else .ok unknown

/-- The resource of a service; attributes that are given may name the service, too. -/
def resource (service : Json) (given : List (String × Json)) : Except ResourceError Attributes :=
  let all := dropUnnamedFields
    (given.foldl (fun done (name, value) => assign name value done) [(serviceKey, service)])
  if (all.lookup serviceKey).any isGiven then .ok all
  else (nameService ((all.lookup executableKey).getD .null)).map fun name =>
    assign serviceKey (.str name) all

end NoteSearch.Trace
