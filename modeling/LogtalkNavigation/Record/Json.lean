import LogtalkNavigation.Json.Write
import LogtalkNavigation.Record.Basic

namespace LogtalkNavigation

namespace Record

def jsonFields (kind : Artifact.Kind) (record : Record) : List (String × Text) :=
  let head := [("kind", Json.string kind.word.toList), ("file", Json.string record.file),
    ("line", Text.ofInt record.line)]
  head ++ match record with
  | .call r => [("name", Json.string r.name)]
  | .entity r => [("name", Json.string r.name), ("entity_type", Json.string r.entityType)]
  | .location _ => []
  | .test r =>
    [("object", Json.string r.object), ("test", Json.string r.test),
      ("status", Json.string r.status)]
      ++ (r.reason.map fun reason => ("reason", Json.string reason)).toList
  | .summary r => [("object", Json.string r.object), ("status", Json.string r.status)]
  | .status r => [("status", Json.string r.status)]
  | .metric r => [("score", Text.ofInt r.score)]

def json (kind : Artifact.Kind) (records : List Record) : Text :=
  let table (record : Record) : Text :=
    Json.block '{' '}' 2 ((jsonFields kind record).map fun (key, value) => Json.entry key value)
  Json.block '[' ']' 0 (records.map table)

end Record

end LogtalkNavigation
