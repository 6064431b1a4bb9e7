import AccessGate.Error.Failure
import AccessGate.Rule.Record
import AccessGate.Text.Lines

/-! # Rule feeds

A feed is a file with a list of records in JSON, or with an object that holds the list as its member
`entity`. Its rules come in the order of the records, and the first bad record stops the reading. -/
namespace AccessGate.Feed

def errorOf (path : String) (f : FeedFault) : Failure := .rule ⟨.feed path f, none⟩

def readValue (path : String) (bytes : List UInt8) : Except Failure Json :=
  match Text.Utf8.decode bytes with
  | .error fault => .error (errorOf path (.notText fault))
  | .ok cs =>
    match Json.parse (String.ofList (Text.unifyLineEnds cs)) with
    | .ok value => .ok value
    | .error (.malformed reason place) => .error (errorOf path (.notJson reason place))
    | .error (.tooLong digits) => .error (.value (.longInteger digits))

/-- The entries of a feed. An object without the member has none. -/
def entries (path : String) : Json → Except Failure (List Json)
  | .arr items => .ok items
  | .obj members =>
    match Json.member? "entity" members with
    | none => .ok []
    | some (.arr items) => .ok items
    | some _ => .error (errorOf path .notList)
  | _ => .error (errorOf path .notList)

def readEntry (path : String) : Json → Except Failure Rule
  | .obj record => (Record.toRule record none).mapError Failure.rule
  | other => .error (errorOf path (.notObject other))

/-- The rules that the bytes of a feed write. -/
def read (path : String) (bytes : List UInt8) : Except Failure (List Rule) := do
  let value ← readValue path bytes
  let items ← entries path value
  items.mapM (readEntry path)

end AccessGate.Feed
