import Profiles.Debug
import Profiles.Json.Printer
import Profiles.Record

/-!
# Queries and their outcomes

What can be asked about a record without changing it: its view, its JSON text, the calls of its
serialization, and its text for debugging. A query fails where a recorder has not enough room, or where
the format asked for is none of those supported. Beside them stands the comparison of two records, which
must be of one kind. A query means the same wherever it is put, to a record just built or to one in a store.

An `Outcome` is what is answered, or why there is no answer. A `Failure` is a cause; `Failure.kind` and
`Failure.message` put it into words, and a message that would be empty is left out of the JSON form.
-/

namespace Profiles

/-! ### Outcomes -/

/-- What is answered. -/
inductive Answer where
  | view (record : Record)
  /-- A fixture and a part, after they have been exchanged. -/
  | exchanged (fixture part : Record)
  | text (content : String)
  | events (calls : List Event)
  | equal (same : Bool)
  /-- Records under names. -/
  | listing (entries : List (String × Record))
deriving DecidableEq

/-- Why there is no answer. -/
inductive Failure where
  /-- The question cannot be understood. -/
  | badInput
  /-- There is no record under this name. -/
  | noSuchSlot (slot : String)
  /-- The record under this name is not of the kind that is wanted. -/
  | wrongKind (slot : String)
  /-- Records of two kinds cannot be compared. -/
  | kindsDiffer
  /-- The recorder of a serialization was full after these calls. -/
  | exhausted (calls : List Event)
deriving DecidableEq

/-- An answer, or why there is none. -/
abbrev Outcome := Except Failure Answer

/-- A call as a row: a word for what it is, and what it brings. A number stands as its numeral, and a truth value as its
word. -/
def Event.toJson : Event → Json
  | enter name size => .arr [.str "struct", .str name, .int size]
  | field key => .arr [.str "field", .str key]
  | scalar (.str text) => .arr [.str "str", .str text]
  | scalar (.int value) => .arr [.str "i64", .numeral value]
  | scalar (.bool value) => .arr [.str "bool", .str (String.ofList (Text.boolWord value))]
  | leave => .arr [.str "end"]

/-- An answer as a JSON value. A record is shown by its view. -/
def Answer.toJson : Answer → Json
  | view record => record.view
  | exchanged fixture part => .obj [("fixture", fixture.view), ("part", part.view)]
  | text content => .obj [("text", .str content)]
  | events calls => .obj [("events", .arr (calls.map Event.toJson))]
  | equal same => .obj [("eq", .bool same), ("ne", .bool !same)]
  | listing entries => .arr (entries.map fun (name, record) => .arr [.str name, record.view])

namespace Failure

/-- The word for a cause. -/
def kind : Failure → String
  | badInput => "bad_input"
  | noSuchSlot _ => "no_such_slot"
  | wrongKind _ => "wrong_kind"
  | kindsDiffer => "wrong_kind"
  | exhausted _ => "serialize"

/-- What is told besides that word. -/
def message : Failure → String
  | badInput => ""
  | noSuchSlot slot => slot
  | wrongKind slot => slot
  | kindsDiffer => ""
  | exhausted _ => "budget exhausted"

/-- The calls that were taken before a recorder was full. -/
def calls? : Failure → Option (List Event)
  | exhausted calls => some calls
  | _ => none

/-- A failure as a JSON value: the calls that were taken, where there are any, then the word for the cause and what is
told besides. -/
def toJson (failure : Failure) : Json :=
  -- what was taken before the recorder was full comes in front of the error
  .obj ((failure.calls?.map fun calls => ("events", .arr (calls.map Event.toJson))).toList
    ++ ("error", .str failure.kind)
    :: if failure.message = "" then [] else [("message", .str failure.message)])

end Failure

/-- What is answered, or why there is no answer, as a JSON value. -/
def Outcome.toJson : Outcome → Json
  | .ok answer => answer.toJson
  | .error failure => failure.toJson

/-! ### Queries -/

/-- A question about one record. -/
inductive Query where
  | get
  | json (pretty : Bool)
  | calls (budget : Option Nat)
  | debug (spec : String)
deriving DecidableEq

namespace Record

/-- **The answer to a question** about a record. -/
def answer (record : Record) : Query → Outcome
  | .get => .ok (.view record)
  | .json pretty => .ok (.text (record.outline.json pretty))
  | .calls budget =>
    match record.outline.transcript budget with
    -- a transcript that is not complete makes the whole answer a failure, which keeps what was taken
    | ⟨events, true⟩ => .ok (.events events)
    | ⟨events, false⟩ => .error (.exhausted events)
  | .debug spec =>
    match Format.ofSpec? spec with
    | some format => .ok (.text (Debug.text format record.outline))
    | none => .error .badInput

/-- **Whether two records are equal**, which can only be asked of records of one kind. -/
def compare (a b : Record) : Outcome :=
  if a.kind = b.kind then .ok (.equal (a = b)) else .error .kindsDiffer

end Record

/-- How a question of the given name is read: its particulars are members of a JSON object. -/
def Query.ofName? : String → Option (Json → Option Query)
  | "get" => some fun _ => some get
  | "json" => some fun value => return json ((← value.optional? "pretty" Json.bool?).getD false)
  -- the budget is told apart from no budget at all, and is a whole number that is not negative
  | "serde" => some fun value => return calls (← value.optional? "budget" Json.word?)
  | "debug" => some fun value => return debug (← value.text? "spec")
  | _ => none

end Profiles
