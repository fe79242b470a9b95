import NotebookGrading.Json.Value

/-
  Records: documents with declared members.

  A record is written as an object, or as an array of its
  members in the order of their declaration. A declared
  member may stand in an object only once; the members that
  are not declared are set apart.

  Key definitions include:
    * `Json.Record`
    * `Json.Document.objectRecord?`
    * `Json.Document.record?`
    * `Json.Record.required?`
    * `Json.Record.defaulted?`
    * `Json.Document.whole?`
    * `Json.Document.list?`
-/

namespace NotebookGrading

namespace Json

------------------------------------------------------------
-- Records
------------------------------------------------------------

/-
  The declared members that are present, the others, and
  whether the members were given by their positions.
-/
structure Record where
  declared : List (String × Document)
  others : List (String × Document)
  positional : Bool

/- The members of an object whose keys all have a value. -/
def keyedMembers?
    (members : List (Option String × Document)) :
    Option (List (String × Document)) :=
  members.mapM (member? some)

namespace Document

/- The record that an object spells. -/
def objectRecord?
    (names : List String) :
    Document → Option Record
  | .object members => do
      let members ← keyedMembers? members
      let declared :=
        members.filter (fun m => names.contains m.1)
      let others :=
        members.filter (fun m => !names.contains m.1)
      if (declared.map Prod.fst).Nodup then
        some ⟨declared, others, false⟩
      else
        none
  | _ => none

/- The record that an object or an array spells. -/
def record?
    (names : List String) :
    Document → Option Record
  | .array items =>
      if items.length ≤ names.length then
        some ⟨names.zip items, [], true⟩
      else
        none
  | document => objectRecord? names document

end Document

namespace Record

variable {α : Type}

/- The document given for a declared member. -/
def find?
    (record : Record)
    (name : String) : Option Document :=
  Entries.find? name record.declared

/- A member that has to be present. -/
def required?
    (record : Record)
    (name : String)
    (read? : Document → Option α) : Option α :=
  (record.find? name).bind read?

/- A member with a value of its own when it is absent. -/
def defaulted?
    (record : Record)
    (name : String)
    (absent : α)
    (read? : Document → Option α) : Option α :=
  match record.find? name with
  | none => some absent
  | some document => read? document

/- The undeclared members as a table of values. -/
def extra?
    (record : Record)
    (depth : Nat) : Option (Table Json) :=
  (record.others.mapM (fun (member : String × Document) =>
    (member.2.value? depth).map
      (fun value => (member.1, value)))).map Table.ofList

end Record

------------------------------------------------------------
-- Leaves
------------------------------------------------------------

namespace Document

variable {α : Type}

def text? : Document → Option String
  | .string value => value
  | _ => none

def bool? : Document → Option Bool
  | .bool value => some value
  | _ => none

/- Any number, as a double. -/
def float? : Document → Option Float
  | .number value => value.map Number.toFloat
  | _ => none

/- A whole number between two bounds. -/
def whole?
    (least most : Int) :
    Document → Option Int
  | .number (some (.whole value)) =>
      if least ≤ value && value ≤ most then
        some value
      else
        none
  | _ => none

/- A value that may be null. -/
def optional?
    (read? : Document → Option α) :
    Document → Option (Option α)
  | .null => some none
  | document => (read? document).map some

def list?
    (read? : Document → Option α) :
    Document → Option (List α)
  | .array items => items.mapM read?
  | _ => none

/-
  One of several named choices, written as its name or as
  an object with the name as its only key and null as the
  value.
-/
def choice?
    (ofName? : String → Option α) :
    Document → Option α
  | .string name => name.bind ofName?
  | .object [(name, .null)] => name.bind ofName?
  | _ => none

/- A value whose content decides whether it is present. -/
def lenient?
    (depth : Nat)
    (read? : Json → Option α)
    (document : Document) : Option (Option α) :=
  (document.value? depth).map read?

end Document

end Json

end NotebookGrading
