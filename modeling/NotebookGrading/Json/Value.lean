import NotebookGrading.Json.Document
import NotebookGrading.Table

/-
  Values: what a document means.

  In a value the members of an object stand in ascending
  order of their keys, every key once. A document has a
  value if all its numbers and texts have one and it nests
  no deeper than allowed; of two members with one key the
  later counts.

  Key definitions include:
    * `Json`
    * `Json.toDocument`
    * `Json.same`
    * `Json.Document.value?`
    * `Json.Document.table?`
    * `Json.nestingLimit`
-/

namespace NotebookGrading

/- A value of any kind. -/
inductive Json
  | null
  | bool (value : Bool)
  | number (value : Json.Number)
  | string (value : String)
  | array (items : List Json)
  | object (members : List (String × Json))
deriving Inhabited

namespace Json

------------------------------------------------------------
-- Values As Documents
------------------------------------------------------------

mutual

/- The document that spells a value. -/
def toDocument : Json → Document
  | .null => .null
  | .bool value => .bool value
  | .number value => .number (some value)
  | .string value => .string (some value)
  | .array items => .array (itemDocuments items)
  | .object members => .object (memberDocuments members)

def itemDocuments : List Json → List Document
  | [] => []
  | item :: rest => toDocument item :: itemDocuments rest

def memberDocuments :
    List (String × Json) →
      List (Option String × Document)
  | [] => []
  | (key, value) :: rest =>
      (some key, toDocument value) :: memberDocuments rest

end

/- The members of a table as members of a document. -/
def tableMembers
    (table : Table Json) : List (String × Document) :=
  table.entries.map (fun entry =>
    (entry.1, toDocument entry.2))

/- A table as a document. -/
def tableDocument
    (table : Table Json) : Document :=
  .ofMembers (tableMembers table)

------------------------------------------------------------
-- Agreement
------------------------------------------------------------

mutual

/-
  Whether two values are the same, numbers compared by
  their values.
-/
def same : Json → Json → Bool
  | .null, .null => true
  | .bool a, .bool b => a == b
  | .number a, .number b => a.same b
  | .string a, .string b => a == b
  | .array as, .array bs => sameItems as bs
  | .object as, .object bs => sameMembers as bs
  | _, _ => false

def sameItems : List Json → List Json → Bool
  | [], [] => true
  | a :: as, b :: bs => same a b && sameItems as bs
  | _, _ => false

def sameMembers :
    List (String × Json) → List (String × Json) → Bool
  | [], [] => true
  | (k, a) :: as, (l, b) :: bs =>
      k == l && same a b && sameMembers as bs
  | _, _ => false

end

def sameTable
    (a b : Table Json) : Bool :=
  sameMembers a.entries b.entries

------------------------------------------------------------
-- Documents As Values
------------------------------------------------------------

/-
  How many containers may stand inside one another in a
  document whose value is asked for.
-/
def nestingLimit : Nat :=
  127

/- A member with its key and its value. -/
def member?
    {α : Type}
    (value? : Document → Option α)
    (member : Option String × Document) :
    Option (String × α) := do
  let key ← member.1
  let value ← value? member.2
  some (key, value)

/-
  The value of a document in which at most the given number
  of containers stand inside one another.
-/
def Document.value? :
    Nat → Document → Option Json
  | _, .null => some .null
  | _, .bool value => some (.bool value)
  | _, .number value => value.map .number
  | _, .string value => value.map .string
  | 0, .array _ => none
  | depth + 1, .array items =>
      (items.mapM (Document.value? depth)).map .array
  | 0, .object _ => none
  | depth + 1, .object members =>
      (members.mapM (member? (Document.value? depth))).map
        (fun entries =>
          .object (Table.ofList entries).entries)

/- The table that an object spells. -/
def Document.table?
    {α : Type}
    (value? : Document → Option α) :
    Document → Option (Table α)
  | .object members =>
      (members.mapM (member? value?)).map Table.ofList
  | _ => none

end Json

end NotebookGrading
