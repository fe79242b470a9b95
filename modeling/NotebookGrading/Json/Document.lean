import NotebookGrading.Json.Number

/-
  Documents: what a JSON text spells.

  A document keeps the members of an object in the order in
  which they are written, repeated keys included. A number
  too large for a double and a text with half of a
  surrogate pair are spelled correctly but have no value;
  they stand as absent and are refused only where a value
  is asked for.

  Key definitions include:
    * `Json.Document`
    * `Json.Document.ofText`
    * `Json.Document.ofFloat`
-/

namespace NotebookGrading

namespace Json

/- A document tree. -/
inductive Document
  | null
  | bool (value : Bool)
  | number (value : Option Number)
  | string (value : Option String)
  | array (items : List Document)
  | object (members : List (Option String × Document))
deriving Inhabited

namespace Document

def ofText
    (text : String) : Document :=
  .string (some text)

def ofInt
    (value : Int) : Document :=
  .number (some (.whole value))

/- A double; infinities and NaN have no spelling. -/
def ofFloat
    (value : Float) : Document :=
  if value.isFinite then
    .number (some (.real value))
  else
    .null

/- A value that may be absent. -/
def ofOption
    {α : Type}
    (write : α → Document) :
    Option α → Document
  | none => .null
  | some value => write value

def ofList
    {α : Type}
    (write : α → Document)
    (values : List α) : Document :=
  .array (values.map write)

/- An object with the given members in their order. -/
def ofMembers
    (members : List (String × Document)) : Document :=
  .object
    (members.map (fun member => (some member.1, member.2)))

/- A member that is left out when its value is absent. -/
def optionalMember
    {α : Type}
    (name : String)
    (write : α → Document) :
    Option α → List (String × Document)
  | none => []
  | some value => [(name, write value)]

end Document

end Json

end NotebookGrading
