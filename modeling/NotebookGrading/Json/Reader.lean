import NotebookGrading.Json.Document
import NotebookGrading.Json.Token

/-
  Reading a document from its text.

  The tokens are taken one at a time by a machine that keeps
  the containers still open on a stack, so texts may nest to
  any depth. Exactly one value makes up a document.

  Key definitions include:
    * `Json.Frame`
    * `Json.Awaited`
    * `Json.State`
    * `Json.State.step?`
    * `Json.Document.read?`
-/

namespace NotebookGrading

namespace Json

------------------------------------------------------------
-- Machine States
------------------------------------------------------------

/-
  A container that is still open, its parts in reverse. An
  object waits for the value of a key that was read.
-/
inductive Frame
  | array (items : List Document)
  | object
      (members : List (Option String × Document))
      (key : Option String)

/- What may come next. -/
inductive Awaited
  | value
  | itemOrEnd
  | keyOrEnd
  | key
  | colon
  | separator
  | nothing
deriving DecidableEq

structure State where
  awaited : Awaited
  stack : List Frame
  result : Option Document

namespace State

def start : State :=
  ⟨.value, [], none⟩

/- Put a finished value where it belongs. -/
def finish
    (stack : List Frame)
    (value : Document) : State :=
  match stack with
  | [] => ⟨.nothing, [], some value⟩
  | .array items :: outer =>
      ⟨.separator, .array (value :: items) :: outer, none⟩
  | .object members key :: outer =>
      ⟨.separator,
        .object ((key, value) :: members) key :: outer,
        none⟩

/- Take the first token of a value. -/
def value?
    (stack : List Frame) :
    Token → Option State
  | .openArray =>
      some ⟨.itemOrEnd, .array [] :: stack, none⟩
  | .openObject =>
      some ⟨.keyOrEnd, .object [] none :: stack, none⟩
  | .null => some (finish stack .null)
  | .bool value => some (finish stack (.bool value))
  | .number value => some (finish stack (.number value))
  | .string value => some (finish stack (.string value))
  | _ => none

/- Close the innermost container. -/
def close?
    (token : Token) :
    List Frame → Option State
  | .array items :: outer =>
      if token = .closeArray then
        some (finish outer (.array items.reverse))
      else
        none
  | .object members _ :: outer =>
      if token = .closeObject then
        some (finish outer (.object members.reverse))
      else
        none
  | [] => none

/- Take the key of a member. -/
def key? :
    List Frame → Token → Option State
  | .object members _ :: outer, .string key =>
      some ⟨.colon, .object members key :: outer, none⟩
  | _, _ => none

/- Go on after a comma. -/
def next? :
    List Frame → Option State
  | .array items :: outer =>
      some ⟨.value, .array items :: outer, none⟩
  | .object members key :: outer =>
      some ⟨.key, .object members key :: outer, none⟩
  | [] => none

/- Take one token. -/
def step?
    (state : State)
    (token : Token) : Option State :=
  match state.awaited with
  | .value => value? state.stack token
  | .itemOrEnd =>
      if token = .closeArray then
        close? token state.stack
      else
        value? state.stack token
  | .keyOrEnd =>
      if token = .closeObject then
        close? token state.stack
      else
        key? state.stack token
  | .key => key? state.stack token
  | .colon =>
      if token = .colon then
        some ⟨.value, state.stack, none⟩
      else
        none
  | .separator =>
      if token = .comma then
        next? state.stack
      else
        close? token state.stack
  | .nothing => none

/- Take all tokens. -/
def run? :
    State → List Token → Option State
  | state, [] => some state
  | state, token :: rest =>
      match step? state token with
      | some next => run? next rest
      | none => none

end State

------------------------------------------------------------
-- Documents
------------------------------------------------------------

/- The document that a text spells. -/
def Document.read?
    (text : String) : Option Document := do
  let tokens ← tokens? text.toList
  let state ← State.start.run? tokens
  state.result

end Json

end NotebookGrading
