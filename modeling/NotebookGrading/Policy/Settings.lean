import NotebookGrading.Json.Reader
import NotebookGrading.Json.Record
import NotebookGrading.Json.Writer
import NotebookGrading.Policy.Late
import NotebookGrading.Time.Timestamp

/-
  Settings of an assignment.

  The settings hold the deadline, the number of submissions
  allowed, the late submission policy and how much of the
  grading is done without a human.

  Key definitions include:
    * `Automation`
    * `Settings`
    * `Settings.policy`
    * `Settings.scaling`
    * `Settings.validate`
    * `Settings.required`
    * `Settings.ofText?`
    * `Settings.toText`
-/

namespace NotebookGrading

open Json (Document)

------------------------------------------------------------
-- Settings
------------------------------------------------------------

/- How much of the grading is done without a human. -/
inductive Automation
  | unassisted
  | auto
  | fullAuto
deriving DecidableEq, Repr

namespace Automation

def name : Automation → String
  | .unassisted => "unassisted"
  | .auto => "auto"
  | .fullAuto => "full_auto"

def ofName? : String → Option Automation
  | "unassisted" => some .unassisted
  | "auto" => some .auto
  | "full_auto" => some .fullAuto
  | _ => none

end Automation

structure Settings where
  deadline : Option Instant := none
  maxSubmissions : Option Int := none
  lateSubmission : Option LatePolicy := none
  automation : Automation := .auto

namespace Settings

/- The late submission policy; without one it is empty. -/
def policy
    (settings : Settings) : LatePolicy :=
  settings.lateSubmission.getD []

/-
  The fraction of the score that a submission keeps.
  Without a deadline nothing is late.
-/
def scaling
    (settings : Settings)
    (submitted : Instant)
    (role : Role) : Except SettingsError Float :=
  match settings.deadline with
  | none => .ok 1
  | some due =>
      LatePolicy.scaling settings.policy due submitted role

/- The settings allow at least one submission. -/
def checkSubmissions
    (settings : Settings) : Except SettingsError Unit :=
  match settings.maxSubmissions with
  | none => .ok ()
  | some value =>
      if value < 1 then
        .error (.maxSubmissions value)
      else
        .ok ()

/- Check settings; absent ones are in order. -/
def validate :
    Option Settings → Except SettingsError Unit
  | none => .ok ()
  | some settings =>
      match settings.checkSubmissions with
      | .error e => .error e
      | .ok () => LatePolicy.validate settings.policy

/- The settings, which have to be there. -/
def required :
    Option Settings → Except SettingsError Settings
  | none => .error .missingSettings
  | some settings => .ok settings

end Settings

------------------------------------------------------------
-- Documents
------------------------------------------------------------

namespace LateStep

def ofDocument?
    (document : Document) : Option LateStep := do
  let record ← document.record? ["period", "scaling"]
  let period ← record.required? "period" Document.text?
  let scaling ← record.required? "scaling" Document.float?
  some ⟨period, scaling⟩

def toDocument
    (step : LateStep) : Document :=
  .ofMembers
    [("period", .ofText step.period),
     ("scaling", .ofFloat step.scaling)]

end LateStep

namespace Instant

def ofDocument?
    (document : Document) : Option Instant :=
  document.text?.bind ofText?

def toDocument
    (instant : Instant) : Document :=
  .ofText instant.toText

end Instant

namespace Settings

def memberNames : List String :=
  ["deadline", "max_submissions", "late_submission",
   "autograde_type"]

/-
  A member that may be absent from an object, but not from
  an array.
-/
def omissible?
    {α : Type}
    (record : Json.Record)
    (name : String)
    (read? : Document → Option α) : Option (Option α) :=
  if record.positional then
    record.required? name (Document.optional? read?)
  else
    record.defaulted? name none (Document.optional? read?)

def ofDocument?
    (document : Document) : Option Settings := do
  let record ← document.record? memberNames
  let deadline ← omissible? record "deadline"
    Instant.ofDocument?
  let maxSubmissions ← omissible? record "max_submissions"
    (Document.whole? (-9223372036854775808)
      9223372036854775807)
  let lateSubmission ← omissible? record "late_submission"
    (Document.list? LateStep.ofDocument?)
  let automation ← record.defaulted? "autograde_type" .auto
    (Document.choice? Automation.ofName?)
  some
    ⟨deadline, maxSubmissions, lateSubmission, automation⟩

/- The settings that a text spells. -/
def ofText?
    (text : String) : Option Settings :=
  (Document.read? text).bind ofDocument?

def toDocument
    (settings : Settings) : Document :=
  .ofMembers
    [("deadline",
        .ofOption Instant.toDocument settings.deadline),
     ("max_submissions",
        .ofOption Document.ofInt settings.maxSubmissions),
     ("late_submission",
        .ofOption (Document.ofList LateStep.toDocument)
          settings.lateSubmission),
     ("autograde_type",
        .ofText settings.automation.name)]

def toText
    (settings : Settings) : String :=
  settings.toDocument.compact

end Settings

end NotebookGrading
