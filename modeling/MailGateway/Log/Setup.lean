import MailGateway.Log.Record
import MailGateway.Text.Case

/-!
# Which records are written, and how

The setup has a level and a form.  A record is written if it reaches the level, and for two talkative
loggers and those below them also the level of warnings.  A record that has no line is left
out.
-/

namespace MailGateway.Log

inductive LevelError where
  | unknownName (name : Text)
  | notALevel (value : Text)
deriving DecidableEq, Repr

def LevelError.message : LevelError → Text
  | .unknownName name => "module 'logging' has no attribute '" ++ name ++ ['\'']
  | .notALevel value => "Unknown level: " ++ value.quoted

/-- The level of a name, small and capital letters being the same. -/
def rankNamed (name : Text) : Except LevelError Int :=
  let name := Text.upper name
  if name = "DEBUG" then .ok 10
  else if name = "INFO" then .ok 20
  else if name = "WARNING" ∨ name = "WARN" then .ok 30
  else if name = "ERROR" then .ok 40
  else if name = "CRITICAL" ∨ name = "FATAL" then .ok 50
  else if name = "NOTSET" then .ok 0
  else if name = "BASIC_FORMAT" then .error (.notALevel "%(levelname)s:%(name)s:%(message)s")
  else .error (.unknownName name)

/-- A setup: the least level of records, and whether they are written as JSON. -/
structure Setup where
  level : Int
  json : Bool
deriving DecidableEq, Repr

namespace Setup

def ofName (level : Text) (json : Bool) : Except LevelError Setup :=
  (rankNamed level).map (⟨·, json⟩)

/-- The loggers whose records count from warnings on. -/
def talkative : List Text := ["mail.log".toList, "uvicorn.access".toList]

def isBelow (logger above : Text) : Bool :=
  match Text.after? above logger with
  | some [] => true
  | some ('.' :: _) => true
  | _ => false

def threshold (setup : Setup) (logger : Text) : Int :=
  if talkative.any (isBelow logger) then Level.warning.rank else setup.level

def accepts (setup : Setup) (r : Record) : Bool :=
  0 < r.level && setup.threshold r.logger ≤ r.level && setup.level ≤ r.level

/-- The line of a record under a session identifier, if it is written: a JSON line shows when it was
written, and a plain line when the record was created. -/
def line? [Platform] (setup : Setup) (session : Option Text) (written created : Moment) (r : Record) :
    Option Text :=
  if setup.accepts r then
    let r := r.within session
    (if setup.json then r.jsonLine written else r.plainLine created).toOption
  else none

/-- Everything that is written for records with the moments of their creation. -/
def output [Platform] (setup : Setup) (session : Option Text) (written : Moment)
    (records : List (Record × Moment)) : Text :=
  records.flatMap fun (r, created) ↦
    match setup.line? session written created r with
    | some line => line ++ ['\n']
    | none => []

end Setup

end MailGateway.Log
