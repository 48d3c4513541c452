import MailGateway.Log.Basic
import MailGateway.Log.Moment
import MailGateway.Log.Template

/-!
# Records and their lines

A record is written as one line: as a JSON object in ASCII, so that nothing in a record can start a
line of its own, or as plain text for people.
-/

namespace MailGateway.Log

/-- An error that a record tells about: its kind and its text. -/
structure Trouble where
  kind : Text
  text : Text
deriving DecidableEq, Repr

def Trouble.trace (trouble : Trouble) : Text :=
  if trouble.text.isEmpty then trouble.kind else trouble.kind ++ ": " ++ trouble.text

structure Record where
  logger : Text
  level : Int
  template : Text
  arguments : List Value
  function : Value
  session : Value
  trouble : Option Trouble
  topic : Option Value
deriving Repr

inductive LineError where
  | template (e : TemplateError)
  | value (e : Value.WriteError)
deriving DecidableEq, Repr

def LineError.message : LineError → Text
  | .template e => e.message
  | .value e => e.message

namespace Record

/-- The name of a level, which may lie between the usual ones. -/
def levelName (level : Int) : Text :=
  let known : List Level := [.debug, .info, .warning, .error, .critical]
  match known.find? fun l ↦ l.rank == level with
  | some l => l.name
  | none => if level = 0 then "NOTSET" else "Level " ++ Text.ofInt level

def ofEntry (e : Entry) : Record :=
  ⟨e.logger.name, e.level.rank, "%s".toList, [.text e.message], .null, .null, none, none⟩

def message (r : Record) : Except TemplateError Text :=
  Template.fill r.template r.arguments

/-- The record under the session identifier that is current. -/
def within (r : Record) (session : Option Text) : Record :=
  { r with session := .text (sessionName session) }

def fields (r : Record) (written : Moment) (message : Text) : List (Text × Value) :=
  [("timestamp".toList, .text written.machineText), ("level".toList, .text (levelName r.level)),
    ("session_id".toList, r.session), ("logger".toList, .text r.logger),
    ("function".toList, r.function), ("message".toList, .text message)] ++
  (match r.trouble with
    | some trouble =>
      [("error".toList, .text trouble.text), ("traceback".toList, .text trouble.trace)]
    | none => []) ++
  (match r.topic with
    | some topic => [("topic".toList, topic)]
    | none => [])

def jsonLine [Platform] (r : Record) (written : Moment) : Except LineError Text := do
  let message ← r.message.mapError .template
  (Value.object (r.fields written message)).json? true |>.mapError .value

/-- The record as a plain line, followed by the trace of its error. -/
def plainLine (r : Record) (created : Moment) : Except LineError Text :=
  (r.message.mapError .template).map fun message ↦
    let separator : Text := " - "
    let line := created.humanText ++ separator ++ levelName r.level ++ separator ++
      r.session.plain ++ separator ++ r.logger ++ separator ++ message
    match r.trouble with
    | none => line
    | some trouble =>
      (if line.getLast? = some '\n' then line else line ++ ['\n']) ++ trouble.trace

end Record

end MailGateway.Log
