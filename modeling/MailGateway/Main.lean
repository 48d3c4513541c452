import MailGateway.Startup

/-!
# The gateway on the command line

The settings come from the environment and from the file `.env` of the working directory.  The first
argument is the recipient of a mail on standard input, and the second one is the time of its arrival in
seconds since the start of 1970.  Without arguments the gateway starts and stops.  The log goes to
standard output.  The platform provides no more than the charsets that are written out.
-/

namespace MailGateway.CommandLine

/-- The bytes of a stream until it ends. -/
partial def readBytes (stream : IO.FS.Stream) (known : ByteArray) : IO ByteArray := do
  let more ← stream.read 65536
  if more.isEmpty then return known else readBytes stream (known ++ more)

/-- The settings among the variables of the environment. -/
def environment : IO (List (Text × Text)) :=
  Settings.names.filterMapM fun name ↦ do
    let value ← IO.getEnv (String.ofList name)
    return value.map fun value ↦ (name, value.toList)

def sources : IO Settings.Sources := do
  let environment ← environment
  let file ← try IO.FS.readFile ".env" catch _ => pure ""
  return ⟨[], environment, Settings.EnvFile.read environment file.toList⟩

def choices : IO (List Int) :=
  (List.range IdSource.idLength).mapM fun _ ↦ do
    return Int.ofNat (← IO.rand 0 61)

def arrivals (args : List String) : IO (List Startup.Arrival) :=
  match args with
  | [] => return []
  | recipient :: _ => do
    let mail ← readBytes (← IO.getStdin) .empty
    return [⟨recipient.toList, mail.toList⟩]

def seconds (args : List String) : Int :=
  (args[1]?.bind String.toInt?).getD 0

def fail (message : Text) : IO UInt32 := do
  IO.eprintln ("Gateway failed: " ++ String.ofList message)
  return 1

/-- Report what became of a mail that was not accepted. -/
def reportRefusal (happening : Startup.Happening) : IO Unit :=
  match happening with
  | .refused fault => IO.eprintln ("Mail refused: " ++ String.ofList fault.message)
  | _ => pure ()

/-- The wording of what is wrong with the settings. -/
def settingsMessage : Settings.Error → Text
  | .invalid errors => Text.join "; ".toList (errors.map fun e ↦
      e.field ++ ": ".toList ++ e.problem.message)
  | .pattern e => e.message

end MailGateway.CommandLine

attribute [local instance] MailGateway.Platform.bare in
open MailGateway CommandLine in
def main (args : List String) : IO UInt32 := do
  match Settings.read (← sources) with
  | .error e => fail (settingsMessage e)
  | .ok settings =>
    match Log.Setup.ofName settings.logLevel settings.logJson with
    | .error e => fail e.message
    | .ok setup =>
      let time := seconds args
      let moment := Log.Moment.ofMillis (time * 1000)
      let life := Startup.liveWith settings (fun _ _ ↦ .ok ()) .reliable ⟨← choices, 0⟩ ⟨time, []⟩
        (← arrivals args) none
      let records := life.log.map fun entry ↦ (Log.Record.ofEntry entry, moment)
      IO.print (String.ofList (setup.output none moment records))
      life.happenings.forM reportRefusal
      match life.result with
      | .ok () => return 0
      | .error (.settings e) => fail (settingsMessage e)
      | .error (.logLevel e) => fail e.message
      | .error (.busUrl e) => fail e.message
      | .error (.config e) => fail e.message
      | .error (.server fault) | .error (.serving fault) => fail fault.message
