import MailGateway.Log.Setup
import MailGateway.Publisher.BusUrl
import MailGateway.Service
import MailGateway.Settings.Basic

/-!
# Starting and stopping the gateway

The gateway reads its settings, sets up its log, builds the backend and starts to listen.  From then
on, whatever ends the serving, it stops listening as its last act.  A run is told as the list of what
happened together with the log.

The listener and the server of the pages are not the gateway's own.  `Servers` says how they fail, if
they do, when they are built, started and stopped.
-/

namespace MailGateway

namespace Startup

/-- Why the gateway could not start, or what ended the serving. -/
inductive Failure where
  | settings (e : Settings.Error)
  | logLevel (e : Log.LevelError)
  | busUrl (e : Publisher.BusUrl.Error)
  | config (e : ConfigError)
  | server (fault : Fault)
  | serving (fault : Fault)
deriving DecidableEq, Repr

end Startup

namespace Settings

/-- What is logged about the publisher that the settings ask for. -/
def publisherNotices (s : Settings) : List Log.Entry :=
  match s.publisher with
  | .memory => [⟨.warning, .service,
      "Using in-process publisher, messages are not delivered to Redis"⟩]
  | .bus => []

/-- The publisher that the settings ask for, and what is logged about it. -/
def newPublisher (s : Settings) : Except Publisher.BusUrl.Error (Publisher × List Log.Entry) :=
  match s.publisher with
  | .memory => .ok (.memory .empty, s.publisherNotices)
  | .bus =>
    (Publisher.BusUrl.check s.busUrl).map fun () ↦
      (.bus { channelStart := s.channelStart, receivers := .int 1, failures := [], pongs := [],
              sent := [] }, s.publisherNotices)

/-- The publisher of a backend and what is logged about it: the one that is given, or else the one
that the settings ask for. -/
def publisherOr (s : Settings) (given : Option Publisher) :
    Except Startup.Failure (Publisher × List Log.Entry) :=
  match given with
  | some publisher => .ok (publisher, [])
  | none => s.newPublisher.mapError .busUrl

/-- The backend of settings, with a publisher that may be given. -/
def createBackend [Platform] (s : Settings) (given : Option Publisher) (ids : IdSource)
    (clock : Clock) : Except Startup.Failure (Backend × List Log.Entry) := do
  let (publisher, log) ← s.publisherOr given
  let config ← s.config.checked.mapError .config
  return (⟨config, publisher, .empty, ids, clock⟩, log)

end Settings

namespace Startup

/-- How the servers fail that are not the gateway's own: the listener when it is built, started and
stopped, and the server of the pages when it is built. -/
structure Servers where
  listener : Option Fault
  start : Option Fault
  service : Option Fault
  stop : Option Fault
deriving DecidableEq, Repr

def Servers.reliable : Servers := ⟨none, none, none, none⟩

/-- What happens in the life of the gateway. -/
inductive Happening where
  | logging (level : Text) (json : Bool)
  | listener (host : Text) (port : Int) (domain : Text) (maxMailBytes : Int)
  | started
  | service (host : Text) (port : Int)
  | serving
  | refused (fault : Fault)
  | stopped
deriving DecidableEq, Repr

/-- A mail that arrives while the gateway serves. -/
structure Arrival where
  recipient : Text
  mail : List UInt8
deriving DecidableEq, Repr

/-- The life of the gateway: what happened, the log, the backend if there was one, and how it
ended. -/
structure Life where
  happenings : List Happening
  log : List Log.Entry
  backend : Option Backend
  result : Except Failure Unit

def entry (message : Text) : Log.Entry :=
  ⟨.info, .startup, message⟩

def introduction (s : Settings) : List Log.Entry :=
  [entry "=== Email-to-topic gateway starting ===",
    entry ("SMTP Bind: " ++ s.smtpHost ++ ':' :: Text.ofInt s.smtpPort),
    entry ("SMTP Domain: " ++ s.domain),
    entry ("Max Message Size: " ++ Text.ofInt s.maxMailBytes ++ " bytes"),
    entry ("Message Limit: " ++ Text.ofInt s.messageLimit ++ " characters"),
    entry ("Publisher: " ++ s.publisher.name)]

def announcement (s : Settings) : List Log.Entry :=
  [entry ("SMTP server started on " ++ s.smtpHost ++ ':' :: Text.ofInt s.smtpPort),
    entry ("Accepting emails to: " ++ s.addressStart ++ "<topic>@" ++ s.domain)]

/-- The entries when the gateway stops.  The last one is written when it has stopped. -/
def farewell (counters : Delivery.Counters) : List Log.Entry :=
  [entry "Shutting down SMTP server...",
    entry ("SMTP server stopped (" ++ Text.ofNat counters.success ++ " successful, " ++
      Text.ofNat counters.failure ++ " failed)")]

variable [Platform]

def deliver (backend : Backend) (arrival : Arrival) : Session.Step Unit :=
  let accepted := Session.idle.rcpt backend arrival.recipient
  match accepted.result with
  | .error fault => ⟨accepted.backend, accepted.session, accepted.log, .error fault⟩
  | .ok _ =>
    let published := accepted.session.data accepted.backend arrival.mail
    ⟨published.backend, published.session, accepted.log ++ published.log,
      published.result.map fun _ ↦ ()⟩

/-- What came of serving: the refusals, the log, the backend, and what ended the serving if it did
not end by itself. -/
structure Served where
  happenings : List Happening
  log : List Log.Entry
  backend : Backend
  result : Except Fault Unit

/-- Serve the mails that arrive, until they end or something else than an error of the gateway
occurs.  `ending` is what ends the serving afterwards. -/
def serve (backend : Backend) (ending : Option Fault) : List Arrival → Served
  | [] => ⟨[], [], backend, match ending with
      | some fault => .error fault
      | none => .ok ()⟩
  | arrival :: arrivals =>
    let step := deliver backend arrival
    match step.result with
    | .ok () =>
      let served := serve step.backend ending arrivals
      { served with log := step.log ++ served.log }
    | .error (.gateway e) =>
      let served := serve step.backend ending arrivals
      { served with
        happenings := .refused (.gateway e) :: served.happenings, log := step.log ++ served.log }
    | .error fault => ⟨[], step.log, step.backend, .error fault⟩

/-- The life of a gateway with its backend, after what is logged about both.  Once the server of the
pages is built, the listener is stopped whatever ends the serving; what goes wrong then is all that
is passed on. -/
def liveOn (s : Settings) (servers : Servers) (first : Backend) (log : List Log.Entry)
    (arrivals : List Arrival) (ending : Option Fault) : Life :=
  let logging := Happening.logging s.logLevel s.logJson
  let listener := Happening.listener s.smtpHost s.smtpPort s.domain s.maxMailBytes
  let listening := log ++ announcement s
  match servers.listener, servers.start, servers.service with
  | some fault, _, _ => ⟨[logging], log, some first, .error (.server fault)⟩
  | none, some fault, _ => ⟨[logging, listener], log, some first, .error (.server fault)⟩
  | none, none, some fault =>
    ⟨[logging, listener, .started], listening, some first, .error (.server fault)⟩
  | none, none, none =>
    let served := serve first ending arrivals
    let happened := [logging, listener, .started, .service s.httpHost s.httpPort, .serving] ++
      served.happenings
    let farewell := farewell served.backend.tally.counters
    match servers.stop with
    | some fault =>
      ⟨happened, listening ++ served.log ++ farewell.take 1, some served.backend,
        .error (.server fault)⟩
    | none =>
      ⟨happened ++ [.stopped], listening ++ served.log ++ farewell, some served.backend,
        served.result.mapError .serving⟩

/-- The life of the gateway under settings.  `configure` sets up the log. -/
def liveWith (s : Settings) (configure : Text → Bool → Except Log.LevelError Unit)
    (servers : Servers) (ids : IdSource) (clock : Clock) (arrivals : List Arrival)
    (ending : Option Fault) : Life :=
  match configure s.logLevel s.logJson with
  | .error e => ⟨[], [], none, .error (.logLevel e)⟩
  | .ok () =>
    match s.createBackend none ids clock with
    | .error e =>
      ⟨[.logging s.logLevel s.logJson], introduction s ++ s.publisherNotices, none, .error e⟩
    | .ok (first, log) => liveOn s servers first (introduction s ++ log) arrivals ending

def live (sources : Settings.Sources) (configure : Text → Bool → Except Log.LevelError Unit)
    (servers : Servers) (ids : IdSource) (clock : Clock) (arrivals : List Arrival)
    (ending : Option Fault) : Life :=
  match Settings.read sources with
  | .error e => ⟨[], [], none, .error (.settings e)⟩
  | .ok s => liveWith s configure servers ids clock arrivals ending

end Startup

end MailGateway
