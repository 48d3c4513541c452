import MailGateway.Backend
import MailGateway.Named

/-!
# Runs of sessions

Any number of sessions work on one backend, and their steps may come in any order.  A run is a list of
operations; each gives the state afterwards, the log, and a reply or a fault.
-/

namespace MailGateway

structure Sessions where
  backend : Backend
  named : List (Text × Session)
deriving Repr

/-- A step of a run: a session is opened, or an open one does something. -/
inductive Operation where
  | anonymous (session : Text)
  | login (session user : Text)
  | authPlain (session : Text)
  | mail (session : Text)
  | rcpt (session recipient : Text)
  | data (session : Text) (mail : List UInt8)
  | reset (session : Text)
  | logout (session : Text)
deriving DecidableEq, Repr

inductive Reply where
  | done
  | topic (topic : Text)
  | published (publication : Publication)
deriving DecidableEq, Repr

namespace Operation

def session : Operation → Text
  | .anonymous s | .login s _ | .authPlain s | .mail s | .rcpt s _ | .data s _ | .reset s
  | .logout s => s

end Operation

namespace Sessions

structure Outcome where
  state : Sessions
  log : List Log.Entry
  result : Except Fault Reply

/-- The session of a name.  A name that was never used stands for an idle session. -/
def get (state : Sessions) (name : Text) : Session :=
  (Named.get? name state.named).getD Session.idle

def put (state : Sessions) (name : Text) (session : Session) : Sessions :=
  { state with named := Named.put name session state.named }

def after (state : Sessions) (name : Text) (step : Session.Step α) : Sessions :=
  { backend := step.backend, named := Named.put name step.session state.named }

variable [Platform]

def step (state : Sessions) : Operation → Outcome
  | .anonymous s => ⟨state.put s Session.idle, [], .ok .done⟩
  | .login s user => ⟨state.put s Session.idle, [Backend.loginEntry user], .ok .done⟩
  | .authPlain _ | .mail _ => ⟨state, [], .ok .done⟩
  | .rcpt s recipient =>
    let step := (state.get s).rcpt state.backend recipient
    ⟨state.after s step, step.log, step.result.map .topic⟩
  | .data s mail =>
    let step := (state.get s).data state.backend mail
    ⟨state.after s step, step.log, step.result.map .published⟩
  | .reset s | .logout s => ⟨state.put s (state.get s).reset, [], .ok .done⟩

def run (state : Sessions) : List Operation → Sessions × List (Except Fault Reply)
  | [] => (state, [])
  | operation :: operations =>
    let outcome := state.step operation
    let (final, results) := run outcome.state operations
    (final, outcome.result :: results)

end Sessions

end MailGateway
