import MailGateway.Mail.Body
import MailGateway.Mail.Subject
import MailGateway.Publication

/-!
# From mails to publications

The text of the mail without blank characters around it, cut to the limit, is the message of the
publication, and the decoded subject is its title.  A mail without text is published with its subject
as the message.  An identifier is drawn once the text is known, also when the subject cannot be
decoded afterwards.
-/

namespace MailGateway

/-- Cut a text to a number of characters.  A negative limit says how many characters to leave out at
the end. -/
def Text.truncate (limit : Int) (text : Text) : Text :=
  if limit < text.length then
    match limit with
    | .ofNat n => text.take n
    | .negSucc n => text.take (text.length - (n + 1))
  else text

namespace Publication

/-- The subject of a mail as it was sent, without blank characters around it. -/
def subject (mail : Mail.Message) : Text :=
  Text.trim ((Mail.rawField? "Subject" mail.fields).getD [])

/-- The publication with a title.  A title takes the place of an empty message. -/
def withTitle (p : Publication) (title : Text) : Publication :=
  if !title.isEmpty && p.message.isEmpty then { p with message := title, title := [] }
  else { p with title := title }

variable [Platform]

/-- The publication with the subject of a mail as its title. -/
def withSubject (p : Publication) (subject : Text) : Except Fault Publication :=
  if subject.isEmpty then .ok p else (Mail.Subject.decode subject).map p.withTitle

/-- What came of a mail: the notices about its body, the source of identifiers afterwards, and the
publication. -/
structure Assembled where
  notices : List Mail.Notice
  ids : IdSource
  result : Except Fault Publication

def assemble (ids : IdSource) (time : Int) (topic : Text) (limit : Int) (mail : List UInt8) :
    Assembled :=
  match Mail.Body.readMessage mail with
  | .error fault => ⟨[], ids, .error fault⟩
  | .ok message =>
    let (notices, body) := Mail.Body.ofMessage message
    match body with
    | .error fault => ⟨notices, ids, .error fault⟩
    | .ok body =>
      let (id, ids) := ids.next
      let publication := ofMail topic (Text.truncate limit (Text.trim body)) id time
      ⟨notices, ids, publication.withSubject (subject message)⟩

end Publication

end MailGateway
