import MailGateway.Error
import MailGateway.Mail.Message

/-!
# Media types

The strict reading of a `Content-Type` value.  Unlike the lenient one, which finds something in every
value, it refuses a value that is missing, that has no media type in front, or that has a flaw.
-/

namespace MailGateway.Mail

/-- A media type in lower case with its parameters, of which no two have the same name. -/
structure MediaType where
  name : Text
  parameters : List (Text × Text)
deriving DecidableEq, Repr

namespace MediaType

/-- Whether the character may stand in a half of a media type. -/
def isTokenChar (c : Char) : Bool :=
  c.isAlphanum || ("!#$%&'*+.^_`|~-" : Text).contains c

/-- Whether the text is two tokens with a slash between them. -/
def isMediaType (text : Text) : Bool :=
  match Text.cut (· == '/') text with
  | (major, some minor) =>
    !major.isEmpty && major.all isTokenChar && !minor.isEmpty && minor.all isTokenChar
  | _ => false

/-- Set the value of a name, keeping the place of the name if it has one. -/
def setParameter (parameters : List (Text × Text)) (name value : Text) : List (Text × Text) :=
  if parameters.any (·.1 == name) then
    parameters.map fun entry ↦ if entry.1 == name then (name, value) else entry
  else parameters ++ [(name, value)]

variable [Platform]

def parse (value : Option Text) : Except Fault MediaType :=
  let text := Text.trim (value.getD [])
  if text.isEmpty then .error (.gateway .noMediaType)
  else if !isMediaType (Text.trim (Text.cut (· == ';') text).1) then
    .error (.gateway (.invalidMediaType text))
  else match ContentType.readShowable (Symbol.ofText (Text.dropTail (· == ';') text)) with
    | .error fault => .error (.field fault)
    | .ok contentType =>
      if contentType.flawed then .error (.gateway (.invalidMediaParameter text))
      else
        let halves := contentType.major ++ .scalar '/' :: contentType.minor
        .ok
          { name := Text.lower (Symbol.toText halves)
            parameters := contentType.parameters.foldl (fun parameters (name, value) ↦
              setParameter parameters (Text.lower (Text.lower (Symbol.toText name)))
                (Symbol.toText value)) [] }

def parameter? (mediaType : MediaType) (name : Text) : Option Text :=
  mediaType.parameters.lookup name

end MediaType

end MailGateway.Mail
