import MailGateway.Mail.Parameter

/-!
# Structured fields of a message

The two structured fields that decide how a message is read: `Content-Type` with its parameters, and
`Content-Transfer-Encoding`.  Both are read leniently and shown in a normal form.  Only a value with
half of a surrogate pair in it cannot be shown.
-/

namespace MailGateway.Mail

variable [Platform]

/-- Check that symbols can be shown, `position` being the number of symbols before them.  Half of a
surrogate pair cannot, and is reported together with the undecoded symbols after it. -/
def checkShowable (position : Nat) : List Symbol → Except FieldFault Unit
  | [] => .ok ()
  | .surrogate first :: rest =>
    let undecoded := rest.takeWhile fun s ↦ !s.is fun _ ↦ true
    .error (.surrogates first position (1 + undecoded.length))
  | .scalar _ :: rest | .byte _ :: rest => checkShowable (position + 1) rest

/-- The value of a `Content-Type` field: the two halves of the media type as far as they are known,
the parameters, how the whole is shown, and whether it is flawed. -/
structure ContentType where
  major : List Symbol
  minor : List Symbol
  parameters : List (List Symbol × List Symbol)
  shown : List Symbol
  flawed : Bool

namespace ContentType

/-- Put the parameters of a list after what is shown of the media type. -/
def withParameters (major minor shown : List Symbol) (flawed : Bool) (list : List Symbol) :
    Except FieldFault ContentType := do
  let many ← Parameter.readAll list
  let (values, flawedValues) ← Parameter.values many.parameters
  return ⟨major, minor, values, shown ++ Parameter.render values,
    flawed || many.flawed || flawedValues⟩

/-- Show what is no media type, and look for parameters behind it. -/
def recover (shown symbols : List Symbol) : Except FieldFault ContentType :=
  let (junk, rest) := Field.junk (Symbol.eq ';') symbols
  match rest with
  | [] => .ok ⟨[], [], [], shown ++ junk, true⟩
  | s :: list => withParameters [] [] (shown ++ junk ++ [s]) true list

def read (symbols : List Symbol) : Except FieldFault ContentType :=
  if symbols.isEmpty then .ok ⟨[], [], [], [], false⟩
  else match Field.token? symbols with
    | none => recover [] symbols
    | some major =>
      match major.rest with
      | [] => .ok ⟨[], [], [], major.shown, true⟩
      | s :: rest =>
        if !s.eq '/' then recover major.shown (s :: rest)
        else
          let shown := major.shown ++ [s]
          match Field.token? rest with
          | none => recover shown rest
          | some minor =>
            let shown := shown ++ minor.shown
            let flawed := major.flawed || minor.flawed
            let trim := Text.trimBy isBlankSymbol
            match minor.rest with
            | [] => .ok ⟨trim major.content, trim minor.content, [], shown, flawed⟩
            | s :: list =>
              if s.eq ';' then
                withParameters (trim major.content) (trim minor.content) (shown ++ [s]) flawed list
              else recover shown (s :: list)

def checkParameter (parameter : List Symbol × List Symbol) : Except FieldFault Unit := do
  checkShowable 0 parameter.1
  checkShowable 0 parameter.2

/-- Check that the names and values of the parameters and the whole value can be shown. -/
def check (contentType : ContentType) : Except FieldFault Unit := do
  contentType.parameters.forM checkParameter
  checkShowable 0 contentType.shown

def readShowable (symbols : List Symbol) : Except FieldFault ContentType := do
  let contentType ← read symbols
  contentType.check
  return contentType

end ContentType

/-- How the value of a `Content-Transfer-Encoding` field is shown. -/
def showTransferEncoding (symbols : List Symbol) : List Symbol :=
  match Field.token? symbols with
  | none => (Field.junk (fun _ ↦ false) symbols).1
  | some word => word.shown ++ (Field.junk (fun _ ↦ false) word.rest).1

end MailGateway.Mail
