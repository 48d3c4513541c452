import MailGateway.Value

/-!
# Publications

What the gateway hands to the publisher: one publication per accepted mail.  The title is left out of
the payload when it is empty.
-/

namespace MailGateway

structure Publication where
  topic : Text
  message : Text
  title : Text
  id : Text
  time : Int
  event : Text
deriving DecidableEq, Repr

namespace Publication

def mailEvent : Text := "message"

def ofMail (topic message id : Text) (time : Int) : Publication :=
  ⟨topic, message, [], id, time, mailEvent⟩

/-- The fields of a publication in the order of its payload. -/
def fields (p : Publication) : List (Text × Value) :=
  [("id".toList, .text p.id), ("time".toList, .int p.time), ("event".toList, .text p.event),
    ("topic".toList, .text p.topic)] ++
  (if p.title.isEmpty then [] else [("title".toList, .text p.title)]) ++
  [("message".toList, .text p.message)]

/-- The payload of a publication, if the platform can write its time. -/
def payload? [Platform] (p : Publication) : Except Value.WriteError Text :=
  (Value.object p.fields).json? false

/-- The payload of a publication whose time every platform can write.  The clock of the gateway tells
no other times. -/
def payload (p : Publication) : Text :=
  (Value.object p.fields).json false

end Publication

/-- The source of publication identifiers: choices of characters, and how many of them were used. -/
structure IdSource where
  choices : List Int
  used : Nat
deriving DecidableEq, Repr

namespace IdSource

/-- The characters of identifiers. -/
def alphabet : Text := "abcdefghijklmnopqrstuvwxyzABCDEFGHIJKLMNOPQRSTUVWXYZ0123456789"

/-- The number of characters of an identifier. -/
def idLength : Nat := 12

/-- The character that the choice at a position selects.  The position itself is the choice when
there are no more. -/
def char (source : IdSource) (position : Nat) : Char :=
  let choice := (source.choices[position]?).getD position
  (alphabet[(choice % 62).toNat]?).getD 'a'

/-- A new identifier, and the source after it. -/
def next (source : IdSource) : Text × IdSource :=
  ((List.range idLength).map fun i ↦ source.char (source.used + i),
    { source with used := source.used + idLength })

end IdSource

end MailGateway
