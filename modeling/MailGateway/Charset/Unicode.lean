import MailGateway.Charset.Decoder

/-!
# Decoders of the Unicode encodings

UTF-8 and the two byte orders of UTF-16.  The shortest wrong sequence is reported: a sequence that
breaks off is wrong up to the byte that does not fit, so that byte is looked at again.
-/

namespace MailGateway.Charset

def isContinuation (b : UInt8) : Bool :=
  0x80 ≤ b && b < 0xc0

def payload (b : UInt8) : Nat :=
  b.toNat % 0x40

/-- Whether `second` may follow the first byte of a sequence: no overlong forms, no surrogates,
nothing above the last code point. -/
def isSecond (first second : UInt8) : Bool :=
  isContinuation second &&
    (if first == 0xe0 then 0xa0 ≤ second
     else if first == 0xed then second < 0xa0
     else if first == 0xf0 then 0x90 ≤ second
     else if first == 0xf4 then second < 0x90
     else true)

/-- UTF-8. -/
def utf8Decoder : Decoder := fun b rest ↦
  if b < 0x80 then .char (Char.ofNat b.toNat) 0
  else if b < 0xc2 then .bad 0 .invalidStart
  else if b < 0xe0 then
    match rest with
    | [] => .bad 0 .unexpectedEnd
    | c :: _ =>
      if isContinuation c then .char (Char.ofNat (b.toNat % 0x20 * 0x40 + payload c)) 1
      else .bad 0 .invalidContinuation
  else if b < 0xf0 then
    match rest with
    | [] => .bad 0 .unexpectedEnd
    | c :: rest =>
      if isSecond b c then
        match rest with
        | [] => .bad 1 .unexpectedEnd
        | d :: _ =>
          if isContinuation d then
            .char (Char.ofNat ((b.toNat % 0x10 * 0x40 + payload c) * 0x40 + payload d)) 2
          else .bad 1 .invalidContinuation
      else .bad 0 .invalidContinuation
  else if b < 0xf5 then
    match rest with
    | [] => .bad 0 .unexpectedEnd
    | c :: rest =>
      if isSecond b c then
        match rest with
        | [] => .bad 1 .unexpectedEnd
        | d :: rest =>
          if isContinuation d then
            match rest with
            | [] => .bad 2 .unexpectedEnd
            | e :: _ =>
              if isContinuation e then
                .char (Char.ofNat
                  (((b.toNat % 0x08 * 0x40 + payload c) * 0x40 + payload d) * 0x40 + payload e)) 3
              else .bad 2 .invalidContinuation
          else .bad 1 .invalidContinuation
      else .bad 0 .invalidContinuation
  else .bad 0 .invalidStart

/-- The order of the two bytes of a unit. -/
inductive ByteOrder where
  | little
  | big
deriving DecidableEq, Repr

def ByteOrder.unit (order : ByteOrder) (first second : UInt8) : Nat :=
  match order with
  | .little => second.toNat * 0x100 + first.toNat
  | .big => first.toNat * 0x100 + second.toNat

/-- UTF-16 in a given byte order. -/
def utf16Decoder (order : ByteOrder) : Decoder := fun b rest ↦
  match rest with
  | [] => .bad 0 .truncated
  | c :: rest =>
    let unit := order.unit b c
    if unit < 0xd800 || 0xe000 ≤ unit then .char (Char.ofNat unit) 1
    else if 0xdc00 ≤ unit then .bad 1 .illegalEncoding
    else match rest with
      | d :: e :: _ =>
        let low := order.unit d e
        if 0xdc00 ≤ low && low < 0xe000 then
          .char (Char.ofNat (0x10000 + (unit - 0xd800) * 0x400 + (low - 0xdc00))) 3
        else .bad 1 .illegalSurrogate
      | rest => .bad (1 + rest.length) .unexpectedEnd

end MailGateway.Charset
