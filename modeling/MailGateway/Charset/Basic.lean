import MailGateway.Charset.Table
import MailGateway.Charset.Unicode
import MailGateway.Platform

/-!
# Charsets

A charset is found by its name: letters count without case, every other run of characters counts as
one separator, and the customary aliases are known.  A name can also belong to a byte transformation,
or be the one that is reserved for having no charset.  The platform is asked for all other names.
-/

namespace MailGateway

inductive Charset where
  | ascii
  | latin1
  | latin9
  | windows1252
  | windows1251
  | koi8r
  | utf8
  | utf8Marked
  | utf16
  | utf16Of (order : Charset.ByteOrder)
deriving DecidableEq, Repr

namespace Charset

/-- What a name that is known everywhere belongs to. -/
inductive Known where
  | charset (c : Charset)
  | transformation
  | undefined
deriving DecidableEq, Repr

/-- The canonical form of a name: separators become one underscore, and letters small letters. -/
def canonicalAfter (started separated : Bool) : Text → Text
  | [] => []
  | c :: rest =>
    if c.isAlphanum || c == '.' then
      let tail := c.toLower :: canonicalAfter true false rest
      if separated && started then '_' :: tail else tail
    else canonicalAfter started true rest

def canonical (name : Text) : Text :=
  canonicalAfter false false name

def names : List (Text × Known) :=
  let all (names : List String) (k : Known) : List (Text × Known) :=
    names.map fun name ↦ (name.toList, k)
  all ["utf_8", "u8", "utf", "utf8", "utf8_ucs2", "utf8_ucs4", "cp65001"] (.charset .utf8) ++
  all ["utf_8_sig"] (.charset .utf8Marked) ++
  all ["ascii", "646", "ansi_x3.4_1968", "ansi_x3_4_1968", "ansi_x3.4_1986", "cp367", "csascii",
    "ibm367", "iso646_us", "iso_646.irv_1991", "iso_ir_6", "us", "us_ascii"] (.charset .ascii) ++
  all ["latin_1", "8859", "cp819", "csisolatin1", "ibm819", "iso8859", "iso8859_1", "iso_8859_1",
    "iso_8859_1_1987", "iso_ir_100", "l1", "latin", "latin1"] (.charset .latin1) ++
  all ["iso8859_15", "iso_8859_15", "l9", "latin9"] (.charset .latin9) ++
  all ["cp1252", "1252", "windows_1252"] (.charset .windows1252) ++
  all ["cp1251", "1251", "windows_1251"] (.charset .windows1251) ++
  all ["koi8_r", "cskoi8r"] (.charset .koi8r) ++
  all ["utf_16", "u16", "utf16"] (.charset .utf16) ++
  all ["utf_16_le", "unicodelittleunmarked", "utf_16le"] (.charset (.utf16Of .little)) ++
  all ["utf_16_be", "unicodebigunmarked", "utf_16be"] (.charset (.utf16Of .big)) ++
  all ["base64_codec", "base64", "base_64", "bz2_codec", "bz2", "hex_codec", "hex",
    "quopri_codec", "quopri", "quoted_printable", "quotedprintable", "rot_13", "rot13",
    "uu_codec", "uu", "zlib_codec", "zip", "zlib"] .transformation ++
  all ["undefined"] .undefined

/-- The names that are charsets themselves and not aliases.  A dot in a name is read as a separator
only when an alias results. -/
def properNames : List Text :=
  ["utf_8", "utf_8_sig", "ascii", "latin_1", "iso8859_15", "cp1252", "cp1251", "koi8_r", "utf_16",
    "utf_16_le", "utf_16_be", "base64_codec", "bz2_codec", "hex_codec", "quopri_codec", "rot_13",
    "uu_codec", "zlib_codec", "undefined"].map String.toList

/-- What a name belongs to, if it is known everywhere. -/
def known? (name : Text) : Option Known :=
  let key := canonical name
  let dotless := Text.substitute '.' "_" key
  match names.lookup key with
  | some known => some known
  | none => if properNames.contains dotless then none else names.lookup dotless

/-- The charset of a table of upper halves. -/
def tableDecoder (table : List Nat) : Decoder := fun b _ ↦
  if b < 0x80 then .char (Char.ofNat b.toNat) 0
  else match table[b.toNat - 0x80]? with
    | some (n + 1) => .char (Char.ofNat (n + 1)) 0
    | _ => .bad 0 .undefinedByte

/-- How the bytes of a charset are read: the name for errors, the decoder, and the number of bytes
of a mark at the start that is no text. -/
structure Reading where
  codec : Text
  decoder : Decoder
  mark : Nat
  /-- Whether the bytes of the mark count in the positions of errors. -/
  marked : Bool

/-- The reading of bytes under a charset.  A byte order mark selects the order of UTF-16. -/
def reading (charset : Charset) (bytes : List UInt8) : Reading :=
  match charset with
  | .ascii => ⟨"ascii", fun b _ ↦
      if b < 0x80 then .char (Char.ofNat b.toNat) 0 else .bad 0 .outsideAscii, 0, true⟩
  | .latin1 => ⟨"latin-1", fun b _ ↦ .char (Char.ofNat b.toNat) 0, 0, true⟩
  | .latin9 => ⟨"charmap", tableDecoder latin9Table, 0, true⟩
  | .windows1252 => ⟨"charmap", tableDecoder windows1252Table, 0, true⟩
  | .windows1251 => ⟨"charmap", tableDecoder windows1251Table, 0, true⟩
  | .koi8r => ⟨"charmap", tableDecoder koi8rTable, 0, true⟩
  | .utf8 => ⟨"utf-8", utf8Decoder, 0, true⟩
  | .utf8Marked =>
    ⟨"utf-8", utf8Decoder, if bytes.take 3 = [0xef, 0xbb, 0xbf] then 3 else 0, false⟩
  | .utf16 =>
    if bytes.take 2 = [0xfe, 0xff] then ⟨"utf-16-be", utf16Decoder .big, 2, true⟩
    else if bytes.take 2 = [0xff, 0xfe] then ⟨"utf-16-le", utf16Decoder .little, 2, true⟩
    else ⟨"utf-16-le", utf16Decoder .little, 0, true⟩
  | .utf16Of .little => ⟨"utf-16-le", utf16Decoder .little, 0, true⟩
  | .utf16Of .big => ⟨"utf-16-be", utf16Decoder .big, 0, true⟩

/-- Decode with the replacement character in the place of wrong bytes. -/
def lossy (charset : Charset) (bytes : List UInt8) : Text :=
  let r := charset.reading bytes
  r.decoder.lossy (bytes.drop r.mark)

/-- Decode, or report the first wrong bytes. -/
def strict (charset : Charset) (bytes : List UInt8) : Except DecodeError Text :=
  let r := charset.reading bytes
  r.decoder.strict r.codec (if r.marked then r.mark else 0) (bytes.drop r.mark)

def keeping (charset : Charset) (bytes : List UInt8) : Except DecodeError (List Symbol) :=
  let r := charset.reading bytes
  r.decoder.keeping r.codec (if r.marked then r.mark else 0) (bytes.drop r.mark)

/-- The codec of a charset.  Text is only written in the charset that it was decoded from, and there
every text can be written. -/
def codec (charset : Charset) : Codec where
  strict bytes := match charset.strict bytes with
    | .ok text => .ok (Symbol.ofText text)
    | .error e => .error (.undecodable e)
  lossy bytes := .ok (charset.lossy bytes)
  keeping bytes := (charset.keeping bytes).mapError .undecodable
  write _ := .ok ()

inductive Meaning where
  | codec (c : Codec)
  | transformation
  | unknown

def Known.meaning : Known → Meaning
  | .charset c => .codec c.codec
  | .transformation => .transformation
  | .undefined => .codec .undefined

def meaning [Platform] (name : Text) : Meaning :=
  match known? name with
  | some known => known.meaning
  | none =>
    match Platform.codec? (canonical name) with
    | some codec => .codec codec
    | none => .unknown

/-- Why bytes could not be decoded, or text not be written, under the name of a charset. -/
inductive Error where
  | nulInName
  | unknown (name : Text)
  | transformation (name : Text)
  | undecodable (e : DecodeError)
  | refused (name : Text) (refusal : Refusal)
  | unwritableTransformation (name : Text)
  | unwritable (name : Text) (refusal : Refusal)
deriving DecidableEq, Repr

def Error.ofFailure (name : Text) : Codec.Failure → Error
  | .undecodable e => .undecodable e
  | .refused refusal => .refused name refusal

/-- The wording of a refusal.  `action` is what the codec of the name was asked to do. -/
def Refusal.message (action name : Text) : Refusal → Text
  | .named reason => action ++ " with '" ++ name ++ "' codec failed (" ++ reason ++ ")"
  | .worded text => text

def Error.message : Error → Text
  | .nulInName => "embedded null character"
  | .unknown name => "unknown encoding: " ++ name
  | .transformation name => "'" ++ name ++
      "' is not a text encoding; use codecs.decode() to handle arbitrary codecs"
  | .undecodable e => e.message
  | .refused name refusal => refusal.message "decoding" name
  | .unwritableTransformation name => "'" ++ name ++
      "' is not a text encoding; use codecs.encode() to handle arbitrary codecs"
  | .unwritable name refusal => refusal.message "encoding" name

/-- Whether the error says that the name is not the name of a charset. -/
def Error.isLookup : Error → Bool
  | .unknown _ | .transformation _ | .unwritableTransformation _ => true
  | _ => false

section Named

variable [Platform]

/-- Decode bytes under the name of a charset in one of the ways of its codec.  No bytes need no
charset. -/
def decodeNamed (decode : Codec → List UInt8 → Except Codec.Failure (List α)) (name : Text)
    (bytes : List UInt8) : Except Error (List α) :=
  if name.contains '\x00' then .error .nulInName
  else if bytes.isEmpty then .ok []
  else match meaning name with
    | .codec c => (decode c bytes).mapError (.ofFailure name)
    | .transformation => .error (.transformation name)
    | .unknown => .error (.unknown name)

/-- Decode bytes under the name of a charset, replacing wrong bytes. -/
def decodeLossy (name : Text) (bytes : List UInt8) : Except Error Text :=
  decodeNamed Codec.lossy name bytes

/-- Decode bytes under the name of a charset, which have to be right. -/
def decodeStrict (name : Text) (bytes : List UInt8) : Except Error (List Symbol) :=
  decodeNamed Codec.strict name bytes

/-- Decode bytes under the name of a charset, keeping wrong bytes above ASCII. -/
def decodeKeeping (name : Text) (bytes : List UInt8) : Except Error (List Symbol) :=
  decodeNamed Codec.keeping name bytes

/-- Check that symbols can be written under the name of a charset. -/
def checkWritable (name : Text) (symbols : List Symbol) : Except Error Unit :=
  match meaning name with
  | .codec c => (c.write symbols).mapError (.unwritable name)
  | .transformation => .error (.unwritableTransformation name)
  | .unknown => .error (.unknown name)

end Named

end Charset

/-- The text of symbols: undecoded bytes are read as UTF-8 together with the characters around
them, wrong bytes being replaced. -/
def Symbol.toText (symbols : List Symbol) : Text :=
  Charset.lossy .utf8 (symbols.flatMap Symbol.bytes)

end MailGateway
