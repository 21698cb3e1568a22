import StructLang.Document.Authority
import StructLang.Text.Utf8

/-!
# Paths of documents

A document is named by a URI: a scheme and a colon, an authority after two slashes, a path, and a
query and a fragment, of which all but the path may be missing. The path has its percent escapes
decoded.
-/

namespace StructLang.Uri

/-- The schemes, no scheme included, in which a semicolon ends the path within its last
segment. -/
def parameterSchemes : List String :=
  ["", "ftp", "hdl", "prospero", "http", "imap", "https", "shttp", "rtsp", "rtspu", "sip",
   "sips", "mms", "sftp", "tel"]

/-- Whether a character may stand in a scheme after its first letter. -/
def isSchemePart (character : Char) : Bool :=
  character.isAlphanum || character == '+' || character == '-' || character == '.'

/-- The text without the blanks and control characters before it, and without tabs and ends of
lines. -/
def clean (text : List Char) : List Char :=
  (text.dropWhile (·.toNat ≤ 0x20)).filter fun character =>
    character != '\t' && character != '\r' && character != '\n'

/-- The scheme in small letters, empty if there is none, and the text after it. -/
def splitScheme (text : List Char) : String × List Char :=
  match text with
  | first :: others =>
      match others.dropWhile isSchemePart with
      | ':' :: rest =>
          if first.isAlpha then
            (String.ofList ((first :: others.takeWhile isSchemePart).map (·.toLower)), rest)
          else ("", text)
      | _ => ("", text)
  | [] => ("", [])

/-- Whether a character may stand in an authority. -/
def isAuthorityPart (character : Char) : Bool :=
  character != '/' && character != '?' && character != '#'

/-- The authority, empty if there is none, and the text after it. -/
def splitAuthority (text : List Char) : List Char × List Char :=
  match text with
  | '/' :: '/' :: rest => (rest.takeWhile isAuthorityPart, rest.dropWhile isAuthorityPart)
  | _ => ([], text)

/-- A path cut at the first semicolon of its last segment. -/
def withoutParameters (path : List Char) : List Char :=
  let lastSegment := (path.reverse.takeWhile (· != '/')).reverse
  let others := path.take (path.length - lastSegment.length)
  others ++ lastSegment.takeWhile (· != ';')

/-- The bytes of a run of ASCII characters, with percent escapes decoded. A percent sign without
two hexadecimal digits stands for itself. -/
def unescape : List Char → List Nat
  | [] => []
  | '%' :: high :: low :: rest =>
      match Alphabet.hexValue? high, Alphabet.hexValue? low with
      | some highValue, some lowValue => (16 * highValue + lowValue) :: unescape rest
      | _, _ => '%'.toNat :: unescape (high :: low :: rest)
  | character :: rest => character.toNat :: unescape rest

/-- A text with percent escapes decoded, given the run of ASCII characters before it. Such runs
are decoded as bytes; other characters stand for themselves. -/
def decodeAfter (run : List Char) : List Char → List Char
  | [] => Text.decodeLossy (unescape run)
  | character :: rest =>
      if character.toNat < 128 then decodeAfter (run ++ [character]) rest
      else Text.decodeLossy (unescape run) ++ character :: decodeAfter [] rest

/-- A text with all its percent escapes decoded, whatever parts of a URI they stand in. -/
def unescaped (text : String) : String := String.ofList (decodeAfter [] text.toList)

/-- The path of a URI. -/
def path (uri : String) : Except UriFault String := do
  let (scheme, afterScheme) := splitScheme (clean uri.toList)
  let (authority, rest) := splitAuthority afterScheme
  Authority.check authority
  let whole := (rest.takeWhile (· != '#')).takeWhile (· != '?')
  let kept := if parameterSchemes.contains scheme then withoutParameters whole else whole
  return String.ofList (decodeAfter [] kept)

end StructLang.Uri
