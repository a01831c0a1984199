import PlaybookAssist.Digest
import PlaybookAssist.Text.Blank

/-!
# Document URIs

A document is named by a URI or by a plain path. Its file is found through the path part of the URI,
percent escapes resolved; services learn no more of it than a digest.

## Main definitions

- `Uri.toPath` : the path that a URI or plain path names, or why its host is refused
- `Uri.ofPath` : the `file` URI of an absolute path
- `Uri.documentId` : the opaque name of a document
-/

namespace PlaybookAssist.Uri

/-! ## Hosts -/

/-- A host in brackets is refused, or one with a bracket too few, or one that would name a path or a
    port once its characters are replaced by their plain equivalents. -/
inductive Fault where
  | unbalancedBrackets
  | invalidBracketedHost
  | deceptiveHost
  deriving DecidableEq, Repr

/-- The characters whose plain equivalents hold one of `/`, `?`, `#`, `@` and `:`. -/
def deceptiveCharacters : List Nat :=
  [0x2047, 0x2048, 0x2049, 0x2100, 0x2101, 0x2105, 0x2106, 0x2a74, 0xfe13, 0xfe16, 0xfe55, 0xfe56,
   0xfe5f, 0xfe6b, 0xff03, 0xff0f, 0xff1a, 0xff1f, 0xff20]

/-- Is the text a group of one to four hexadecimal digits? -/
def isHextet (t : Text) : Bool :=
  !t.isEmpty && t.length ≤ 4 && t.all fun c => (Text.hexValue? c).isSome

/-- Is the text a number from 0 to 255 without leading zeros? -/
def isDecimalOctet (t : Text) : Bool :=
  let value := t.foldl (fun n c => 10 * n + (c.toNat - '0'.toNat)) 0
  !t.isEmpty && t.length ≤ 3 && t.all Char.isDigit && (t = ['0'] || t.head? ≠ some '0')
    && value ≤ 255

/-- Is the text four decimal octets with dots between them? -/
def isDottedQuad (t : Text) : Bool :=
  let parts := Text.splitOn '.' t
  parts.length = 4 && parts.all isDecimalOctet

/-- Are the groups of an address, in which one inner gap may stand for zeros, well formed? -/
def areGroups (parts : List Text) : Bool :=
  let inner := (parts.drop 1).dropLast
  let gaps := inner.countP List.isEmpty
  if gaps = 0 then parts.length = 8 && parts.all isHextet
  else if gaps = 1 then
    let before := parts.takeWhile fun p => !p.isEmpty
    let high := if parts.head? == some [] then [] else before
    let afterHigh := if parts.head? == some [] then parts.drop 1 else parts.drop high.length
    -- the first of the remaining groups is the gap itself
    let low := afterHigh.drop 1
    let low := if low.getLast? == some [] then low.dropLast else low
    afterHigh.head? == some [] && high.all isHextet && low.all isHextet
      && high.length + low.length ≤ 7
  else false

/-- Is the text an address of eight groups, perhaps with a zone after a percent sign? -/
def isSixthVersionAddress (t : Text) : Bool :=
  let (address, zone) := Text.cut '%' t
  let zoneFits := match zone with
    | none => true
    | some z => !z.isEmpty && !z.elem '%'
  let parts := Text.splitOn ':' address
  let last := parts.getLast?.getD []
  let (groups, dotted) :=
    if last.elem '.' then (parts.dropLast ++ [['0'], ['0']], isDottedQuad last) else (parts, true)
  !t.elem '/' && zoneFits && dotted && 3 ≤ parts.length && groups.length ≤ 9 && areGroups groups

/-- Is the text an address of a version to come: `v`, hexadecimal digits, a dot and more? -/
def isFutureAddress (t : Text) : Bool :=
  match t with
  | 'v' :: rest =>
    match Text.cut '.' rest with
    | (version, some address) =>
      !version.isEmpty && version.all (fun c => (Text.hexValue? c).isSome) && !address.isEmpty
        && !address.elem '\n'
    | (_, none) => false
  | _ => false

/-- The address in a host part with brackets, behind the name of a user; nothing stands before an
    opening bracket, and only a port behind the closing one. -/
def addressOf? (host : Text) : Option Text :=
  let place := ((Text.cutLast? '@' host).map (·.2)).getD host
  match Text.cut '[' place with
  | (_, none) => some (Text.cut ':' place).1
  | (_ :: _, some _) => none
  | ([], some bracketed) =>
    match Text.cut ']' bracketed with
    | (address, some (c :: _)) => if c = ':' then some address else none
    | (address, _) => some address

/-- Is the text an address as brackets may hold it? -/
def isBracketed (address : Text) : Bool :=
  if address.head? == some 'v' then isFutureAddress address else isSixthVersionAddress address

/-- What is wrong with the host part of a URI, if anything. -/
def checkHost (host : Text) : Option Fault :=
  let opened := host.elem '['
  if opened != host.elem ']' then some .unbalancedBrackets
  else if opened && !(((addressOf? host).map isBracketed).getD false) then
    some .invalidBracketedHost
  else if host.any fun c => deceptiveCharacters.elem c.toNat then some .deceptiveHost
  else none

/-! ## Parts of a URI -/

/-- The schemes in which a semicolon in the last component begins its parameters. -/
def schemesWithParameters : List Text :=
  ["", "ftp", "hdl", "prospero", "http", "imap", "https", "shttp", "rtsp", "rtspu", "sip", "sips",
   "mms", "sftp", "tel"]

/-- May the character stand in a scheme? -/
def isSchemeChar (c : Char) : Bool :=
  c.isAlphanum || c = '+' || c = '-' || c = '.'

/-- The scheme in front of the first colon, in small letters, and what follows it; the scheme is
    empty when the text before the colon is none. -/
def splitScheme (uri : Text) : Text × Text :=
  match Text.cut ':' uri with
  | (scheme, some rest) =>
    if (scheme.head?.map Char.isAlpha).getD false && scheme.all isSchemeChar then
      (Text.lowerAscii scheme, rest)
    else ([], uri)
  | (_, none) => ([], uri)

/-- The host after two slashes and what follows it. -/
def splitHost (t : Text) : Text × Text :=
  match t with
  | '/' :: '/' :: rest =>
    let stops (c : Char) : Bool := c = '/' || c = '?' || c = '#'
    (rest.takeWhile fun c => !stops c, rest.dropWhile fun c => !stops c)
  | _ => ([], t)

/-- A path without the parameters of its last component. -/
def dropParameters (p : Text) : Text :=
  let tail := (p.reverse.takeWhile (· ≠ '/')).reverse
  p.take (p.length - tail.length) ++ (Text.cut ';' tail).1

/-! ## Percent escapes -/

/-- The octets of ASCII text in which `%` and two hexadecimal digits stand for an octet. -/
def unescape : Text → Octets
  | '%' :: a :: b :: rest =>
    match Text.hexValue? a, Text.hexValue? b with
    | some x, some y => UInt8.ofNat (16 * x + y) :: unescape rest
    | _, _ => UInt8.ofNat '%'.toNat :: unescape (a :: b :: rest)
  | c :: rest => UInt8.ofNat c.toNat :: unescape rest
  | [] => []

/-- The text in runs of ASCII characters, of which `run` is the one that has been read so far (the
    latest character first), and of other characters; escapes are resolved within a run. -/
def unquoteFrom (run : Text) : Text → Text
  | [] => Utf8.decodeReplacing (unescape run.reverse)
  | c :: rest =>
    if c.toNat < 0x80 then unquoteFrom (c :: run) rest
    else Utf8.decodeReplacing (unescape run.reverse) ++ c :: unquoteFrom [] rest

/-- The text with its percent escapes resolved; octets that spell no character become U+FFFD. -/
def unquote (t : Text) : Text :=
  unquoteFrom [] t

/-- May the character stand for itself in the path of a URI? -/
def isUnescaped (c : Char) : Bool :=
  c.isAlphanum || c = '_' || c = '.' || c = '-' || c = '~' || c = '/'

/-- One octet as a percent escape, or as itself where it may be. -/
def escapeOctet (b : UInt8) : Text :=
  let c := Char.ofNat b.toNat
  if isUnescaped c then [c]
  else '%' :: (Text.hex 2 b.toNat).map Char.toUpper

/-- The text with every octet that may not stand for itself escaped. -/
def quote (t : Text) : Text :=
  (Utf8.encode t).flatMap escapeOctet

/-! ## Documents -/

/-- The text without control characters and blanks at its front, tabs and line ends. -/
def cleaned (uri : Text) : Text :=
  (uri.dropWhile fun c => c.toNat ≤ 0x20).filter fun c => c ≠ '\t' && c ≠ '\r' && c ≠ '\n'

/-- The path of the document that a URI or plain path names. -/
def toPath (uri : Text) : Except Fault Text :=
  let (scheme, rest) := splitScheme (cleaned uri)
  let (host, rest) := splitHost rest
  match checkHost host with
  | some fault => .error fault
  | none =>
    let path := (Text.cut '?' (Text.cut '#' rest).1).1
    .ok (unquote (if schemesWithParameters.elem scheme then dropParameters path else path))

/-- The `file` URI of an absolute path. -/
def ofPath (path : Text) : Text :=
  "file://".toList ++ quote path

/-- The opaque name of a document, from which its URI cannot be recovered. -/
def documentId (uri : Text) : Text :=
  "document-".toList ++ Digest.hexText (Utf8.encode uri)

end PlaybookAssist.Uri
