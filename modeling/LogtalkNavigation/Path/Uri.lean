import LogtalkNavigation.Path.Address
import LogtalkNavigation.Path.Basic
import LogtalkNavigation.Text.Utf8

/-! Document URIs. Writing a path as a URI encodes its UTF-8 bytes by percent signs; reading one
takes the text apart by scheme, host, path, query and fragment, and decodes the path. -/

namespace LogtalkNavigation

namespace Percent

def isPlain (byte : UInt8) : Bool :=
  let c := Char.ofNat byte.toNat
  byte < 0x80 && (c.isAlphanum || c == '_' || c == '.' || c == '-' || c == '~' || c == '/')

def digit (value : Nat) : Char := Char.ofNat (if value < 10 then 48 + value else 55 + value)

def encodeByte (byte : UInt8) : Text :=
  if isPlain byte then [Char.ofNat byte.toNat]
  else ['%', digit (byte.toNat / 16), digit (byte.toNat % 16)]

def encode (text : Text) : Text := (Utf8.encode text).flatMap encodeByte

def value? (c : Char) : Option Nat :=
  if '0' ≤ c ∧ c ≤ '9' then some (c.toNat - 48)
  else if 'a' ≤ c ∧ c ≤ 'f' then some (c.toNat - 87)
  else if 'A' ≤ c ∧ c ≤ 'F' then some (c.toNat - 55)
  else none

def bytes : Text → List UInt8
  | '%' :: a :: b :: text =>
    match value? a, value? b with
    | some high, some low => UInt8.ofNat (high * 16 + low) :: bytes text
    | _, _ => 37 :: bytes (a :: b :: text)
  | c :: text => UInt8.ofNat c.toNat :: bytes text
  | [] => []

/-- Decodes a text whose ASCII part read so far is `run`, latest character first. Every stretch of
ASCII is decoded on its own. -/
def decodeFrom (run : Text) : Text → Text
  | [] => Utf8.decode (bytes run.reverse)
  | c :: text =>
    if c.toNat < 0x80 then decodeFrom (c :: run) text
    else Utf8.decode (bytes run.reverse) ++ c :: decodeFrom [] text

def decode (text : Text) : Text := decodeFrom [] text

end Percent

structure Uri where
  scheme : Text
  host : Text
  path : Text
deriving DecidableEq

namespace Uri

inductive Fault where
  | strayBracket
  | noAddress (host : Text)
  | dottedAddress
  | laterAddress
  | disguisedDelimiter (host : Text)
deriving DecidableEq, Repr

def isSchemeChar (c : Char) : Bool :=
  c.toNat < 0x80 && (c.isAlphanum || c == '+' || c == '-' || c == '.')

def splitScheme (text : Text) : Text × Text :=
  let front := text.takeWhile (· ≠ ':')
  match front, text.drop front.length with
  | first :: _, ':' :: rest =>
    if first.isAlpha && front.all isSchemeChar then (front.map Char.toLower, rest) else ([], text)
  | _, _ => ([], text)

def splitHost (text : Text) : Text × Text :=
  match text with
  | '/' :: '/' :: rest => rest.span fun c => c ≠ '/' && c ≠ '?' && c ≠ '#'
  | _ => ([], text)

def schemesWithParameters : List String :=
  ["", "ftp", "hdl", "prospero", "http", "imap", "https", "shttp", "rtsp", "rtspu", "sip", "sips",
    "mms", "sftp", "tel"]

def cutParameters (path : Text) : Text :=
  let last := (path.reverse.takeWhile (· ≠ '/')).reverse
  path.take (path.length - last.length) ++ last.takeWhile (· ≠ ';')

def disguises : List Nat := [
    0x2047, 0x2048, 0x2049, 0x2100, 0x2101, 0x2105, 0x2106, 0x2A74, 0xFE13, 0xFE16, 0xFE55, 0xFE56,
    0xFE5F, 0xFE6B, 0xFF03, 0xFF0F, 0xFF1A, 0xFF1F, 0xFF20]

def checkAddress (host : Text) : Except Fault Unit :=
  if host.head? = some 'v' then if Address.isLater host then .ok () else .error .laterAddress
  else if Address.isDotted host then .error .dottedAddress
  else if Address.isGrouped host then .ok ()
  else .error (.noAddress host)

/-- Checks a host with square brackets. What is in front of the last at sign names a user. Behind it,
brackets enclose an address, and only a colon and more may follow; without brackets there the address
ends at the first colon. -/
def checkBrackets (host : Text) : Except Fault Unit :=
  let server := (Text.afterLast? ['@'] host).getD host
  match server.span (· ≠ '[') with
  | (server, []) => checkAddress (server.takeWhile (· ≠ ':'))
  | ([], _ :: enclosed) =>
    let address := enclosed.takeWhile (· ≠ ']')
    match enclosed.drop (address.length + 1) with
    | [] | ':' :: _ => checkAddress address
    | _ => .error .strayBracket
  | _ => .error .strayBracket

def checkHost (host : Text) : Except Fault Unit := do
  if host.contains '[' != host.contains ']' then .error .strayBracket
  if host.contains '[' then checkBrackets host
  if host.any fun c => disguises.contains c.toNat then .error (.disguisedDelimiter host)

/-- Takes a text apart. Control characters and spaces in front of it do not count, nor do tabs and line
ends anywhere. -/
def ofText (text : Text) : Except Fault Uri := do
  let text := text.dropWhile fun c => c.toNat ≤ 0x20
  let text := text.filter fun c => c ≠ '\t' && c ≠ '\r' && c ≠ '\n'
  let (scheme, rest) := splitScheme text
  let (host, rest) := splitHost rest
  checkHost host
  let path := (rest.takeWhile (· ≠ '#')).takeWhile (· ≠ '?')
  let path := if schemesWithParameters.contains (String.ofList scheme) then cutParameters path
    else path
  return ⟨scheme, host, path⟩

def toPath (text : Text) : Except Fault Path := do
  let uri ← ofText text
  return if uri.scheme = "file".toList then Path.ofText (Percent.decode uri.path)
    else Path.ofText text

end Uri

def Path.uri (p : Path) : Text := "file://".toList ++ Percent.encode p.text

end LogtalkNavigation
