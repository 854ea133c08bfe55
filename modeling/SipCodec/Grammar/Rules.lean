import SipCodec.Grammar.Node
import SipCodec.Text.Lexical
import SipCodec.Text.Percent

/-! The ABNF rules of RFC 3261 §25.1 that the readers of URIs, parameters, versions and header
lines are built on, with the names of their nodes. IPv4 addresses fall into the host name run;
an address is told from a name only when the host is read. -/

namespace SipCodec.Grammar

open Lexical

def isHostnameChar (c : UInt8) : Bool := Octet.isAlnum c || c == 45 || c == 46 || c == 95

def isIPv6Char (c : UInt8) : Bool := Octet.isHex c || c == 58 || c == 46

/-- Characters of a generic parameter's name or unquoted value. -/
def isGenericParamChar (c : UInt8) : Bool :=
  c == 37 || c == 96 || c == 123 || c == 125 || Percent.isParamChar c

/-- Characters of an absolute path or of the opaque part of a URI. -/
def isPathChar (c : UInt8) : Bool :=
  c > 32 && !(c == 59 || c == 63 || c == 62 || c == 44 || c == 34 || c == 60 || c == 0x7F)

/-- One character of a header value: a folded line break counts as one, a CR that ends the
input is left for the next read. -/
def valueCharLen : Bytes → Nat
  | [] => 0
  | 10 :: rest =>
    match rest with
    | w :: _ => if Octet.isWsp w then 2 else 0
    | [] => 0
  | 13 :: rest =>
    match rest with
    | [] => 0
    | 10 :: w :: _ => if Octet.isWsp w then 3 else 0
    | 10 :: [] => 0
    | _ :: _ => 1
  | _ :: _ => 1

def wsps : Rule := run "1*WSP" Octet.isWsp

def crlf : Rule := literal "CRLF" (lit "\r\n")

/-- `LWS = [*WSP CRLF] 1*WSP` -/
def lws : Rule :=
  concat "LWS" [optional "[fold]" (concat "fold" [optional "*WSP" wsps, crlf]), wsps]

/-- `SWS = [LWS]` -/
def sws : Rule := optional "SWS" lws

/-- `quoted-string = DQUOTE *(qdtext / quoted-pair) DQUOTE` -/
def quotedString : Rule :=
  concat "quoted-string" [octet 34, optional "*qchar" (runOf "qchars" qcharLen), octet 34]

/-- `userinfo = user [ ":" password ] "@"` -/
def userinfo : Rule :=
  concat "userinfo" [
    escapedRun "user" Percent.isUserChar,
    optional "[:password]" (concat ":password" [
      octet 58,
      optional "*password" (escapedRun "password" Percent.isPasswordChar)]),
    octet 64]

/-- `host = hostname / IPv4address / IPv6reference` -/
def host : Rule :=
  altFirst "host" [
    concat "IPv6reference" [octet 91, run "IPv6address" isIPv6Char, octet 93],
    run "hostname" isHostnameChar]

/-- `hostport = host [ ":" port ]` -/
def hostport : Rule :=
  concat "hostport" [host, optional "[:port]" (concat ":port" [octet 58, run "port" Octet.isDigit])]

/-- `server = [ userinfo ] hostport` -/
def server : Rule := concat "server" [optional "[userinfo]" userinfo, hostport]

def uriPath : Rule := run "uri-path" isPathChar

/-- `uri-parameter = ";" pname [ "=" pvalue ]` -/
def uriParameter : Rule :=
  concat "uri-parameter" [
    octet 59,
    escapedRun "pname" Percent.isParamChar,
    optional "[=pvalue]" (concat "=pvalue" [
      octet 61,
      optional "*pvalue" (escapedRun "pvalue" Percent.isParamChar)])]

/-- `header = hname "=" hvalue` (a header of a URI) -/
def uriHeader : Rule :=
  concat "header" [
    escapedRun "hname" Percent.isHeaderChar,
    octet 61,
    optional "*hvalue" (escapedRun "hvalue" Percent.isHeaderChar)]

/-- `generic-param = SEMI token [ EQUAL gen-value ]`, with `gen-value` a quoted string or a
run of parameter characters. -/
def genericParam : Rule :=
  concat "generic-param" [
    sws, octet 59, sws,
    run "gen-name" isGenericParamChar,
    optional "[EQUAL gen-value]" (concat "EQUAL gen-value" [
      sws, octet 61, sws,
      optional "*gen-value" (altFirst "gen-value" [quotedString, run "gen-text" isGenericParamChar])])]

def versionNum : Rule :=
  concat "version-num" [run "major" Octet.isDigit, octet 46, run "minor" Octet.isDigit]

/-- `SIP-Version = "SIP" "/" 1*DIGIT "." 1*DIGIT` -/
def sipVersion : Rule :=
  concat "SIP-Version" [literal "protocol-name" (lit "SIP"), octet 47, versionNum]

/-- `sent-version`: `SIP-Version` with linear white space allowed around the slash. -/
def sentVersion : Rule :=
  concat "sent-version" [literal "protocol-name" (lit "SIP"), sws, octet 47, sws, versionNum]

/-- `message-header = header-name *WSP ":" header-value ( CRLF / LF )` -/
def messageHeader : Rule :=
  concat "message-header" [
    run "header-name" isTokenChar,
    optional "*WSP" wsps,
    octet 58,
    optional "*header-value" (runOf "header-value" valueCharLen),
    concat "EOL" [optional "[CR]" (octet 13), octet 10]]

end SipCodec.Grammar
