import SipCodec.Message.Basic
import SipCodec.Text.Writer

/-! How each value is written into a writer: the tree of writes of its renderer. A renderer
opens a counting writer, prints its fixed parts and its leaf values in single writes, and calls
the renderers of its parts as steps of that writer. A list header writes each entry's full text
in one write, with a comma and a blank written between two entries. Parameters of the
authentication headers are written one by one with their separators. A header line read from a
message is written in one write. -/

namespace SipCodec

open Writes

namespace Writes

/-- The entries of a list, each in one write, with a comma and a blank between two. -/
def entries (items : List Bytes) : Writes := counted (separated (lit ", ") (items.map put))

end Writes

namespace Userinfo

/-- The user, then a colon and the password when there is one. -/
def writes (u : Userinfo) : Writes :=
  counted ([put (Percent.encode Percent.isUserChar u.user)] ++
    (u.password.map fun p => put (58 :: Percent.encode Percent.isPasswordChar p)).toList)

end Userinfo

namespace HostPort

/-- The host in one write, then a colon and the port when there is one. -/
def writes (hp : HostPort) : Writes :=
  counted ([put hp.host.render] ++ (hp.port.map fun p => put (58 :: Bytes.ofNat p)).toList)

end HostPort

namespace Param

/-- A semicolon and the name, then an equals sign and the value when there is one. -/
def writes (p : Param) : Writes :=
  counted ([put (59 :: escape p.name)] ++ (p.value.map fun v => put (61 :: escape v)).toList)

end Param

namespace Params

def writes (ps : List Param) : Writes := counted (ps.map Param.writes)

end Params

namespace Uri

/-- The scheme, the user part and host of a SIP URI, the path, the parameters, and each header
with the `?` or `&` before it. -/
def writes (u : Uri) : Writes :=
  counted ((u.scheme.map fun s => put (Bytes.toLower s.name ++ [58])).toList ++
    (if u.isSip && !u.hostPort.isZero then
      (u.userinfo.map fun a => [a.writes, put [64]]).getD [] ++ [u.hostPort.writes]
    else []) ++
    [put u.path, Params.writes u.params] ++
    u.headers.zipIdx.flatMap fun ((name, value), i) =>
      [put (if i == 0 then [63] else [38]),
        put (Percent.encode Percent.isHeaderChar name ++ [61] ++
          Percent.encode Percent.isHeaderChar value)])

end Uri

namespace UriWithParams

def writes (wp : UriWithParams) : Writes :=
  counted [put [60], wp.uri.writes, put [62], Params.writes wp.params]

/-- The entries with a comma and a blank between two, each by its own renderer. -/
def writesList (l : List UriWithParams) : Writes := counted (separated (lit ", ") (l.map writes))

end UriWithParams

namespace NameAddr

def writes (a : NameAddr) : Writes :=
  counted ((a.displayName.map fun d => put (Lexical.quote d ++ [32])).toList ++
    [put [60], a.uri.writes, put [62], Params.writes a.params])

end NameAddr

namespace MediaType

def writes (m : MediaType) : Writes :=
  counted [put (m.type ++ [47] ++ m.subtype), Params.writes m.params]

end MediaType

namespace Tagged

def writes (t : Tagged) : Writes := counted [put t.token, Params.writes t.params]

end Tagged

namespace Challenge

/-- The scheme, then a blank and the parameters unless the challenge is bare. -/
def writes (c : Challenge) : Writes :=
  counted (put c.scheme ::
    if c.isBare then [] else put [32] :: separated (lit ", ") (c.items.map put))

end Challenge

namespace Credentials

/-- The scheme, then a blank and the parameters unless the credentials are bare. -/
def writes (c : Credentials) : Writes :=
  counted (put c.scheme ::
    if c.isBare then [] else put [32] :: separated (lit ", ") (c.items.map put))

end Credentials

namespace AuthInfo

def writes (a : AuthInfo) : Writes := counted (separated (lit ", ") (a.items.map put))

end AuthInfo

namespace RetryAfter

def writes (r : RetryAfter) : Writes :=
  counted ([put (Bytes.ofNat r.delay)] ++
    (r.comment.map fun c => put (lit " (" ++ c ++ lit ")")).toList ++ [Params.writes r.params])

end RetryAfter

namespace Timestamp

def writes (t : Timestamp) : Writes :=
  counted (put t.value :: if t.delay.isEmpty then [] else [put (32 :: t.delay)])

end Timestamp

namespace TypedHeader

/-- The value's tree of writes, by header. -/
def valueWrites : TypedHeader → Writes
  | .accept l => entries (l.map MediaType.render)
  | .acceptEncoding l | .acceptLanguage l => entries (l.map Tagged.render)
  | .alertInfo l | .callInfo l | .errorInfo l => UriWithParams.writesList l
  | .allow l => entries (l.map Method.name)
  | .authenticationInfo a => a.writes
  | .authorization c | .proxyAuthorization c => c.writes
  | .callId id => put id
  | .contact c => if c.wildcard then put [42] else entries (c.addrs.map NameAddr.render)
  | .contentDisposition d | .event d | .subscriptionState d => d.writes
  | .contentEncoding l | .contentLanguage l | .proxyRequire l | .require l | .supported l
  | .unsupported l => put (TokenList.render l)
  | .contentLength n | .expires n | .maxForwards n | .minExpires n => put (Bytes.ofNat n)
  | .contentType m => m.writes
  | .cseq c => put c.render
  | .date t => put t.renderHttp
  | .fromAddr a | .replyTo a | .toAddr a => a.writes
  | .inReplyTo ids => entries ids
  | .mimeVersion v | .priority v => put v
  | .proxyAuthenticate c | .wwwAuthenticate c => c.writes
  | .recordRoute l | .route l => entries (l.map NameAddr.render)
  | .retryAfter r => r.writes
  | .timestamp t => t.writes
  | .via hops => entries (hops.map ViaHop.render)
  | .warning l => entries (l.map WarningValue.render)

/-- The name and a colon and blank, then the value. -/
def writes (compact : Bool) (h : TypedHeader) : Writes :=
  counted [put (lit (if compact then h.compactName else h.canonicName) ++ lit ": "), h.valueWrites]

end TypedHeader

namespace Header

/-- A header line as read is written in one write. -/
def writes (compact : Bool) (h : Header) : Writes := put (h.render compact)

end Header

namespace Headers

/-- Each line, then its CRLF. -/
def writes (compact : Bool) (hs : List Header) : Writes :=
  counted (hs.flatMap fun h => [h.writes compact, put (lit "\r\n")])

end Headers

namespace StartLine

/-- A request line writes the method and a blank, the URI, and a blank and the version; a
status line is written in one write. -/
def writes : StartLine → Writes
  | .request m u v => counted [put (m.name ++ [32]), u.writes, put (32 :: v.render)]
  | l@(.status _ _ _) => put l.render

end StartLine

namespace Message

def writes (compact : Bool) (m : Message) : Writes :=
  counted [m.start.writes, put (lit "\r\n"), Headers.writes compact m.headers, put (lit "\r\n"),
    put m.body]

end Message

/-- The values that are written into a writer: a URI, a parameter list, a list of URIs with
parameters, a header line as read or typed, a list of header lines, and a message. -/
inductive Renderable where
  | uri (u : Uri)
  | params (ps : List Param)
  | uriList (l : List UriWithParams)
  | header (h : Header)
  | typed (t : TypedHeader)
  | headers (hs : List Header)
  | message (m : Message)
  deriving Inhabited

namespace Renderable

/-- The text of the value; `compact` writes known header names in their compact form. -/
def render (compact : Bool) : Renderable → Bytes
  | .uri u => u.render
  | .params ps => Params.render ps
  | .uriList l => UriWithParams.renderList l
  | .header h => h.render compact
  | .typed t => t.render compact
  | .headers hs => Headers.render compact hs
  | .message m => m.render compact

/-- The tree of writes of the value's renderer. -/
def writes (compact : Bool) : Renderable → Writes
  | .uri u => u.writes
  | .params ps => Params.writes ps
  | .uriList l => UriWithParams.writesList l
  | .header h => h.writes compact
  | .typed t => t.writes compact
  | .headers hs => Headers.writes compact hs
  | .message m => m.writes compact

end Renderable

end SipCodec
