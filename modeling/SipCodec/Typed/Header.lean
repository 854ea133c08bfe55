import SipCodec.Typed.NameAddr
import SipCodec.Typed.Via
import SipCodec.Typed.Credentials
import SipCodec.Typed.Challenge
import SipCodec.Typed.Media
import SipCodec.Typed.Words
import SipCodec.Typed.Warning
import SipCodec.Typed.Timing
import SipCodec.Typed.Date

/-! Typed headers: the value of each header that has a structure, read from the header's text
and written back in a normal form. Each header has a canonical name and a compact form of it
(RFC 3261 §7.3.3); the value is compared, checked and written by the rules of its kind. -/

namespace SipCodec

/-- A header value of a known structure, by header. -/
inductive TypedHeader where
  | accept (types : List MediaType)
  | acceptEncoding (values : List Tagged)
  | acceptLanguage (values : List Tagged)
  | alertInfo (entries : List UriWithParams)
  | allow (methods : List Method)
  | authenticationInfo (info : AuthInfo)
  | authorization (cred : Credentials)
  | callId (id : Bytes)
  | callInfo (entries : List UriWithParams)
  | contact (c : Contact)
  | contentDisposition (d : Tagged)
  | contentEncoding (tokens : List Bytes)
  | contentLanguage (tokens : List Bytes)
  | contentLength (n : Nat)
  | contentType (m : MediaType)
  | cseq (c : CSeq)
  | date (t : CivilTime)
  | errorInfo (entries : List UriWithParams)
  | event (e : Tagged)
  | expires (n : Nat)
  | fromAddr (a : NameAddr)
  | inReplyTo (ids : List Bytes)
  | maxForwards (n : Nat)
  | mimeVersion (v : Bytes)
  | minExpires (n : Nat)
  | priority (p : Bytes)
  | proxyAuthenticate (c : Challenge)
  | proxyAuthorization (cred : Credentials)
  | proxyRequire (tokens : List Bytes)
  | recordRoute (addrs : List NameAddr)
  | replyTo (a : NameAddr)
  | require (tokens : List Bytes)
  | retryAfter (r : RetryAfter)
  | route (addrs : List NameAddr)
  | subscriptionState (s : Tagged)
  | supported (tokens : List Bytes)
  | timestamp (t : Timestamp)
  | toAddr (a : NameAddr)
  | unsupported (tokens : List Bytes)
  | via (hops : List ViaHop)
  | warning (values : List WarningValue)
  | wwwAuthenticate (c : Challenge)
  deriving Inhabited

namespace TypedHeader

/-- The canonical name of the header. -/
def canonicName : TypedHeader → String
  | .accept _ => "Accept"
  | .acceptEncoding _ => "Accept-Encoding"
  | .acceptLanguage _ => "Accept-Language"
  | .alertInfo _ => "Alert-Info"
  | .allow _ => "Allow"
  | .authenticationInfo _ => "Authentication-Info"
  | .authorization _ => "Authorization"
  | .callId _ => "Call-ID"
  | .callInfo _ => "Call-Info"
  | .contact _ => "Contact"
  | .contentDisposition _ => "Content-Disposition"
  | .contentEncoding _ => "Content-Encoding"
  | .contentLanguage _ => "Content-Language"
  | .contentLength _ => "Content-Length"
  | .contentType _ => "Content-Type"
  | .cseq _ => "CSeq"
  | .date _ => "Date"
  | .errorInfo _ => "Error-Info"
  | .event _ => "Event"
  | .expires _ => "Expires"
  | .fromAddr _ => "From"
  | .inReplyTo _ => "In-Reply-To"
  | .maxForwards _ => "Max-Forwards"
  | .mimeVersion _ => "MIME-Version"
  | .minExpires _ => "Min-Expires"
  | .priority _ => "Priority"
  | .proxyAuthenticate _ => "Proxy-Authenticate"
  | .proxyAuthorization _ => "Proxy-Authorization"
  | .proxyRequire _ => "Proxy-Require"
  | .recordRoute _ => "Record-Route"
  | .replyTo _ => "Reply-To"
  | .require _ => "Require"
  | .retryAfter _ => "Retry-After"
  | .route _ => "Route"
  | .subscriptionState _ => "Subscription-State"
  | .supported _ => "Supported"
  | .timestamp _ => "Timestamp"
  | .toAddr _ => "To"
  | .unsupported _ => "Unsupported"
  | .via _ => "Via"
  | .warning _ => "Warning"
  | .wwwAuthenticate _ => "WWW-Authenticate"

/-- The compact name of the header, or its canonical name when it has none. -/
def compactName (h : TypedHeader) : String :=
  match h with
  | .callId _ => "i"
  | .contact _ => "m"
  | .contentEncoding _ => "e"
  | .contentLength _ => "l"
  | .contentType _ => "c"
  | .event _ => "o"
  | .fromAddr _ => "f"
  | .supported _ => "k"
  | .toAddr _ => "t"
  | .via _ => "v"
  | _ => h.canonicName

/-- The value as written in a header line. -/
def renderValue : TypedHeader → Bytes
  | .accept l => MediaType.renderList l
  | .acceptEncoding l | .acceptLanguage l => Tagged.renderList l
  | .alertInfo l | .callInfo l | .errorInfo l => UriWithParams.renderList l
  | .allow l => Bytes.joinWith (lit ", ") (l.map Method.name)
  | .authenticationInfo a => a.render
  | .authorization c | .proxyAuthorization c => c.render
  | .callId id => id
  | .contact c => c.render
  | .contentDisposition d | .event d | .subscriptionState d => d.render
  | .contentEncoding l | .contentLanguage l | .proxyRequire l | .require l | .supported l
  | .unsupported l => TokenList.render l
  | .contentLength n | .expires n | .maxForwards n | .minExpires n => Bytes.ofNat n
  | .contentType m => m.render
  | .cseq c => c.render
  | .date t => t.renderHttp
  | .fromAddr a | .replyTo a | .toAddr a => a.render
  | .inReplyTo ids => Bytes.joinWith (lit ", ") ids
  | .mimeVersion v | .priority v => v
  | .proxyAuthenticate c | .wwwAuthenticate c => c.render
  | .recordRoute l | .route l => NameAddr.renderList l
  | .retryAfter r => r.render
  | .timestamp t => t.render
  | .via hops => ViaHop.renderList hops
  | .warning l => WarningValue.renderList l

/-- The header line without its line end, with the compact name when `compact` holds. -/
def render (compact : Bool) (h : TypedHeader) : Bytes :=
  lit (if compact then h.compactName else h.canonicName) ++ lit ": " ++ h.renderValue

/-- Whether two values of the same header are equal by the rules of that header; values of
different headers are never equal. -/
def equal : TypedHeader → TypedHeader → Bool
  | .accept a, .accept b => MediaType.equalList a b
  | .acceptEncoding a, .acceptEncoding b => Tagged.equalList a b
  | .acceptLanguage a, .acceptLanguage b => Tagged.equalList a b
  | .alertInfo a, .alertInfo b => UriWithParams.equalList a b
  | .allow a, .allow b => a.length == b.length && (a.zip b).all fun (x, y) => x.equal y
  | .authenticationInfo a, .authenticationInfo b => a.equal b
  | .authorization a, .authorization b => a.equal b
  | .callId a, .callId b => a == b
  | .callInfo a, .callInfo b => UriWithParams.equalList a b
  | .contact a, .contact b => a.equal b
  | .contentDisposition a, .contentDisposition b => a.equal b
  | .contentEncoding a, .contentEncoding b => TokenList.equal a b
  | .contentLanguage a, .contentLanguage b => TokenList.equal a b
  | .contentLength a, .contentLength b => a == b
  | .contentType a, .contentType b => a.equal b
  | .cseq a, .cseq b => a.equal b
  | .date a, .date b => a.equal b
  | .errorInfo a, .errorInfo b => UriWithParams.equalList a b
  | .event a, .event b => a.equal b
  | .expires a, .expires b => a == b
  | .fromAddr a, .fromAddr b => a.equal b
  | .inReplyTo a, .inReplyTo b => a == b
  | .maxForwards a, .maxForwards b => a == b
  | .mimeVersion a, .mimeVersion b => a == b
  | .minExpires a, .minExpires b => a == b
  | .priority a, .priority b => Bytes.eqFold a b
  | .proxyAuthenticate a, .proxyAuthenticate b => a.equal b
  | .proxyAuthorization a, .proxyAuthorization b => a.equal b
  | .proxyRequire a, .proxyRequire b => TokenList.equal a b
  | .recordRoute a, .recordRoute b => NameAddr.equalList a b
  | .replyTo a, .replyTo b => a.equal b
  | .require a, .require b => TokenList.equal a b
  | .retryAfter a, .retryAfter b => a.equal b
  | .route a, .route b => NameAddr.equalList a b
  | .subscriptionState a, .subscriptionState b => a.equal b
  | .supported a, .supported b => TokenList.equal a b
  | .timestamp a, .timestamp b => a == b
  | .toAddr a, .toAddr b => a.equal b
  | .unsupported a, .unsupported b => TokenList.equal a b
  | .via a, .via b => ViaHop.equalList a b
  | .warning a, .warning b => a == b
  | .wwwAuthenticate a, .wwwAuthenticate b => a.equal b
  | _, _ => false

def isValid : TypedHeader → Bool
  | .accept l => l.all MediaType.isValid
  | .acceptEncoding l | .acceptLanguage l => l.all Tagged.isValid
  | .alertInfo l | .callInfo l | .errorInfo l => !l.isEmpty && l.all UriWithParams.isValid
  | .allow l => l.all Method.isValid
  | .authenticationInfo a => a.isValid
  | .authorization c | .proxyAuthorization c => c.isValid
  | .callId id => CallId.isValid id
  | .contact c => c.isValid
  | .contentDisposition d | .event d | .subscriptionState d => d.isValid
  | .contentEncoding l | .contentLanguage l | .proxyRequire l | .require l
  | .unsupported l => TokenList.isValid false l
  | .supported l => TokenList.isValid true l
  | .contentLength _ | .expires _ | .maxForwards _ | .minExpires _ => true
  | .contentType m => m.isValid
  | .cseq c => c.isValid
  | .date t => !t.isZero
  | .fromAddr a | .replyTo a | .toAddr a => a.isValid
  | .inReplyTo ids => !ids.isEmpty && ids.all CallId.isValid
  | .mimeVersion v => MimeVersion.isValid v
  | .priority p => Lexical.isToken p
  | .proxyAuthenticate c | .wwwAuthenticate c => c.isValid
  | .recordRoute l | .route l => !l.isEmpty && l.all NameAddr.isValid
  | .retryAfter _ => true
  | .timestamp t => t.isValid
  | .via hops => !hops.isEmpty && hops.all ViaHop.isValid
  | .warning l => !l.isEmpty && l.all WarningValue.isValid

/-- Whether a list header holds a token, without regard to case; `none` for headers that are
no such list. -/
def contains? (h : TypedHeader) (tok : Bytes) : Option Bool :=
  match h with
  | .allow l => some (l.any fun m => Bytes.eqFold m.name tok)
  | .contentEncoding l | .contentLanguage l | .proxyRequire l | .require l | .supported l
  | .unsupported l => some (TokenList.contains l tok)
  | _ => none

/-- Cuts a method token at the front. -/
def methodCut : Scan.Cut Bytes := fun s => (Method.tokenize s).map fun (tok, rest) => (rest, tok)

/-- Reads the value of the header with a canonical name; `none` for headers without a typed
form. -/
def parse? (name : String) (s : Bytes) : Option (Outcome TypedHeader) :=
  match name with
  | "Accept" => some (accept <$> MediaType.parseList s)
  | "Accept-Encoding" => some (acceptEncoding <$> Tagged.parseList s)
  | "Accept-Language" => some (acceptLanguage <$> Tagged.parseList s)
  | "Alert-Info" => some (alertInfo <$> UriWithParams.parseList s)
  | "Allow" => some (allow <$> Scan.value s (Scan.optList methodCut) (·.mapM Method.ofToken))
  | "Authentication-Info" => some (authenticationInfo <$> AuthInfo.parse s)
  | "Authorization" => some (authorization <$> Credentials.parse s)
  | "Call-ID" => some (callId <$> CallId.parse s)
  | "Call-Info" => some (callInfo <$> UriWithParams.parseList s)
  | "Contact" => some (contact <$> Contact.parse s)
  | "Content-Disposition" => some (contentDisposition <$> Tagged.parseWith "disposition type expected" s)
  | "Content-Encoding" => some (contentEncoding <$> TokenList.parse s)
  | "Content-Language" => some (contentLanguage <$> TokenList.parse s)
  | "Content-Length" => some (contentLength <$> Scan.parseUint32 s)
  | "Content-Type" => some (contentType <$> MediaType.parse s)
  | "CSeq" => some (cseq <$> CSeq.parse s)
  | "Date" => some (date <$> DateValue.parse s)
  | "Error-Info" => some (errorInfo <$> UriWithParams.parseList s)
  | "Event" => some (event <$> Tagged.parseWith "token expected" s)
  | "Expires" => some (expires <$> Scan.parseUint32 s)
  | "From" => some (fromAddr <$> NameAddr.parse s)
  | "In-Reply-To" => some (inReplyTo <$> CallId.parseList s)
  | "Max-Forwards" => some (maxForwards <$> Scan.parseUint32 s)
  | "MIME-Version" => some (mimeVersion <$> MimeVersion.parse s)
  | "Min-Expires" => some (minExpires <$> Scan.parseUint32 s)
  | "Priority" => some (priority <$> Priority.parse s)
  | "Proxy-Authenticate" => some (proxyAuthenticate <$> Challenge.parse s)
  | "Proxy-Authorization" => some (proxyAuthorization <$> Credentials.parse s)
  | "Proxy-Require" => some (proxyRequire <$> TokenList.parse s)
  | "Record-Route" => some (recordRoute <$> NameAddr.parseList s)
  | "Reply-To" => some (replyTo <$> NameAddr.parse s)
  | "Require" => some (require <$> TokenList.parse s)
  | "Retry-After" => some (retryAfter <$> RetryAfter.parse s)
  | "Route" => some (route <$> NameAddr.parseList s)
  | "Subscription-State" => some (subscriptionState <$> Tagged.parseWith "token expected" s)
  | "Supported" => some (supported <$> TokenList.parseOpt s)
  | "Timestamp" => some (timestamp <$> Timestamp.parse s)
  | "To" => some (toAddr <$> NameAddr.parse s)
  | "Unsupported" => some (unsupported <$> TokenList.parse s)
  | "Via" => some (via <$> ViaHop.parseList s)
  | "Warning" => some (warning <$> WarningValue.parseList s)
  | "WWW-Authenticate" => some (wwwAuthenticate <$> Challenge.parse s)
  | _ => none

end TypedHeader

end SipCodec
