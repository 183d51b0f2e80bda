import RouteSchema.Json.Reader
import RouteSchema.Text.Blank
import RouteSchema.Text.Charset

/-!
# Responses

What a server answers: a status, headers and a body, with the body as a text and as a JSON value.

* `Response.text` decodes the body by the character set of its media type, or as UTF-8. An encoding
  of the platform may make no text of it.
* `Response.json?` reads the body as JSON by its own encoding.
-/

namespace RouteSchema.Http

/-- An answer. -/
structure Response where
  status : Int
  headers : List (String × String)
  body : List UInt8
  deriving DecidableEq, Repr, Inhabited

namespace Response

/-- The value of the header with a name, in letters of either case. -/
def header? (r : Response) (name : String) : Option String :=
  (r.headers.find? fun (k, _) => k.toLower == name.toLower).map Prod.snd

/-- The media type with its parameters; empty without one. -/
def contentType (r : Response) : String := (r.header? "content-type").getD ""

/-- A text without double quotes around it. -/
def unquoted (s : String) : String :=
  match s.toList with
  | '"' :: rest =>
    if rest.getLast? == some '"' then String.ofList rest.dropLast else s
  | _ => s

/-- The parameter of a media type with a name. -/
def parameter? (contentType name : String) : Option String :=
  ((contentType.toList.splitOn ';').drop 1).findSome? fun part =>
    let key := part.takeWhile (· != '=')
    if (Text.strip (String.ofList key)).toLower == name then
      some (unquoted (Text.strip (String.ofList (part.drop (key.length + 1)))))
    else none

/-- The name of the character set of the body. -/
def charsetName? (r : Response) : Option String := parameter? r.contentType "charset"

/-- The character set of the body. -/
def charset (r : Response) : Charset := (r.charsetName?.bind Charset.ofName?).getD .utf8

/-- The encoding of the platform that the body is in. -/
def encoding? [Platform] (r : Response) : Option (List UInt8 → Except Breakdown String) := do
  let name ← r.charsetName?
  if (Charset.ofName? name).isSome then none else Platform.encoding? name

/-- The body as a text. -/
def text [Platform] (r : Response) : Except Breakdown String :=
  match r.encoding? with
  | some decode => if r.body.isEmpty then .ok "" else decode r.body
  | none => .ok (Charset.decodeLossy r.body r.charset)

/-- The body as a JSON value, if it is one. -/
def json? [Platform] (r : Response) : Except Breakdown (Option Value) :=
  match Charset.decode? r.body (Charset.ofJson r.body) with
  | none => .ok none
  | some text =>
    match Json.readAt .answer text with
    | .ok v => .ok (some v)
    | .error .tooDeep => .error .tooDeep
    | .error _ => .ok none

/-- The answer to a request that is not sent. -/
def notSent : Response where
  status := 200
  headers := [("content-type", "application/json")]
  body := Utf8.encode "\x7b\"dry_run\":true,\"message\":\"Request was not sent\"\x7d"

/-- The phrases of the statuses below 400. -/
def reasons : List (Int × String) := [
  (100, "Continue"), (101, "Switching Protocols"), (102, "Processing"), (103, "Early Hints"),
  (200, "OK"), (201, "Created"), (202, "Accepted"), (203, "Non-Authoritative Information"),
  (204, "No Content"), (205, "Reset Content"), (206, "Partial Content"), (207, "Multi-Status"),
  (208, "Already Reported"), (226, "IM Used"),
  (300, "Multiple Choices"), (301, "Moved Permanently"), (302, "Found"), (303, "See Other"),
  (304, "Not Modified"), (305, "Use Proxy"), (307, "Temporary Redirect"),
  (308, "Permanent Redirect")]

/-- The phrase of a status; empty where there is none. -/
def reason (r : Response) : String :=
  ((reasons.find? fun (s, _) => s == r.status).map Prod.snd).getD ""

end Response

/-- How a request can end without an answer. -/
inductive NetworkFault
  | connect
  | readTimeout
  | writeTimeout
  | poolTimeout
  | connectTimeout
  | timeout
  | read
  | write
  | close
  | network
  | remoteProtocol
  | localProtocol
  | proxy
  | unsupportedProtocol
  | tooManyRedirects
  | decoding
  | request
  /-- A fault of the library rather than of a request. -/
  | other (name : String)
  deriving DecidableEq, Repr

/-- Whether a fault lies in the transport, so that another attempt may succeed. -/
def NetworkFault.isTransport : NetworkFault → Bool
  | .tooManyRedirects | .decoding | .request | .other _ => false
  | _ => true

/-- Whether a fault is one of a request. -/
def NetworkFault.isRequest : NetworkFault → Bool
  | .other _ => false
  | _ => true

/-- What an attempt to send a request yields. -/
inductive Exchange
  | reply (r : Response)
  | fault (kind : NetworkFault) (message : String)
  /-- The address is refused before anything is sent. -/
  | badAddress (message : String)
  deriving DecidableEq, Repr

end RouteSchema.Http
