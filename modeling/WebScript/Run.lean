import WebScript.Context
import WebScript.Host
import WebScript.Http.Address
import WebScript.Operation

/-!
# Runs

A script at work: its context and the exchange it takes part in, and what the operations do to
them.

* `Run.perform`: what an operation gives and leaves.
* `Run.callHttp`, `Run.call`: calls by name.
-/

namespace WebScript

/-- A script at work. -/
structure Run where
  context : Context
  exchange : Exchange

/-- Binds a request at a tier; the log says so. -/
def Exchange.bind (x : Exchange) (tier : Tier) (r : Request) (session : Session) : Run :=
  let c := Context.ofRequest tier r session
  ⟨c, x.log (c.line .debug ("bound " ++ c.request.method ++ " " ++ c.subtopic))⟩

/-- Where a redirection to a destination leads: a URL and a path from the root stay as they are,
all else is relative to the URL of the request. -/
def Request.resolve (r : Request) (destination : String) : String :=
  if (Url.parse destination).isOk || destination.toList.head? = some '/' then destination
  else
    match r.url >>= (·.join destination) with
    | .ok url => url.pathAndQuery
    | .error _ => destination

namespace Run

variable (h : Host) (s : Run)

/-- Changes the exchange. -/
def mapExchange (f : Exchange → Exchange) : Run := { s with exchange := f s.exchange }

/-- Sends bytes of the body after status 200. -/
def writeBody (doing : String) (bytes : Bytes) : Result (List Value) × Run :=
  match s.exchange.write bytes with
  | (.ok (), x) => (.ok [], { s with exchange := x })
  | (.error reason, x) => (.error (.during doing reason), { s with exchange := x })

/-- Adds a cookie to the response. It is secure if the host serves over TLS. -/
def setCookie (name value : String) (expires : Int) : Result (List Value) × Run :=
  match (Http.SetCookie.scripted name value expires h.settings.tls.enabled).headerValue with
  | .ok header => (.ok [], s.mapExchange (·.mapHeaders (·.add "Set-Cookie" header)))
  | .error f => (.error f, s)

/-- Reads the body as a multipart form. -/
def parseForm (maxMemory : Int) : Result (List Value) × Run :=
  match s.context.parseForm (h.memoryFor maxMemory) with
  | .ok c => (.ok [], { s with context := c })
  | .error f => (.error (.during "Cannot parse multi-part form" f.message), s)

/-- The file of a field, for which the form is read if it has not been. -/
def getFile (field : String) : Result (List Value) × Run :=
  let c := s.context.withForm h.settings.maxMemory
  let file := match c.file? field with
    | some f => .handle (.file f)
    | none => .nil
  (.ok [file], { s with context := c })

/-- The name under which a template gets the widgets. -/
def widgetsName : String := "widgets"

/-- Compiles the widgets and hands them to the renderer together with the arguments. Failures of
either go to the log. -/
def renderWith (template : String) (args : Members) : Run :=
  let c := s.context
  let (compiled, x) := h.compiler c.request c.session (s.exchange.note .compiled)
  let x := match compiled.failure with
    | some f => x.log (c.line .error ("Cannot compile widget list: " ++ f.display))
    | none => x
  let args := args.insert widgetsName (.object compiled.widgets)
  let x := (x.writeStatus 200).note (.rendered c.request.method template args)
  match h.renderer c.request template args x with
  | (.ok (), x) => { s with exchange := x }
  | (.error f, x) =>
    let line := c.line .error ("Cannot render template " ++ template ++ ": " ++ f.display)
    { s with exchange := x.log line }

/-- Renders a template, if its arguments have a reading. -/
def render (template : String) (args : Option Table) : Result (List Value) × Run :=
  match (args.getD .empty).toJsonMembers with
  | .ok members => (.ok [], s.renderWith h template ⟨members⟩)
  | .error f => (.error (.ofTableFault f), s)

/-- Redirects: status 302 if there is no other to be used. -/
def redirect (destination : Option String) (status : Nat) : Run :=
  let (location, status) := match destination with
    | none => (s.context.subtopic, 302)
    | some d => (s.context.request.resolve d, if status = 0 then 302 else status)
  s.mapExchange fun x => (x.mapHeaders (·.set "Location" location)).writeStatus status

/-- Sends status 200 and then the content of a file. -/
def serveFile (path : String) : Result (List Value) × Run :=
  let s := s.mapExchange (·.writeStatus 200)
  match h.files path with
  | .ok bytes => s.writeBody "Cannot serve file" bytes
  | .error f => (.error (.during "Cannot serve file" f.message), s)

/-- Hands a request to the transport, under the name of the host if it has none of its own. -/
def send (request : OutboundRequest) (answer : OutboundResponse → List Value) :
    Result (List Value) × Run :=
  let request := request.withUserAgent h.settings.userAgent
  let line := ⟨.debug, "outbound request",
    [("method", .text request.method), ("url", .text request.url.serialize)]⟩
  (answer <$> h.transport request, s.mapExchange fun x => (x.log line).note (.sent request))

/-- Sends a request, if it can be made. -/
def sendIf (request : Result OutboundRequest) (answer : OutboundResponse → List Value) :
    Result (List Value) × Run :=
  match request with
  | .ok request => s.send h request answer
  | .error f => (.error f, s)

/-- What an operation gives and leaves. -/
def perform : Operation → Result (List Value) × Run
  | .getCookie name => (.ok [.ofString? (s.context.request.cookie? name)], s)
  | .setCookie name value expires => s.setCookie h name value expires
  | .parseForm maxMemory => s.parseForm h maxMemory
  | .getFile field => s.getFile h field
  | .write data =>
    (s.mapExchange (·.writeStatus 200)).writeBody "Cannot write response" (Bytes.ofText data)
  | .render template args => s.render h template args
  | .redirect destination status => (.ok [], s.redirect destination status)
  | .serveFile path => s.serveFile h path
  | .getHeader name => (.ok [.string (s.exchange.response.headers.get name)], s)
  | .setHeader name value => (.ok [], s.mapExchange (·.mapHeaders (·.set name value)))
  | .remoteAddress =>
    ((fun host => [.string host]) <$> Http.splitHostPort s.context.request.remoteAddress, s)
  | .relativeUrl => (.ok [.string s.context.request.relativeUrl], s)
  | .get url => s.sendIf h (OutboundRequest.ofGet url) fun r => [r.bodyValue]
  | .postForm url data => s.sendIf h (OutboundRequest.ofForm url data) fun r => [r.bodyValue]
  | .request config => s.sendIf h (OutboundRequest.ofConfig config) OutboundResponse.allValues

/-- A call of the object that stands for request and response. A call by a widget is noted in the
log and fails. -/
def callHttp (method : String) (args : List Value) : Result (List Value) × Run :=
  let s := if s.context.tier = .widget then
      s.mapExchange (·.log (s.context.line .warn ("widget script called '" ++ method ++ "'")))
    else s
  match (Operation.methods s.context.tier).read s.context.tier method args with
  | .ok op => s.perform h op
  | .error f => (.error f, s)

/-- The validator of a script. Widgets have none. -/
def validator? : Option Validator :=
  if s.context.tier = .widget then none else some (h.validator s.context.tier)

/-- A call of one of the objects that a script knows by name. -/
def call (target method : String) (args : List Value) : Result (List Value) × Run :=
  if target = "http" then s.callHttp h method args
  else if target = "validator" then
    match s.validator? h with
    | some v => (v.call method args, s)
    | none => (.error (.notRegistered "validator"), s)
  else (.error (.notRegistered target), s)

end Run

end WebScript
