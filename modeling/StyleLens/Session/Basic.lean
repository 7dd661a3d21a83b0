import StyleLens.Json.Printer
import StyleLens.Session.Message
import StyleLens.Workspace

/-!
# Sessions

A session with a client, from its start to its exit. Before it is started and
after the shutdown, every request is refused and every notification ignored. In
between, documents are opened, changed and closed, and hovers are asked for. A
method that is not of the protocol is not found at any time.

* `Session.step`: one message of the client;
* `Session.receive`: anything that arrives from it.

What the session needs from outside, the files and the parser, are its `Services`.
-/

namespace StyleLens

/-- How far a session is. -/
inductive Phase where
  | fresh
  | running
  | stopped
  | over
  deriving DecidableEq

/-- A session with a client. -/
structure Session where
  phase : Phase
  workspace : Workspace
  guide : Guide

/-- What a session needs from outside. -/
structure Services where
  parse : Parser
  /-- The text of the file at a path, if it can be read. -/
  read : String → Option String

/-- What comes of a message: an answer, messages that the server sends by itself,
    and records in the log. -/
structure Outcome where
  reply : Reply
  sent : List Json
  /-- What is logged on the message. -/
  log : List LogRecord
  /-- What is logged before, on the session itself. -/
  notices : List LogRecord

namespace Outcome

/-- Nothing comes of a message. -/
def none : Outcome := ⟨.silence, [], [], []⟩

/-- Only a notice in the log. -/
def notice (record : LogRecord) : Outcome := ⟨.silence, [], [], [record]⟩

/-- An outcome with a notice in the log before it. -/
def after (record : LogRecord) (o : Outcome) : Outcome :=
  ⟨o.reply, o.sent, o.log, record :: o.notices⟩

/-- Everything that is logged, in order. -/
def records (o : Outcome) : List LogRecord := o.notices ++ o.log

end Outcome

namespace Message

/-- The answer to a message, if it is a request. -/
def answer (m : Message) (value : Json) : Reply :=
  match m.id with
  | some id => .result id value
  | none => .silence

/-- The refusal of a message, if it is a request. -/
def refuse (m : Message) (reason : Refusal) : Outcome :=
  match m.id with
  | some id => ⟨.refusal id reason, [], [], []⟩
  | none => .none

end Message

namespace Session

/-- A session that is not started. -/
def fresh : Session := ⟨.fresh, .empty, .default⟩

/-- What the server tells of itself. -/
def serverInfo : Json :=
  .record [
    ("capabilities", .record [("textDocumentSync", .ofNat 2), ("hoverProvider", .bool true)]),
    ("serverInfo", .record [("name", .text "style_hover"), ("version", .text "0.1.0")])]

/-- What the server says when it is started. -/
def startedMessage : String := "Stylesheet language server initialized"

/-- The guide for a client that renders markdown or not, by its options. -/
def guideFor (services : Services) (markdown : Bool) (options : Option Json) :
    Guide × List LogRecord :=
  let (settings, warnings) := Settings.ofOptions options
  let (dataset, ignored) := Dataset.builtin.withFiles services.read settings.customData
  let note := "Hover configured: markdown " ++ Sections.boolWord markdown ++ ", "
    ++ settings.hover.render ++ ", " ++ Nat.repr dataset.size ++ " documentation entries"
  (⟨dataset, ⟨markdown, settings.hover⟩⟩, warnings ++ ignored ++ [.info note])

/-- The request to start a session that is not started. -/
def start (services : Services) (s : Session) (m : Message) : Session × Outcome :=
  match m.id, m.params with
  | none, _ => (s, .none)
  | some _, none => (s, m.refuse (.invalidParams "Missing params field"))
  | some _, some params =>
    match introduced? params with
    | none => (s, m.refuse (.invalidParams "Invalid params"))
    | some (formats, options) =>
      let (guide, log) := guideFor services (formats.any id) options
      (⟨.running, s.workspace, guide⟩, ⟨m.answer serverInfo, [], log, []⟩)

/-- The request to shut a session down. -/
def shutdown (s : Session) (m : Message) : Session × Outcome :=
  let outcome : Outcome := match m.id, m.params with
    | none, _ => .none
    | some _, none => ⟨m.answer .null, [], [.info "Shutdown requested"], []⟩
    | some _, some params => m.refuse (.invalidParams ("Unexpected params: " ++ params.write))
  (⟨.stopped, s.workspace, s.guide⟩,
    outcome.after (.info "shutdown request received, shutting down"))

/-- The hover at a place in an open document. -/
def hover (s : Session) (uri : String) (p : Position) : Option Hover × List LogRecord :=
  match s.workspace.get? uri with
  | none => (none, [.warn ("Hover for a document that is not open: " ++ uri)])
  | some d =>
    (s.guide.hoverIn? d p,
      if d.tree.isNone then [.warn ("No syntax tree available for " ++ uri)] else [])

/-- A message with parameters, in a session that is running. -/
def serve (services : Services) (s : Session) (m : Message) (method : Method) (params : Json) :
    Session × Outcome :=
  let invalid := (s, m.refuse (.invalidParams "Invalid params"))
  match method with
  | .started =>
    if !isEmptyRecord params then invalid else
    let message := Json.record [("jsonrpc", .text "2.0"), ("method", .text "window/logMessage"),
      ("params", .record [("type", .ofNat 3), ("message", .text startedMessage)])]
    (s, ⟨.silence, [message], [.info startedMessage], []⟩)
  | .didOpen =>
    match opened? params with
    | none => invalid
    | some (uri, languageId, version, text) =>
      let (w, log) := s.workspace.load services.parse uri languageId text version
      let note := LogRecord.info ("Opened " ++ uri ++ " (" ++ languageId ++ ")")
      (⟨s.phase, w, s.guide⟩, ⟨.silence, [], note :: log, []⟩)
  | .didChange =>
    match changed? params with
    | none => invalid
    | some (uri, version, changes) =>
      let (w, log) := s.workspace.edit services.parse uri changes version
      (⟨s.phase, w, s.guide⟩, ⟨.silence, [], log, []⟩)
  | .didClose =>
    match closed? params with
    | none => invalid
    | some uri =>
      (⟨s.phase, s.workspace.drop uri, s.guide⟩,
        ⟨.silence, [], [.info ("Closed " ++ uri)], []⟩)
  | .hover =>
    match pointed? params with
    | none => invalid
    | some (uri, p) =>
      let (hover, log) := s.hover uri p
      (s, ⟨m.answer ((hover.map Hover.toJson).getD .null), [], log, []⟩)
  | .otherRequest => (s, m.refuse (.methodNotFound none))
  | _ => (s, .none)

/-- A message in a session that is running. A notification with an id is
    refused, and a request without one is ignored. -/
def run (services : Services) (s : Session) (m : Message) (method : Method) : Session × Outcome :=
  if method.isNotification && m.id.isSome then (s, m.refuse .invalidRequest)
  else if !method.isNotification && m.id.isNone then (s, .none)
  else
    match m.params with
    | some params => s.serve services m method params
    | none => (s, m.refuse (.invalidParams "Missing params field"))

/-- A message with a method that is not of the protocol. It is not found, but a
    name that starts with `$/` is for those who know it. -/
def notFound (m : Message) : Outcome :=
  if "$/".toList.isPrefixOf m.method.toList then .none
  else m.refuse (.methodNotFound (some m.method))

/-- One message of the client. -/
def step (services : Services) (s : Session) (m : Message) : Session × Outcome :=
  match s.phase, Method.ofName m.method with
  | .over, _ => (s, ⟨.gone, [], [], []⟩)
  | _, .exit =>
    (⟨.over, s.workspace, s.guide⟩, .notice (.info "exit notification received, stopping"))
  | _, .foreign => (s, notFound m)
  | _, .cancel => (s, m.refuse .invalidRequest)
  | .fresh, .start => s.start services m
  | .fresh, _ => (s, m.refuse .notStarted)
  | _, .start =>
    (s, (m.refuse .invalidRequest).after
      (.warn "received duplicate `initialize` request, ignoring"))
  | .stopped, _ => (s, m.refuse .invalidRequest)
  | .running, .shutdown => s.shutdown m
  | .running, method => s.run services m method

/-- What is logged on the answer to a request of the server. The server makes no
    requests, so nobody waits for it. -/
def onAnswer (id : Json) : LogRecord :=
  match id with
  | .null => .warn "received response with request ID of `null`, ignoring"
  | .string text =>
    .warn ("received response with unknown request ID: " ++ Text.quoted (text.getD ""))
  | id => .warn ("received response with unknown request ID: " ++ id.write)

/-- Anything that arrives from the client. -/
def receive (services : Services) (s : Session) (v : Json) : Session × Outcome :=
  match Arrival.ofJson v with
  | .message m => s.step services m
  | .answer id => (s, .notice (onAnswer id))
  | .unreadable =>
    (s, ⟨.refusal .null .invalidRequest, [], [], [.error
      ("failed to decode message: unable to parse JSON body: "
        ++ "data did not match any variant of untagged enum Message")]⟩)

end Session

end StyleLens
