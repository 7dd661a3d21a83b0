import StyleLens.Hover.Basic
import StyleLens.Settings
import StyleLens.Uri.Basic

/-!
# Messages of a session

What a client and a server say to each other, and how it is written in JSON. A
message with an id is a request and is answered; one without an id is a
notification.

* `Message`: what a client sends, and `Arrival`: what arrives from it at all;
* `Method`: what it asks for, as far as the server knows it;
* `Reply`: what the server answers.
-/

namespace StyleLens

/-! ### From the client -/

/-- What a client sends. -/
structure Message where
  /-- The id of a request, which its answer repeats. -/
  id : Option Json
  method : String
  params : Option Json

/-- What a message asks for. -/
inductive Method where
  /-- Start the session. -/
  | start
  /-- The session is started. -/
  | started
  | shutdown
  | exit
  | didOpen
  | didChange
  | didClose
  | hover
  /-- Give up a request, which has been answered by then. -/
  | cancel
  /-- A request of the protocol that the server has no answer to. -/
  | otherRequest
  /-- A notification of the protocol that the server does not use. -/
  | otherNotification
  /-- Not of the protocol. -/
  | foreign
  deriving DecidableEq

namespace Method

/-- The requests of the protocol that the server has no answer to. -/
def otherRequests : List String :=
  ["textDocument/willSaveWaitUntil", "textDocument/declaration", "textDocument/definition",
    "textDocument/typeDefinition", "textDocument/implementation", "textDocument/references",
    "textDocument/prepareCallHierarchy", "callHierarchy/incomingCalls",
    "callHierarchy/outgoingCalls", "textDocument/prepareTypeHierarchy",
    "typeHierarchy/supertypes", "typeHierarchy/subtypes", "textDocument/documentHighlight",
    "textDocument/documentLink", "documentLink/resolve", "textDocument/codeLens",
    "codeLens/resolve", "textDocument/foldingRange", "textDocument/selectionRange",
    "textDocument/documentSymbol", "textDocument/semanticTokens/full",
    "textDocument/semanticTokens/full/delta", "textDocument/semanticTokens/range",
    "textDocument/inlineValue", "textDocument/inlayHint", "inlayHint/resolve",
    "textDocument/moniker", "textDocument/completion", "completionItem/resolve",
    "textDocument/diagnostic", "workspace/diagnostic", "textDocument/signatureHelp",
    "textDocument/codeAction", "codeAction/resolve", "textDocument/documentColor",
    "textDocument/colorPresentation", "textDocument/formatting",
    "textDocument/rangeFormatting", "textDocument/onTypeFormatting", "textDocument/rename",
    "textDocument/prepareRename", "textDocument/linkedEditingRange", "workspace/symbol",
    "workspaceSymbol/resolve", "workspace/willCreateFiles", "workspace/willRenameFiles",
    "workspace/willDeleteFiles", "workspace/executeCommand"]

/-- The notifications of the protocol that the server does not use. -/
def otherNotifications : List String :=
  ["textDocument/willSave", "textDocument/didSave", "workspace/didChangeConfiguration",
    "workspace/didChangeWorkspaceFolders", "workspace/didCreateFiles",
    "workspace/didRenameFiles", "workspace/didDeleteFiles", "workspace/didChangeWatchedFiles"]

/-- The method with a name. -/
def ofName (name : String) : Method :=
  if name = "initialize" then start
  else if name = "initialized" then started
  else if name = "shutdown" then shutdown
  else if name = "exit" then exit
  else if name = "textDocument/didOpen" then didOpen
  else if name = "textDocument/didChange" then didChange
  else if name = "textDocument/didClose" then didClose
  else if name = "textDocument/hover" then hover
  else if name = "$/cancelRequest" then cancel
  else if name ∈ otherRequests then otherRequest
  else if name ∈ otherNotifications then otherNotification
  else foreign

/-- Whether a method is for notifications only. -/
def isNotification : Method → Bool
  | started | exit | didOpen | didChange | didClose | cancel | otherNotification => true
  | start | shutdown | hover | otherRequest | foreign => false

end Method

/-- Whether a value can be the id of a request: a number of 64 bits, a text or
    `null`. -/
def Message.isId (v : Json) : Bool :=
  match v with
  | .null => true
  | .string text => text.isSome
  | _ => (v.intWithin? (-9223372036854775808) 9223372036854775807).isSome

/-- The version of the protocol, which every message repeats. -/
def Message.version : String := "2.0"

/-- A message as it is written in JSON. -/
def Message.ofJson? (v : Json) : Option Message := do
  match ← v.fields? ["jsonrpc", "method", "params", "id"] with
  | [version, method, params, id] =>
    guard ((← Json.required? Json.text? version) = Message.version)
    guard (id.all Message.isId)
    pure ⟨id, ← Json.defaulted? Json.text? "" method, params⟩
  | _ => none

/-- What arrives from a client. -/
inductive Arrival where
  | message (m : Message)
  /-- The answer to a request of the server. -/
  | answer (id : Json)
  /-- Neither. -/
  | unreadable

namespace Arrival

/-- Whether a value can be the error in an answer. -/
def isError (v : Json) : Bool :=
  match v.allFields? ["code", "message", "data"] with
  | some [code, wording, _] =>
    (Json.required? (Json.intWithin? (-9223372036854775808) 9223372036854775807) code).isSome &&
      (Json.required? Json.text? wording).isSome
  | _ => false

/-- The id of an answer as it is written in JSON. -/
def answerId? (v : Json) : Option Json := do
  match ← v.memberFields? ["jsonrpc", "id", "result", "error"] with
  | [version, id, result, error] =>
    guard ((← Json.required? Json.text? version) = Message.version)
    guard (result.isSome || error.any isError)
    id.filter Message.isId
  | _ => none

/-- What arrives, as it is written in JSON. -/
def ofJson (v : Json) : Arrival :=
  match answerId? v, Message.ofJson? v with
  | some id, _ => answer id
  | none, some m => message m
  | none, none => unreadable

end Arrival

/-! ### Parameters -/

/-- A number of 32 bits. -/
def word? (v : Json) : Option UInt32 := do
  let n ← v.nat?
  if n < UInt32.size then some (.ofNat n) else none

/-- A number of 32 bits with a sign. -/
def signedWord? : Json → Option Int := Json.intWithin? (-2147483648) 2147483647

/-- A URI as it is written in JSON, in its normal form. -/
def uri? (v : Json) : Option String := v.text?.bind Uri.normal?

/-- A position as it is written in JSON. -/
def Position.ofJson? (v : Json) : Option Position := do
  match ← v.allFields? ["line", "character"] with
  | [line, character] =>
    pure ⟨← Json.required? word? line, ← Json.required? word? character⟩
  | _ => none

/-- A range as it is written in JSON. -/
def Range.ofJson? (v : Json) : Option Range := do
  match ← v.allFields? ["start", "end"] with
  | [start, stop] =>
    pure ⟨← Json.required? Position.ofJson? start, ← Json.required? Position.ofJson? stop⟩
  | _ => none

/-- A change as it is written in JSON. The length of its range, which can be
    given too, is not used. -/
def Change.ofJson? (v : Json) : Option Change := do
  match ← v.allFields? ["range", "rangeLength", "text"] with
  | [range, length, text] =>
    let range ← Json.optional? Range.ofJson? range
    let _ ← Json.optional? word? length
    pure ⟨range, ← Json.required? Json.text? text⟩
  | _ => none

/-- The only field of a record. -/
def onlyField? {α : Type} (name : String) (read : Json → Option α) (v : Json) : Option α := do
  Json.required? read (← v.oneField? [name] name)

/-- The parameters of the message that a session is started: there are none. -/
def isEmptyRecord (params : Json) : Bool := (params.allFields? []).isSome

/-- A document to be opened: its URI, language id, version and text. -/
def opened? : Json → Option (String × String × Int × String) :=
  onlyField? "textDocument" fun v => do
    match ← v.allFields? ["uri", "languageId", "version", "text"] with
    | [uri, languageId, version, text] =>
      pure (← Json.required? uri? uri, ← Json.required? Json.text? languageId,
        ← Json.required? signedWord? version, ← Json.required? Json.text? text)
    | _ => none

/-- A document and its version, as they are written in JSON. -/
def versioned? (v : Json) : Option (String × Int) := do
  match ← v.allFields? ["uri", "version"] with
  | [uri, version] => pure (← Json.required? uri? uri, ← Json.required? signedWord? version)
  | _ => none

/-- Changes of a document: its URI, its new version and the changes. -/
def changed? (params : Json) : Option (String × Int × List Change) := do
  match ← params.allFields? ["textDocument", "contentChanges"] with
  | [document, changes] =>
    let (uri, version) ← Json.required? versioned? document
    pure (uri, version, ← Json.required? (Json.listOf? Change.ofJson?) changes)
  | _ => none

/-- The URI of a document that is named by it alone. -/
def named? : Json → Option String := onlyField? "uri" uri?

/-- The URI of a document to be closed. -/
def closed? : Json → Option String := onlyField? "textDocument" named?

/-- Whether a value can be the token of a progress: a number of 32 bits or a
    text. -/
def isToken (v : Json) : Bool := v.text?.isSome || (signedWord? v).isSome

/-- A place in a document: its URI and the position. -/
def pointed? (params : Json) : Option (String × Position) := do
  match ← params.memberFields? ["textDocument", "position", "workDoneToken"] with
  | [document, position, token] =>
    let _ ← Json.optional? (fun v => if isToken v then some () else none) token
    pure (← Json.required? named? document, ← Json.required? Position.ofJson? position)
  | _ => none

/-- The URI and the name of a folder that a client works in. -/
def clientFolder? (v : Json) : Option (String × String) := do
  match ← v.allFields? ["uri", "name"] with
  | [uri, name] => pure (← Json.required? uri? uri, ← Json.required? Json.text? name)
  | _ => none

/-- The name and the version of a client. -/
def clientInfo? (v : Json) : Option (String × Option String) := do
  match ← v.allFields? ["name", "version"] with
  | [name, version] =>
    pure (← Json.required? Json.text? name, ← Json.optional? Json.text? version)
  | _ => none

/-- What a client asks for when it starts a session: for each format that it
    lists for hovers, whether it is markdown, and its options. -/
def introduced? (params : Json) : Option (List Bool × Option Json) := do
  match ← params.allFields? ["processId", "rootPath", "rootUri", "initializationOptions",
    "capabilities", "trace", "workspaceFolders", "clientInfo", "locale"] with
  | [process, rootPath, rootUri, options, capabilities, trace, folders, client, locale] =>
    let _ ← Json.optional? word? process
    let _ ← Json.optional? Json.text? rootPath
    let _ ← Json.optional? uri? rootUri
    let options ← Json.optional? some options
    let formats ← Json.required? hoverFormats? capabilities
    let _ ← Json.optional? (Json.choice? [("off", ()), ("messages", ()), ("verbose", ())]) trace
    let _ ← Json.optional? (Json.listOf? clientFolder?) folders
    let _ ← Json.optional? clientInfo? client
    let _ ← Json.optional? Json.text? locale
    pure (formats, options)
  | _ => none

/-! ### To the client -/

/-- Why a request is refused. -/
inductive Refusal where
  | notStarted
  | invalidRequest
  /-- The server has no answer to it; a method that is not of the protocol is
      given back. -/
  | methodNotFound (foreign : Option String)
  | invalidParams (what : String)

/-- The code of a refusal. -/
def Refusal.code : Refusal → Int
  | notStarted => -32002
  | invalidRequest => -32600
  | methodNotFound _ => -32601
  | invalidParams _ => -32602

/-- The wording of a refusal. -/
def Refusal.message : Refusal → String
  | notStarted => "Server not initialized"
  | invalidRequest => "Invalid request"
  | methodNotFound _ => "Method not found"
  | invalidParams what => what

/-- A refusal as it is written in JSON. -/
def Refusal.toJson (r : Refusal) : Json :=
  let data := match r with
    | methodNotFound (some method) => [("data", Json.text method)]
    | _ => []
  .record ([("code", .ofInt r.code), ("message", .text r.message)] ++ data)

/-- What the server answers. -/
inductive Reply where
  /-- Nothing: the message was no request. -/
  | silence
  | result (id value : Json)
  | refusal (id : Json) (reason : Refusal)
  /-- Nothing any more: the session is over. -/
  | gone

/-- An answer as it is written in JSON, if there is one. -/
def Reply.toJson? : Reply → Option Json
  | result id value => some (.record [("jsonrpc", .text "2.0"), ("result", value), ("id", id)])
  | refusal id reason =>
    some (.record [("jsonrpc", .text "2.0"), ("error", reason.toJson), ("id", id)])
  | silence | gone => none

/-- A position as it is written in JSON. -/
def Position.toJson (p : Position) : Json :=
  .record [("line", .ofNat p.line.toNat), ("character", .ofNat p.character.toNat)]

/-- A range as it is written in JSON. -/
def Range.toJson (r : Range) : Json :=
  .record [("start", r.start.toJson), ("end", r.stop.toJson)]

/-- The content of a hover as it is written in JSON. -/
def Content.toJson : Content → Json
  | nothing => .array []
  | document markdown text =>
    .record [("kind", .text (if markdown then "markdown" else "plaintext")), ("value", .text text)]
  | selector preview line =>
    .array [.record [("language", .text "html"), ("value", .text preview)], .text line]

/-- A hover as it is written in JSON. -/
def Hover.toJson (h : Hover) : Json :=
  .record [("contents", h.content.toJson), ("range", h.range.toJson)]

end StyleLens
