/-
  RouteShortcuts.Rpc — the messages of an assistant and the replies to them.

  A message with a method and an `id` is a request and gets one reply with that `id`, which carries a
  result or an error. Any other message gets none. What is asked for in a wrong form is treated as
  asked of a method that there is not.
-/

import RouteShortcuts.Tools

namespace RouteShortcuts

open RouteShortcuts.Files
open RouteShortcuts.Json (Value Cause Shape)

inductive RequestFault where
  | unknownMethod (method : String)
  | unknownTool
  | badArguments (cause : Cause)
  | tool (fault : ToolFault)

namespace RequestFault

def code : RequestFault → Int
  | .unknownMethod _ => -32601
  | .unknownTool => -32602
  | .badArguments _ => -32602
  | .tool _ => -32603

def message : RequestFault → String
  | .unknownMethod method => method
  | .unknownTool => "tool not found"
  | .badArguments cause => "failed to deserialize parameters: " ++ cause.message
  | .tool fault => fault.message

def toValue (f : RequestFault) : Value :=
  .object [("code", .number (.whole f.code)), ("message", .string f.message)]

end RequestFault

inductive Request where
  | greet (version : String)
  | ping
  | listTools
  | callTool (name : String) (arguments : List (String × Value))
  | listNothing (items : String)
  | complete
  | other (method : String)

namespace Request

/-- A parameter that is a text. -/
def text? (key : String) (params : Value) : Option String :=
  match params.get? key with
  | some (.string s) => some s
  | _ => none

/-- Is a parameter a text, if it is there at all? -/
def textOrNone (key : String) (params : Value) : Bool :=
  match params.get? key with
  | none | some .null | some (.string _) => true
  | _ => false

/-- Do parameters ask for a page of a list, the first one if there are none? -/
def isPage : Option Value → Bool
  | none | some .null => true
  | some (.object members) => textOrNone "cursor" (.object members)
  | _ => false

/-- Does a value name what is to be completed? -/
def isReference (v : Value) : Bool :=
  match text? "type" v with
  | some "ref/prompt" => (text? "name" v).isSome
  | some "ref/resource" => (text? "uri" v).isSome
  | _ => false

/-- Does a value name an argument and what is known of it? -/
def isArgument (v : Value) : Bool := (text? "name" v).isSome && (text? "value" v).isSome

/-- The arguments of a tool; none stands for an empty list. -/
def argumentsOf (params : Value) : Option (List (String × Value)) :=
  match params.get? "arguments" with
  | none | some .null => some []
  | some (.object members) => some members
  | _ => none

/-- What a method with parameters asks for. -/
def ofMethod (method : String) (params : Option Value) : Request :=
  let given := params.getD .null
  let page (r : Request) : Request := if isPage params then r else .other method
  match method with
  | "initialize" => .greet ((text? "protocolVersion" given).getD "")
  | "ping" => .ping
  | "tools/list" => page .listTools
  | "tools/call" =>
    match text? "name" given, argumentsOf given with
    | some name, some arguments => .callTool name arguments
    | _, _ => .other method
  | "prompts/list" => page (.listNothing "prompts")
  | "resources/list" => page (.listNothing "resources")
  | "resources/templates/list" => page (.listNothing "resourceTemplates")
  | "completion/complete" =>
    match given.get? "ref", given.get? "argument" with
    | some r, some a => if isReference r && isArgument a then .complete else .other method
    | _, _ => .other method
  | _ => .other method

end Request

namespace Rpc

/-- The newest version of the protocol that is spoken; versions are dates. -/
def newestVersion : String := "2025-03-26"

/-- The version that is agreed on: the older of the two. -/
def agreedVersion (asked : String) : String :=
  if asked < newestVersion then asked else newestVersion

def instructions : String :=
  "pwa-shortcuts MCP detects PWA shortcut routes declared with createShortcutRoute and "
    ++ "generates web app manifest shortcuts.\n\n"
    ++ "Available tools:\n"
    ++ "1. get_config - Get project configuration\n"
    ++ "2. detect_shortcuts - Scan route files and return shortcuts, manifest and warnings\n"
    ++ "3. get_manifest - Get the manifest from the last scan without rescanning\n\n"
    ++ "Run detect_shortcuts after editing route files; get_manifest only reflects the last scan."

/-- What the server says about itself. -/
def greeting (version : String) : Value :=
  .object
    [("protocolVersion", .string (agreedVersion version)),
     ("capabilities", .object [("tools", .object [])]),
     ("serverInfo", .object [("name", .string "rmcp"), ("version", .string "0.13.0")]),
     ("instructions", .string instructions)]

def rootParameter : String := "projectRootPath"

def parametersName : Tool → String
  | .detectShortcuts => "DetectShortcutsParams"
  | .getConfig => "GetConfigParams"
  | .getManifest => "GetManifestParams"

def schema (tool : Tool) : Value :=
  .object
    [("$schema", .string "https://json-schema.org/draft/2020-12/schema"),
     ("title", .string (parametersName tool)), ("type", .string "object"),
     ("properties", .object [(rootParameter, .object
       [("description", .string "Absolute path to the project root"), ("type", .string "string")])]),
     ("required", .array [.string rootParameter])]

def toolValue (tool : Tool) : Value :=
  .object [("name", .string tool.name), ("description", .string tool.description),
    ("inputSchema", schema tool)]

/-- The project root in the arguments of a tool. -/
def rootOf (tool : Tool) (arguments : List (String × Value)) : Except Cause String := do
  let shape : Shape := ⟨parametersName tool, [rootParameter], 1⟩
  let set (_ : String) (v : Value) (_ : Option String) : Except Cause (Option String) :=
    v.asString.map some
  Json.require rootParameter (← (Value.object arguments).decode shape set none)

/-- What a tool answers, as text. -/
def contentValue (v : Value) : Value :=
  .object
    [("content", .array [.object [("type", .string "text"), ("text", .string v.pretty)]]),
     ("isError", .bool false)]

def callTool (d : Disk) (w : Workspace) (name : String) (arguments : List (String × Value)) :
    Except RequestFault Value × Workspace :=
  match Tool.ofName? name with
  | none => (.error .unknownTool, w)
  | some tool =>
    match rootOf tool arguments with
    | .error cause => (.error (.badArguments cause), w)
    | .ok root =>
      let (result, w) := w.call d tool root
      match result with
      | .ok v => (.ok (contentValue v), w)
      | .error fault => (.error (.tool fault), w)

def answer (d : Disk) (w : Workspace) : Request → Except RequestFault Value × Workspace
  | .greet version => (.ok (greeting version), w)
  | .ping => (.ok (.object []), w)
  | .listTools => (.ok (.object [("tools", .array (Tool.all.map toolValue))]), w)
  | .callTool name arguments => callTool d w name arguments
  | .listNothing items => (.ok (.object [(items, .array [])]), w)
  | .complete => (.ok (.object [("completion", .object [("values", .array [])])]), w)
  | .other method => (.error (.unknownMethod method), w)

/-- The reply to the request with an `id`. -/
def reply (id : Value) : Except RequestFault Value → Value
  | .ok result => .object [("jsonrpc", .string "2.0"), ("id", id), ("result", result)]
  | .error fault => .object [("jsonrpc", .string "2.0"), ("id", id), ("error", fault.toValue)]

def handle (d : Disk) (w : Workspace) (message : Value) : Option Value × Workspace :=
  match message.get? "id", message.get? "method" with
  | none, _ | some .null, _ => (none, w)
  | some id, some (.string method) =>
    let (result, w) := answer d w (Request.ofMethod method (message.get? "params"))
    (some (reply id result), w)
  | _, _ => (none, w)

end Rpc
end RouteShortcuts
