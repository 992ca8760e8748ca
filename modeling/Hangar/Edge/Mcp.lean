import Hangar.Lib.Url
import Hangar.Platform

/-! The stdio adapter of the Model Context Protocol: the HTTP request that each tool call sends. -/

namespace Hangar.Mcp

open Lib

/-- `serde_json::Value`; numbers stay text. -/
inductive Value where
  | null
  | bool (b : Bool)
  | number (text : String)
  | string (text : String)
  | array (items : List Value)
  | object (fields : List (String × Value))

def Value.asStr : Value → Option String
  | .string text => some text
  | _ => none

def Value.asObject : Value → Option (List (String × Value))
  | .object fields => some fields
  | _ => none

def Value.get (value : Value) (name : String) : Option Value := value.asObject.bind fun fields => fields.lookup name

def removeField (name : String) (fields : List (String × Value)) : List (String × Value) :=
  fields.filter fun field => field.1 != name

inductive Method where
  | get
  | post
deriving DecidableEq

structure Request where
  method : Method
  url : Url
  bearer : String
  idempotencyKey : Option String
  body : Option Value

structure Adapter where
  serverUrl : String
  apiKey : String

/-- `trim_end_matches('/')`. -/
def trimEndSlashes (text : String) : String := String.ofList (text.toList.rdropWhile (· == '/'))

section
-- `readAuthority` parses the user information, host and port of a URL
variable (readAuthority : List Char → Option String) (adapter : Adapter)

def post (path : String) (idempotencyKey : Option String) (body : Value) : Result Request := do
  let text := trimEndSlashes adapter.serverUrl ++ path
  let url ← context (Url.parse readAuthority text) (.external ("request to " ++ text ++ " failed"))
  return ⟨.post, url, adapter.apiKey, idempotencyKey, some body⟩

def ingestDocument (arguments : Value) : Result Request :=
  match arguments with
  | .object fields => do
    let idempotencyKey ← match fields.lookup "idempotency_key" with
      | some value => do
        let text ← found value.asStr "idempotency_key must be a string"
        pure (some text)
      | none => pure none
    post readAuthority adapter "/v1/documents" idempotencyKey (.object (removeField "idempotency_key" fields))
  | _ => post readAuthority adapter "/v1/documents" none arguments

def scopedUrl (path organizationId workspaceId : String) : Result Url := do
  let url ← found (Url.parse readAuthority (trimEndSlashes adapter.serverUrl ++ path)) "invalid Hangar server URL"
  let query := appendPair (appendPair (url.query.getD []) "organization_id" organizationId) "workspace_id" workspaceId
  return { url with query := some query }

def get (path organizationId workspaceId : String) : Result Request := do
  let url ← scopedUrl readAuthority adapter path organizationId workspaceId
  return ⟨.get, url, adapter.apiKey, none, none⟩

def postScoped (path organizationId workspaceId : String) (body : Value) : Result Request := do
  let url ← scopedUrl readAuthority adapter path organizationId workspaceId
  return ⟨.post, url, adapter.apiKey, none, some body⟩

def postScopedEmpty (path organizationId workspaceId : String) : Result Request :=
  postScoped readAuthority adapter path organizationId workspaceId (.object [])

def requiredArgument (object : List (String × Value)) (name : String) : Result String :=
  found (((object.lookup name).bind Value.asStr).filter fun value => !value.isEmpty)
    (name ++ " must be a non-empty string")

def scopedIdArguments (arguments : Value) (idName : String) : Result (String × String × String) := do
  let object ← found arguments.asObject "tools/call arguments must be an object"
  let organizationId ← requiredArgument object "organization_id"
  let workspaceId ← requiredArgument object "workspace_id"
  let id ← requiredArgument object idName
  return (organizationId, workspaceId, id)

def getIngestionJob (arguments : Value) : Result Request := do
  let (organizationId, workspaceId, jobId) ← scopedIdArguments arguments "job_id"
  get readAuthority adapter ("/v1/ingestion/jobs/" ++ jobId) organizationId workspaceId

def retryIngestionJob (arguments : Value) : Result Request := do
  let (organizationId, workspaceId, jobId) ← scopedIdArguments arguments "job_id"
  postScopedEmpty readAuthority adapter ("/v1/ingestion/jobs/" ++ jobId ++ "/retry") organizationId workspaceId

def transitionMemory (arguments : Value) : Result Request := do
  let (organizationId, workspaceId, memoryId) ← scopedIdArguments arguments "memory_id"
  let object ← found arguments.asObject "tools/call arguments must be an object"
  let body := removeField "memory_id" (removeField "workspace_id" (removeField "organization_id" object))
  postScoped readAuthority adapter ("/v1/memories/" ++ memoryId ++ "/lifecycle") organizationId workspaceId
    (.object body)

/-- The request of a tool call, when it sends one. -/
def callTool (params : Value) : Result Request := do
  let name ← found ((params.get "name").bind Value.asStr) "tools/call requires a tool name"
  let arguments := (params.get "arguments").getD (.object [])
  match name with
  | "hangar_search_memory" => post readAuthority adapter "/v1/retrieve" none arguments
  | "hangar_search_documents" => post readAuthority adapter "/v1/retrieve/documents" none arguments
  | "hangar_get_context" => post readAuthority adapter "/v1/context-packages" none arguments
  | "hangar_propose_memory" => post readAuthority adapter "/v1/memories" none arguments
  | "hangar_ingest_document" => ingestDocument readAuthority adapter arguments
  | "hangar_get_ingestion_job" => getIngestionJob readAuthority adapter arguments
  | "hangar_retry_ingestion_job" => retryIngestionJob readAuthority adapter arguments
  | "hangar_transition_memory" => transitionMemory readAuthority adapter arguments
  | _ => bail ("unknown Hangar tool: " ++ name)

end

end Hangar.Mcp
