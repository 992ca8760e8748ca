import Hangar.Edge.Mcp

namespace Hangar.Mcp

open Lib

inductive ScopedTool where
  | getIngestionJob
  | retryIngestionJob
  | transitionMemory

namespace ScopedTool

def name : ScopedTool → String
  | .getIngestionJob => "hangar_get_ingestion_job"
  | .retryIngestionJob => "hangar_retry_ingestion_job"
  | .transitionMemory => "hangar_transition_memory"

def idName : ScopedTool → String
  | .getIngestionJob | .retryIngestionJob => "job_id"
  | .transitionMemory => "memory_id"

def directory : ScopedTool → List String
  | .getIngestionJob | .retryIngestionJob => ["v1", "ingestion", "jobs"]
  | .transitionMemory => ["v1", "memories"]

def action : ScopedTool → List String
  | .getIngestionJob => []
  | .retryIngestionJob => ["retry"]
  | .transitionMemory => ["lifecycle"]

def before : ScopedTool → String
  | .getIngestionJob | .retryIngestionJob => "v1/ingestion/jobs"
  | .transitionMemory => "v1/memories"

def after : ScopedTool → String
  | .getIngestionJob => ""
  | .retryIngestionJob => "/retry"
  | .transitionMemory => "/lifecycle"

/-- The id and what the tool writes after it, read as a relative reference. -/
def reference (tool : ScopedTool) (id : String) : Reference := readReference (cleanEnd (id ++ tool.after).toList)

end ScopedTool

/-- The configured URL is that of a directory: it has neither query nor fragment. -/
structure Adapter.Serves (readAuthority : List Char → Option String) (adapter : Adapter) (root : Url) : Prop where
  parsed : Url.parse readAuthority (trimEndSlashes adapter.serverUrl ++ "/") = some root
  query : root.query = none
  fragment : root.fragment = none

/-- The request goes to the documented route of its tool under the server, with the scope as its query. -/
structure Request.Confined (root : Url) (tool : ScopedTool) (organizationId workspaceId : String) (request : Request) :
    Prop where
  scheme : request.url.scheme = root.scheme
  authority : request.url.authority = root.authority
  path : ∃ segment, segment ≠ "" ∧ request.url.path = root.path.dropLast ++ tool.directory ++ segment :: tool.action
  query : ∃ query, request.url.query = some query ∧ queryPairs query =
    [(bytes "organization_id", bytes organizationId), (bytes "workspace_id", bytes workspaceId)]

/-- The id comes down through the same directories it climbs, to one name of the directory it is put in, and brings
    no pair of its own. -/
structure ScopedTool.Keeps (tool : ScopedTool) (root : Url) (id : String) : Prop where
  path : let parents := root.path.dropLast ++ tool.directory
    let walk := (⟨0, []⟩ : Walk).take (segments (tool.reference id).path)
    ∃ segment, segment ≠ "" ∧ walk.down = parents.drop (parents.length - walk.up) ++ segment :: tool.action
  query : ∀ c ∈ (tool.reference id).query.getD [], c = '&'

variable {readAuthority : List Char → Option String} {adapter : Adapter} {root : Url} {tool : ScopedTool}
  {params : Value} {request : Request}

theorem scopedUrl_ok {path organizationId workspaceId : String} {url : Url}
    (run : scopedUrl readAuthority adapter path organizationId workspaceId = .ok url) : ∃ plain,
      Url.parse readAuthority (trimEndSlashes adapter.serverUrl ++ path) = some plain ∧
      url = { plain with query := some (appendPair (appendPair (plain.query.getD []) "organization_id"
        organizationId) "workspace_id" workspaceId) } := by
  obtain ⟨plain, parsed, run⟩ := bind_eq_ok.mp run
  cases run
  exact ⟨plain, context_eq_ok.mp parsed, rfl⟩

theorem callTool_scoped (named : (params.get "name").bind Value.asStr = some tool.name)
    (sent : callTool readAuthority adapter params = .ok request) : ∃ organizationId workspaceId id url,
      scopedIdArguments ((params.get "arguments").getD (.object [])) tool.idName =
        .ok (organizationId, workspaceId, id) ∧
      Url.parse readAuthority (trimEndSlashes adapter.serverUrl ++ "/" ++ (tool.before ++ "/" ++ (id ++ tool.after))) =
        some url ∧
      request.url = { url with query := some (appendPair (appendPair (url.query.getD []) "organization_id"
        organizationId) "workspace_id" workspaceId) } := by
  unfold callTool at sent
  rw [named, bind_of_ok (context_eq_ok.mpr rfl)] at sent
  generalize (params.get "arguments").getD (.object []) = arguments at sent ⊢
  have reads {text : String} {url : Url} (parsed : Url.parse readAuthority (trimEndSlashes adapter.serverUrl ++ text) =
      some url) {below : String} (same : text = "/" ++ below) :
      Url.parse readAuthority (trimEndSlashes adapter.serverUrl ++ "/" ++ below) = some url := by
    rw [String.append_assoc, ← same]
    exact parsed
  cases tool with
  | getIngestionJob =>
    obtain ⟨⟨organizationId, workspaceId, id⟩, given, sent⟩ := bind_eq_ok.mp sent
    obtain ⟨url, run, sent⟩ := bind_eq_ok.mp sent
    cases sent
    obtain ⟨plain, parsed, rfl⟩ := scopedUrl_ok run
    refine ⟨organizationId, workspaceId, id, plain, given, reads parsed ?_, rfl⟩
    simp [ScopedTool.before, ScopedTool.after, ← String.append_assoc]
  | retryIngestionJob =>
    obtain ⟨⟨organizationId, workspaceId, id⟩, given, sent⟩ := bind_eq_ok.mp sent
    obtain ⟨url, run, sent⟩ := bind_eq_ok.mp sent
    cases sent
    obtain ⟨plain, parsed, rfl⟩ := scopedUrl_ok run
    refine ⟨organizationId, workspaceId, id, plain, given, reads parsed ?_, rfl⟩
    simp [ScopedTool.before, ScopedTool.after, ← String.append_assoc]
  | transitionMemory =>
    obtain ⟨⟨organizationId, workspaceId, id⟩, given, sent⟩ := bind_eq_ok.mp sent
    obtain ⟨object, _, sent⟩ := bind_eq_ok.mp sent
    obtain ⟨url, run, sent⟩ := bind_eq_ok.mp sent
    cases sent
    obtain ⟨plain, parsed, rfl⟩ := scopedUrl_ok run
    refine ⟨organizationId, workspaceId, id, plain, given, reads parsed ?_, rfl⟩
    simp [ScopedTool.before, ScopedTool.after, ← String.append_assoc]

/-- The route before the id is read as the names of its directory. -/
theorem ScopedTool.cleanEnd_route {id : String} :
    cleanEnd (tool.before ++ "/" ++ (id ++ tool.after)).toList =
      tool.before.toList ++ '/' :: cleanEnd (id ++ tool.after).toList := by
  have clean : tool.before.toList.filter (fun c => !isTabOrNewline c) = tool.before.toList := by
    cases tool <;> decide
  rw [String.toList_append, String.toList_append (s := tool.before)]
  show cleanEnd (tool.before.toList ++ ['/'] ++ (id ++ tool.after).toList) = _
  rw [List.append_assoc, List.singleton_append, cleanEnd_slash, clean]

theorem ScopedTool.readReference_route {id : String} :
    readReference (cleanEnd (tool.before ++ "/" ++ (id ++ tool.after)).toList) =
      { tool.reference id with path := tool.before.toList ++ '/' :: (tool.reference id).path } := by
  have all : (tool.before.toList ++ ['/']).all (fun c => !endsPath c) = true := by
    cases tool <;> decide
  have plain : ∀ c ∈ tool.before.toList ++ ['/'], endsPath c = false := by
    intro c member
    simpa using List.all_eq_true.mp all c member
  have joined := @readReference_append (tool.before.toList ++ ['/']) (cleanEnd (id ++ tool.after).toList) plain
  rw [List.append_assoc, List.singleton_append] at joined
  rw [ScopedTool.cleanEnd_route, joined, List.append_assoc, List.singleton_append]
  rfl

theorem ScopedTool.walk_route {path : List String} {id : String} :
    walkPath path (segments (tool.before.toList ++ '/' :: (tool.reference id).path)) =
      ((⟨0, []⟩ : Walk).take (segments (tool.reference id).path)).apply (path ++ tool.directory) := by
  have names : segments tool.before.toList = tool.directory := by
    cases tool <;> decide +kernel
  have entered : tool.directory.foldl enterSegment path = path ++ tool.directory := by
    have plain : ∀ name ∈ tool.directory, isDoubleDot name = false ∧ isSingleDot name = false := by
      cases tool <;> decide +kernel
    generalize tool.directory = directory at plain
    induction directory generalizing path with
    | nil => simp
    | cons name directory ih =>
      obtain ⟨double, single⟩ := plain name List.mem_cons_self
      have here : enterSegment path name = path ++ [name] := by simp [enterSegment, double, single]
      rw [List.foldl_cons, here, ih fun name member => plain name (List.mem_cons_of_mem _ member)]
      simp
  rw [segments_slash, names, walkPath_append segments_ne_nil, entered, walkPath_start]

/-- A request stays on its tool's route exactly when the id comes back to the directory it is put in. -/
theorem scoped_requests_confined_iff (serves : adapter.Serves readAuthority root)
    (named : (params.get "name").bind Value.asStr = some tool.name)
    (sent : callTool readAuthority adapter params = .ok request) : ∃ organizationId workspaceId id,
      scopedIdArguments ((params.get "arguments").getD (.object [])) tool.idName =
        .ok (organizationId, workspaceId, id) ∧
      (request.Confined root tool organizationId workspaceId ↔ tool.Keeps root id) := by
  obtain ⟨organizationId, workspaceId, id, url, given, parsed, shape⟩ := callTool_scoped named sent
  refine ⟨organizationId, workspaceId, id, given, ?_⟩
  rw [Url.parse_below serves.parsed serves.query serves.fragment, ScopedTool.readReference_route] at parsed
  cases parsed
  dsimp only at shape
  rw [ScopedTool.walk_route] at shape
  have pairs (query : List Char) : queryPairs (appendPair (appendPair query "organization_id" organizationId)
      "workspace_id" workspaceId) = [(bytes "organization_id", bytes organizationId),
        (bytes "workspace_id", bytes workspaceId)] ↔ ∀ c ∈ query, c = '&' := by
    rw [queryPairs_appendPair, queryPairs_appendPair, ← queryPairs_eq_nil]
    constructor
    · intro same
      have lengths := congrArg List.length same
      simp at lengths
      exact lengths
    · intro none
      rw [none]
      rfl
  have own : (∀ c ∈ ((tool.reference id).query.map fun query =>
      query.flatMap (percentEncodeChar inQuerySet)).getD [], c = '&') ↔
        ∀ c ∈ (tool.reference id).query.getD [], c = '&' := by
    cases (tool.reference id).query with
    | none => simp
    | some query =>
      simp only [Option.map_some, Option.getD_some, List.mem_flatMap]
      constructor
      · intro all c member
        exact percentEncodeChar_ampersand.mp fun d inside => all d ⟨c, member, inside⟩
      · intro all d member
        obtain ⟨c, listed, inside⟩ := member
        exact percentEncodeChar_ampersand.mpr (all c listed) d inside
  have below (walk : Walk) (parents names : List String) : walk.apply parents = parents ++ names ↔
      walk.down = parents.drop (parents.length - walk.up) ++ names := by
    have split := List.take_append_drop (parents.length - walk.up) parents
    constructor
    · intro same
      conv at same => rhs; rw [← split]
      rw [Walk.apply, List.append_assoc] at same
      exact List.append_cancel_left same
    · intro same
      rw [Walk.apply, same, ← List.append_assoc, split]
  constructor
  · intro confined
    constructor
    · obtain ⟨segment, filled, same⟩ := confined.path
      rw [shape] at same
      exact ⟨segment, filled, (below _ _ _).mp same⟩
    · obtain ⟨query, asked, same⟩ := confined.query
      rw [shape] at asked
      cases asked
      exact own.mp ((pairs _).mp same)
  · intro keeps
    constructor
    · rw [shape]
    · rw [shape]
    · obtain ⟨segment, filled, same⟩ := keeps.path
      refine ⟨segment, filled, ?_⟩
      rw [shape]
      exact (below _ _ _).mpr same
    · refine ⟨_, ?_, (pairs _).mpr (own.mpr keeps.query)⟩
      rw [shape]

theorem ScopedTool.keeps_plain {id : String} (filled : id ≠ "")
    (plain : ∀ c ∈ id.toList, isPathSeparator c = false ∧ endsPath c = false ∧ isControlOrSpace c = false)
    (single : isSingleDot (encodeSegment id.toList) = false)
    (double : isDoubleDot (encodeSegment id.toList) = false) : tool.Keeps root id := by
  have characters : id.toList ≠ [] := by simpa using filled
  have all : tool.after.toList.all (fun c => !endsPath c && !isControlOrSpace c) = true := by
    cases tool <;> decide
  have suffix : ∀ c ∈ tool.after.toList, endsPath c = false ∧ isControlOrSpace c = false := by
    intro c member
    simpa using List.all_eq_true.mp all c member
  have whole : ∀ c ∈ (id ++ tool.after).toList, endsPath c = false ∧ isControlOrSpace c = false := by
    intro c member
    rw [String.toList_append, List.mem_append] at member
    rcases member with own | after
    · exact (plain c own).2
    · exact suffix c after
  have clean : cleanEnd (id ++ tool.after).toList = id.toList ++ tool.after.toList := by
    rw [cleanEnd_plain fun c member => (whole c member).2, String.toList_append]
  have read : tool.reference id = ⟨id.toList ++ tool.after.toList, none, none⟩ := by
    unfold ScopedTool.reference
    rw [clean, ← List.append_nil (id.toList ++ tool.after.toList), readReference_append]
    · simp [readReference]
    · rw [← String.toList_append]
      exact fun c member => (whole c member).1
  have own : segments id.toList = [encodeSegment id.toList] := by
    unfold segments
    rw [List.splitOnP_eq_singleton fun c member => by simpa using (plain c member).1]
    rfl
  have steps : segments (id.toList ++ tool.after.toList) = encodeSegment id.toList :: tool.action := by
    cases tool with
    | getIngestionJob =>
      show segments (id.toList ++ []) = _
      rw [List.append_nil, own]
      rfl
    | retryIngestionJob =>
      show segments (id.toList ++ '/' :: "retry".toList) = _
      have last : segments "retry".toList = ["retry"] := by decide +kernel
      rw [segments_slash, own, last]
      rfl
    | transitionMemory =>
      show segments (id.toList ++ '/' :: "lifecycle".toList) = _
      have last : segments "lifecycle".toList = ["lifecycle"] := by decide +kernel
      rw [segments_slash, own, last]
      rfl
  have walked : (⟨0, []⟩ : Walk).take (encodeSegment id.toList :: tool.action) =
      ⟨0, encodeSegment id.toList :: tool.action⟩ := by
    have ends : ∀ name ∈ tool.action, isDoubleDot name = false ∧ isSingleDot name = false := by
      cases tool <;> decide +kernel
    cases tool <;> simp_all [Walk.take, Walk.finish, Walk.enter, ScopedTool.action]
  constructor
  · refine ⟨encodeSegment id.toList, ?_, ?_⟩
    · exact encodeSegment_ne_empty characters
    · rw [read, steps, walked]
      simp
  · rw [read]
    simp

def plainAuthority (text : List Char) : Option String := some (String.ofList text)

def localAdapter : Adapter := ⟨"http://127.0.0.1:8080", "hk_777"⟩

def localRoot : Url := ⟨"http", "127.0.0.1:8080", [""], none, none⟩

def jobCall (jobId : String) : Value :=
  .object [("name", .string "hangar_get_ingestion_job"),
    ("arguments", .object [("organization_id", .string "acme"), ("workspace_id", .string "core"),
      ("job_id", .string jobId)])]

theorem localAdapter_serves : localAdapter.Serves plainAuthority localRoot :=
  ⟨by decide +kernel, rfl, rfl⟩

theorem scoped_request_confined_job : ∃ request,
    callTool plainAuthority localAdapter (jobCall "0198c0de-0000-7000-8000-000000000001") = .ok request ∧
      request.Confined localRoot .getIngestionJob "acme" "core" := by
  have sent : ∃ request,
      callTool plainAuthority localAdapter (jobCall "0198c0de-0000-7000-8000-000000000001") = .ok request ∧ True := by
    decide +kernel
  obtain ⟨request, sent, _⟩ := sent
  have tool : ((jobCall "0198c0de-0000-7000-8000-000000000001").get "name").bind Value.asStr =
      some ScopedTool.getIngestionJob.name := rfl
  obtain ⟨organizationId, workspaceId, id, given, exact⟩ :=
    scoped_requests_confined_iff localAdapter_serves tool sent
  cases given
  have characters : "0198c0de-0000-7000-8000-000000000001".toList.all (fun c =>
      !isPathSeparator c && (!endsPath c && !isControlOrSpace c)) = true := by decide
  refine ⟨request, sent, exact.mpr (ScopedTool.keeps_plain ?_ ?_ ?_ ?_)⟩
  · decide
  · intro c member
    simpa using List.all_eq_true.mp characters c member
  · decide +kernel
  · decide +kernel

/-- A job id with dot segments makes the status tool read the export of the workspace. -/
theorem job_id_reaches_export : ∃ request,
    localAdapter.Serves plainAuthority localRoot ∧
      callTool plainAuthority localAdapter (jobCall "../../exports/workspace") = .ok request ∧
      request.method = .get ∧ request.url.path = ["v1", "exports", "workspace"] ∧
      ¬ request.Confined localRoot .getIngestionJob "acme" "core" := by
  have sent : ∃ request, callTool plainAuthority localAdapter (jobCall "../../exports/workspace") = .ok request ∧
      request.method = .get ∧ request.url.path = ["v1", "exports", "workspace"] := by decide +kernel
  obtain ⟨request, sent, method, path⟩ := sent
  refine ⟨request, localAdapter_serves, sent, method, path, ?_⟩
  intro confined
  obtain ⟨segment, _, same⟩ := confined.path
  rw [path] at same
  exact absurd (congrArg List.length same) (by simp [localRoot, ScopedTool.directory, ScopedTool.action])

end Hangar.Mcp
