import Hangar.Concrete
import Hangar.Edge.Grpc
import Hangar.Edge.Http

namespace Hangar

open Lib

variable {x : Externals} {headers : Headers} {scope : Scope} {s : Store}

theorem accessRules_agree {operation : Operation} (other : operation ≠ .retrieveMemories) :
    Http.accessRule operation = Grpc.accessRule operation := by
  cases operation <;> first | rfl | exact absurd rfl other

theorem permits_iff_of_guarded {role : Role} {first second : Guarded} :
    (AccessRule.Permits x headers scope s ⟨role, some first⟩ ↔ AccessRule.Permits x headers scope s ⟨role, some second⟩) ↔
      ∀ principal, Authorized x headers scope role s principal → scope.Valid →
        (Denied scope principal.role s first ↔ Denied scope principal.role s second) := by
  have denial (guarded : Guarded) {principal : Principal} (authorized : Authorized x headers scope role s principal) :
      ¬AccessRule.Permits x headers scope s ⟨role, some guarded⟩ ↔
        scope.Valid ∧ Denied scope principal.role s guarded := by
    have authorized : Authorized x headers scope (AccessRule.role ⟨role, some guarded⟩) s principal := authorized
    have refused := AccessRule.not_permits_iff authorized
    simpa using refused
  constructor
  · intro same principal authorized valid
    have left := denial first authorized
    have right := denial second authorized
    rw [same, right] at left
    simpa [valid] using left.symm
  · intro agree
    by_cases known : ∃ principal, Authorized x headers scope role s principal
    · obtain ⟨principal, authorized⟩ := known
      have left := denial first authorized
      have right := denial second authorized
      have both := agree principal authorized
      rw [← not_iff_not, left, right]
      exact and_congr_right both
    · constructor
      · intro permitted
        obtain ⟨principal, authorized, _⟩ := permitted
        exact absurd ⟨principal, authorized⟩ known
      · intro permitted
        obtain ⟨principal, authorized, _⟩ := permitted
        exact absurd ⟨principal, authorized⟩ known

/-- The edges make the same decision, except on a retrieval of memories by an authorized caller whose role the
    enforced policies deny reading `memory` but not `memories`, or the other way round. -/
theorem edges_agree_iff {engines : SearchEngines} {parse : String → Option Uuid} {env env' : Nat → Env}
    {limits : WorkspaceLimits} {http : Http.Request} {grpc : Grpc.Request}
    (paired : grpc.operation = http.operation) (given : grpc.scope = some http.scope) (named : Grpc.Named http.scope) :
    (Program.Fails Http.AppError.Refuses (Http.serve x engines env limits headers http) s ↔
        Program.Fails Grpc.Status.Refuses (Grpc.serve x engines parse env' limits headers grpc) s) ↔
      (http.operation = .retrieveMemories → ∀ principal, Authorized x headers http.scope .reader s principal →
        http.scope.Valid → (Denied http.scope principal.role s oneMemory ↔
          Denied http.scope principal.role s allMemories)) := by
  rw [Http.serve_refuses, Grpc.serve_refuses given named, not_iff_not, paired]
  by_cases memories : http.operation = .retrieveMemories
  · rw [memories]
    simp only [true_imp_iff]
    exact permits_iff_of_guarded
  · rw [accessRules_agree memories]
    simp [memories]

def hideMemories : NewGuardrailPolicy where
  organizationId := "acme"
  workspaceId := "core"
  name := "hide-memories"
  rules := [⟨"no-search", .memoryRead, .deny, [], ["memories"]⟩]
  createdBy := Uuid.nil

/-- A reader of `acme/core`, where an enforced policy denies reading `memories`. -/
def searchlessServer : Server := freshRun sample noHits
  [(1, .catalog (.issueApiKeyForSubject "acme" (some "core") .reader .agent)),
    (2, .catalog (.createGuardrailPolicy hideMemories)),
    (3, .catalog (.transitionGuardrailPolicy (serialUuid 16) "acme" "core" .enforced))]

def readerKey : Headers := some ⟨some "Bearer hk_777"⟩

def roomy : WorkspaceLimits := ⟨1000, 1000, 1000, 1000, 1000, 1000, 1000⟩

def lockEnv (lock : Nat) : Env := serialEnv 4 (48 + 16 * lock)

def httpSearch : Http.Request := .retrieve ⟨"acme", "core", "alpha", 5⟩

def grpcSearch : Grpc.Request := .retrieveMemories ⟨some ⟨"acme", "core"⟩, "alpha", 5⟩

/-- The reader finds memories over HTTP and is refused over gRPC. -/
theorem search_refused_over_grpc_only : Reachable sample noHits searchlessServer ∧
    ¬Program.Fails Http.AppError.Refuses (Http.serve sample noHits lockEnv roomy readerKey httpSearch)
      searchlessServer.store ∧
    Program.Fails Grpc.Status.Refuses (Grpc.serve sample noHits (fun _ => none) lockEnv roomy readerKey grpcSearch)
      searchlessServer.store :=
  ⟨freshRun_reachable (by decide +kernel), by decide +kernel, by decide +kernel⟩

theorem edges_agree_on_documents :
    (Program.Fails Http.AppError.Refuses
        (Http.serve sample noHits lockEnv roomy readerKey (.retrieveDocumentChunks ⟨"acme", "core", "alpha", 5⟩))
        searchlessServer.store ↔
      Program.Fails Grpc.Status.Refuses
        (Grpc.serve sample noHits (fun _ => none) lockEnv roomy readerKey
          (.retrieveDocuments ⟨some ⟨"acme", "core"⟩, "alpha", 5⟩)) searchlessServer.store) :=
  (edges_agree_iff rfl rfl ⟨by decide, by decide⟩).mpr fun search => by cases search

end Hangar
