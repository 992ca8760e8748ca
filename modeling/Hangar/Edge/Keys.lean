import Hangar.Edge.Http
import Hangar.Concrete

/-! How API keys come into being: bootstrapping an organization, and an owner issuing keys. -/

namespace Hangar.Http

open Lib

structure CreateOrganizationRequest where
  organizationId : String

structure CreateApiKeyRequest where
  organizationId : String
  workspaceId : Option String
  role : Role
  subjectKind : SubjectKind

section
variable (x : Externals) (bootstrapTokenHash : HexText) (env : Nat → Env) (headers : Headers)

def authorizeBootstrap : Except AppError Unit := do
  let token ← bearerToken headers
  ensure (x.sha256Text token = bootstrapTokenHash) (unauthorized "invalid bootstrap token")

def issueApiKey (env : Env) (organizationId : String) (workspaceId : Option String) (role : Role) (s : Store) :
    Result (Store × IssuedApiKey) :=
  issueApiKeyForSubject x env organizationId workspaceId role .agent s

def createOrganization (request : CreateOrganizationRequest) : ApiCall (StatusCode × IssuedApiKey) := do
  Program.query fun _ => authorizeBootstrap x bootstrapTokenHash headers
  let key ← withStore (Program.transaction (issueApiKey x (env 0) request.organizationId none .owner))
  let principal : Principal :=
    { id := key.id
      organizationId := key.organizationId
      workspaceId := none
      role := key.role
      subjectKind := key.subjectKind }
  withStore (Program.update fun s => audit (env 1) s principal "organization.create" "organization")
  return (.created, key)

def createApiKey (request : CreateApiKeyRequest) : ApiCall (StatusCode × IssuedApiKey) := do
  let principal ← Program.query
    (authorize x headers request.organizationId (request.workspaceId.getD "") .owner)
  Program.query fun _ => ensure (principal.workspaceId.all fun scope => request.workspaceId == some scope)
    (forbidden "a workspace-scoped owner may issue keys only for its own workspace")
  let key ← withStore (Program.transaction (issueApiKeyForSubject x (env 0) request.organizationId
    request.workspaceId request.role request.subjectKind))
  withStore (Program.update fun s => audit (env 1) s principal "api_key.create" key.id.text)
  return (.created, key)

end

inductive KeyRequest where
  | createOrganization (request : CreateOrganizationRequest)
  | createApiKey (request : CreateApiKeyRequest)

structure KeyEvent where
  env : Nat → Env
  headers : Headers
  request : KeyRequest

section
variable (x : Externals) (bootstrapTokenHash : HexText)

def KeyEvent.call (event : KeyEvent) : ApiCall (StatusCode × IssuedApiKey) :=
  match event.request with
  | .createOrganization request => createOrganization x bootstrapTokenHash event.env event.headers request
  | .createApiKey request => createApiKey x event.env event.headers request

def KeyEvent.token (event : KeyEvent) : String :=
  "hk_" ++ ((event.env 0).uuid 1).simple ++ ((event.env 0).uuid 2).simple

/-- A request for a key is answered. The token it draws is random, so no key has it yet. -/
structure KeyStep (s : Store) (event : KeyEvent) (s' : Store) : Prop where
  fresh : authenticate x event.token s = none
  next : s' = (event.call x bootstrapTokenHash s).1

def IssuedBy (trace : List (Store × KeyEvent)) (p q : String) : Prop :=
  ∃ taken ∈ trace, ∃ request status issued, taken.2.request = .createApiKey request ∧
    presentedKey taken.2.headers = some p ∧
    (taken.2.call x bootstrapTokenHash taken.1).2 = .ok (status, issued) ∧ issued.token = q

end

/-- What an owner's key and a key it has issued have in common. -/
structure Confines (issuer issued : Principal) : Prop where
  owner : issuer.role = .owner
  organization : issued.organizationId = issuer.organizationId
  workspace : ∀ workspaceId, issuer.workspaceId = some workspaceId → issued.workspaceId = some workspaceId

variable {x : Externals} {bootstrapTokenHash : HexText} {s s' : Store} {event : KeyEvent} {token p q : String}
  {principal issuer issued : Principal} {headers headers' : Headers} {organizationId workspaceId : String} {role : Role}

theorem Confines.trans {last : Principal} (first : Confines issuer issued) (second : Confines issued last) :
    Confines issuer last where
  owner := first.owner
  organization := second.organization.trans first.organization
  workspace workspaceId within := second.workspace workspaceId (first.workspace workspaceId within)

theorem Confines.accepts (confined : Confines issuer issued) (known : authenticate x p s = some issuer)
    (known' : authenticate x q s = some issued) (presented : presentedKey headers = some p)
    (presented' : presentedKey headers' = some q)
    (accepted : authorize x headers' organizationId workspaceId role s = .ok principal) :
    authorize x headers organizationId workspaceId role s = .ok issuer := by
  obtain ⟨token, named, found, acts⟩ := authorize_eq_ok.mp accepted
  rw [presented', Option.some.injEq] at named
  subst named
  rw [known', Option.some.injEq] at found
  subst found
  refine authorize_eq_ok.mpr ⟨p, presented, known, ?_⟩
  simp only [Principal.mayAct, Bool.and_eq_true, beq_iff_eq] at acts ⊢
  refine ⟨⟨confined.organization.symm.trans acts.1.1, ?_⟩, ?_⟩
  · rw [confined.owner]
    rfl
  · cases inside : issuer.workspaceId with
    | none => rfl
    | some scope =>
      rw [confined.workspace scope inside] at acts
      exact acts.2

theorem issueApiKeyForSubject_ok {env : Env} {workspaceId : Option String} {subjectKind : SubjectKind}
    {key : IssuedApiKey}
    (run : issueApiKeyForSubject x env organizationId workspaceId role subjectKind s = .ok (s', key)) :
    key.token = "hk_" ++ (env.uuid 1).simple ++ (env.uuid 2).simple ∧ ∃ record, s'.apiKeys =
      s.apiKeys.insert (x.sha256Text key.token).text record ∧ record.principal.organizationId = organizationId ∧
      record.principal.workspaceId = workspaceId := by
  unfold issueApiKeyForSubject at run
  obtain ⟨_, _, run⟩ := bind_eq_ok.mp run
  obtain ⟨_, _, run⟩ := bind_eq_ok.mp run
  cases run
  exact ⟨rfl, _, rfl, rfl, rfl⟩

inductive KeyChange (x : Externals) (event : KeyEvent) (s s' : Store) : Prop where
  | same (keys : s'.apiKeys = s.apiKeys) : KeyChange x event s s'
  | added (record : ApiKeyRecord) (keys : s'.apiKeys = s.apiKeys.insert (x.sha256Text event.token).text record) :
      KeyChange x event s s'

theorem KeyChange.keeps (change : KeyChange x event s s') (fresh : authenticate x event.token s = none)
    (known : authenticate x token s = some principal) : authenticate x token s' = some principal := by
  cases change with
  | same keys =>
    unfold authenticate
    rw [keys]
    exact known
  | added record keys =>
    have other : (x.sha256Text event.token).text ≠ (x.sha256Text token).text := by
      intro same
      unfold authenticate at fresh known
      rw [same, known] at fresh
      cases fresh
    unfold authenticate
    rw [keys, Table.find_insert_ne other]
    exact known

/-- A key is issued for the organization of the owner who asks, and for the owner's own workspace if it has one. -/
theorem createApiKey_issues {env : Nat → Env} {request : CreateApiKeyRequest} :
    Program.Triple (createApiKey x env headers request) s
      (fun answer s' => answer.2.token = "hk_" ++ ((env 0).uuid 1).simple ++ ((env 0).uuid 2).simple ∧
        ∃ token issuer record, presentedKey headers = some token ∧ authenticate x token s = some issuer ∧
          Confines issuer record.principal ∧
          s'.apiKeys = s.apiKeys.insert (x.sha256Text answer.2.token).text record)
      (fun _ s' => s'.apiKeys = s.apiKeys) := by
  have unchanged {α : Type} {f : Store → Except AppError α} :
      Program.Triple (Program.query f) s (fun a s' => s' = s ∧ f s = .ok a) (fun _ s' => s'.apiKeys = s.apiKeys) :=
    Program.Triple.query (fun _ run => ⟨rfl, run⟩) fun _ _ => rfl
  refine Program.Triple.bind unchanged fun issuer s₁ answered => ?_
  obtain ⟨rfl, authorized⟩ := answered
  refine Program.Triple.bind unchanged fun _ s₂ answered => ?_
  obtain ⟨rfl, within⟩ := answered
  obtain ⟨token, presented, known, acts⟩ := authorize_eq_ok.mp authorized
  simp only [Principal.mayAct, Bool.and_eq_true, beq_iff_eq] at acts
  have inside := ensure_eq_ok.mp within
  have owner : issuer.role = .owner := by
    cases role : issuer.role <;> simp_all [Role.allows]
  have issue : Program.Triple (withStore (Program.transaction (issueApiKeyForSubject x (env 0) request.organizationId
      request.workspaceId request.role request.subjectKind))) s₂
      (fun key s' => key.token = "hk_" ++ ((env 0).uuid 1).simple ++ ((env 0).uuid 2).simple ∧ ∃ record,
        Confines issuer record.principal ∧ s'.apiKeys = s₂.apiKeys.insert (x.sha256Text key.token).text record)
      (fun _ s' => s'.apiKeys = s₂.apiKeys) := by
    refine Program.Triple.mapError (Program.Triple.transaction (fun key s' run => ?_) fun _ _ => rfl)
    obtain ⟨drawn, record, keys, organization, workspace⟩ := issueApiKeyForSubject_ok run
    refine ⟨drawn, record, ⟨owner, organization.trans acts.1.1.symm, ?_⟩, keys⟩
    intro scope named
    simpa [workspace, named] using inside
  refine issue.bind fun key s₃ issued => ?_
  obtain ⟨drawn, record, confined, keys⟩ := issued
  have audited : Program.Triple (withStore (Program.update fun s => audit (env 1) s issuer "api_key.create" key.id.text))
      s₃ (fun _ s' => s'.apiKeys = s₃.apiKeys) (fun _ s' => s'.apiKeys = s₂.apiKeys) :=
    Program.Triple.mapError (Program.Triple.update rfl)
  refine audited.bind fun _ s₄ same => Program.Triple.pure ⟨drawn, token, issuer, record, presented, known, confined, ?_⟩
  rw [same, keys]

theorem createOrganization_issues {env : Nat → Env} {request : CreateOrganizationRequest} :
    Program.Triple (createOrganization x bootstrapTokenHash env headers request) s
      (fun answer s' => answer.2.token = "hk_" ++ ((env 0).uuid 1).simple ++ ((env 0).uuid 2).simple ∧
        ∃ record, s'.apiKeys = s.apiKeys.insert (x.sha256Text answer.2.token).text record)
      (fun _ s' => s'.apiKeys = s.apiKeys) := by
  have bootstrapped : Program.Triple (Program.query fun _ => authorizeBootstrap x bootstrapTokenHash headers) s
      (fun _ s' => s' = s) (fun _ s' => s'.apiKeys = s.apiKeys) :=
    Program.Triple.query (fun _ _ => rfl) fun _ _ => rfl
  refine bootstrapped.bind fun _ s₁ same => ?_
  subst same
  have issue : Program.Triple (withStore (Program.transaction (issueApiKey x (env 0) request.organizationId none .owner)))
      s₁ (fun key s' => key.token = "hk_" ++ ((env 0).uuid 1).simple ++ ((env 0).uuid 2).simple ∧
        ∃ record, s'.apiKeys = s₁.apiKeys.insert (x.sha256Text key.token).text record)
      (fun _ s' => s'.apiKeys = s₁.apiKeys) := by
    refine Program.Triple.mapError (Program.Triple.transaction (fun key s' run => ?_) fun _ _ => rfl)
    obtain ⟨drawn, record, keys, _⟩ := issueApiKeyForSubject_ok run
    exact ⟨drawn, record, keys⟩
  refine issue.bind fun key s₂ issued => ?_
  have audited {principal : Principal} : Program.Triple
      (withStore (Program.update fun s => audit (env 1) s principal "organization.create" "organization")) s₂
      (fun _ s' => s'.apiKeys = s₂.apiKeys) (fun _ s' => s'.apiKeys = s₁.apiKeys) :=
    Program.Triple.mapError (Program.Triple.update rfl)
  refine audited.bind fun _ s₃ same => Program.Triple.pure ?_
  rw [same]
  exact issued

theorem KeyStep.change (taken : KeyStep x bootstrapTokenHash s event s') : KeyChange x event s s' := by
  have outcome : Program.Triple (event.call x bootstrapTokenHash) s (fun _ => KeyChange x event s)
      (fun _ => KeyChange x event s) := by
    unfold KeyEvent.call
    cases event.request with
    | createOrganization request =>
      refine createOrganization_issues.weaken ?_ fun _ _ keys => .same keys
      rintro answer s' ⟨drawn, record, keys⟩
      rw [drawn] at keys
      exact .added record keys
    | createApiKey request =>
      refine createApiKey_issues.weaken ?_ fun _ _ keys => .same keys
      rintro answer s' ⟨drawn, _, _, record, _, _, _, keys⟩
      rw [drawn] at keys
      exact .added record keys
  rw [taken.next]
  exact Program.Triple.state _ outcome

theorem KeyStep.keeps (taken : KeyStep x bootstrapTokenHash s event s')
    (known : authenticate x token s = some principal) : authenticate x token s' = some principal :=
  taken.change.keeps taken.fresh known

def ConfinedKeys (x : Externals) (s : Store) (p q : String) : Prop :=
  ∃ issuer issued, authenticate x p s = some issuer ∧ authenticate x q s = some issued ∧ Confines issuer issued

theorem ConfinedKeys.step (confined : ConfinedKeys x s p q) (taken : KeyStep x bootstrapTokenHash s event s') :
    ConfinedKeys x s' p q := by
  obtain ⟨issuer, issued, known, known', confines⟩ := confined
  exact ⟨issuer, issued, taken.keeps known, taken.keeps known', confines⟩

theorem ConfinedKeys.trans {r : String} (first : ConfinedKeys x s p q) (second : ConfinedKeys x s q r) :
    ConfinedKeys x s p r := by
  obtain ⟨issuer, issued, known, known', confines⟩ := first
  obtain ⟨issuer', issued', found, found', confines'⟩ := second
  rw [known', Option.some.injEq] at found
  subst found
  exact ⟨issuer, issued', known, found', confines.trans confines'⟩

theorem KeyStep.issues (taken : KeyStep x bootstrapTokenHash s event s') {request : CreateApiKeyRequest}
    {status : StatusCode} {key : IssuedApiKey} (asked : event.request = .createApiKey request)
    (presented : presentedKey event.headers = some p)
    (answered : (event.call x bootstrapTokenHash s).2 = .ok (status, key)) : ConfinedKeys x s' p key.token := by
  unfold KeyEvent.call at answered
  have after := taken.next
  unfold KeyEvent.call at after
  rw [asked] at answered after
  have run := Program.run_of_result answered
  obtain ⟨drawn, token, issuer, record, presented', known, confines, keys⟩ := createApiKey_issues.ok run
  rw [presented, Option.some.injEq] at presented'
  subst presented'
  refine ⟨issuer, record.principal, taken.keeps known, ?_, confines⟩
  rw [after]
  unfold authenticate
  rw [keys, Table.find_insert_self]
  rfl

theorem issuedBy_confined {trace : List (Store × KeyEvent)} (run : Run (KeyStep x bootstrapTokenHash) s trace s')
    (issuedBy : IssuedBy x bootstrapTokenHash trace p q) : ConfinedKeys x s' p q := by
  induction run with
  | start =>
    obtain ⟨_, member, _⟩ := issuedBy
    cases member
  | @next trace before after event _ taken ih =>
    obtain ⟨step, member, request, status, key, asked, presented, answered, named⟩ := issuedBy
    rcases List.mem_append.mp member with earlier | last
    · exact (ih ⟨step, earlier, request, status, key, asked, presented, answered, named⟩).step taken
    · cases List.mem_singleton.mp last
      rw [← named]
      exact taken.issues asked presented answered

/-- No chain of issued keys escalates: what the last key of a chain is accepted for its first key is accepted for,
    and the chain stays in the organization and, where the first key has one, in its workspace. -/
theorem key_issuance_confines {trace : List (Store × KeyEvent)} (run : Run (KeyStep x bootstrapTokenHash) s trace s')
    (chain : Relation.TransGen (IssuedBy x bootstrapTokenHash trace) p q) :
    (∀ headers headers' organizationId workspaceId role principal, presentedKey headers = some p →
      presentedKey headers' = some q →
      authorize x headers' organizationId workspaceId role s' = .ok principal →
      ∃ issuer, authorize x headers organizationId workspaceId role s' = .ok issuer) ∧
    ∃ issuer issued, authenticate x p s' = some issuer ∧ authenticate x q s' = some issued ∧
      issued.organizationId = issuer.organizationId ∧
      ∀ workspaceId, issuer.workspaceId = some workspaceId → issued.workspaceId = some workspaceId := by
  have confined : ConfinedKeys x s' p q := by
    induction chain with
    | single issuedBy => exact issuedBy_confined run issuedBy
    | tail _ issuedBy ih => exact ih.trans (issuedBy_confined run issuedBy)
  obtain ⟨issuer, issued, known, known', confines⟩ := confined
  refine ⟨?_, issuer, issued, known, known', confines.organization, confines.workspace⟩
  intro headers headers' organizationId workspaceId role principal presented presented' accepted
  exact ⟨issuer, confines.accepts known known' presented presented' accepted⟩

def bearing (token : String) : Headers := some ⟨some ("Bearer " ++ token)⟩

def bootHash : HexText := sample.sha256Text "boot"

def keyTrace : Store → List KeyEvent → List (Store × KeyEvent)
  | _, [] => []
  | s, event :: rest => (s, event) :: keyTrace (event.call sample bootHash s).1 rest

def keyRun : Store → List KeyEvent → Store
  | s, [] => s
  | s, event :: rest => keyRun (event.call sample bootHash s).1 rest

theorem keyRun_run {s : Store} {events : List KeyEvent}
    (fresh : ∀ taken ∈ keyTrace s events, authenticate sample taken.2.token taken.1 = none) :
    Run (KeyStep sample bootHash) s (keyTrace s events) (keyRun s events) := by
  induction events generalizing s with
  | nil => exact .start
  | cons event rest ih =>
    rw [keyTrace, List.forall_mem_cons] at fresh
    have taken : KeyStep sample bootHash s event (event.call sample bootHash s).1 := ⟨fresh.1, rfl⟩
    rw [keyTrace, keyRun]
    exact (Run.single taken).append (ih fresh.2)

def bootstrapping : KeyEvent := ⟨fun _ => serialEnv 1 0, bearing "boot", .createOrganization ⟨"acme"⟩⟩

def ownerIssues : KeyEvent :=
  ⟨fun _ => serialEnv 2 1, bearing "hk_777", .createApiKey ⟨"acme", some "lab", .owner, .agent⟩⟩

def workspaceOwnerIssues : KeyEvent :=
  ⟨fun _ => serialEnv 3 2, bearing "hk_77777", .createApiKey ⟨"acme", some "lab", .reader, .user⟩⟩

def chainedEvents : List KeyEvent := [bootstrapping, ownerIssues, workspaceOwnerIssues]

theorem key_issuance_confines_chained : ∃ issuer, authorize sample (bearing "hk_777") "acme" "lab" .reader
    (keyRun (Store.empty .hashingV1) chainedEvents) = .ok issuer := by
  have run := keyRun_run (by decide +kernel :
    ∀ taken ∈ keyTrace (Store.empty .hashingV1) chainedEvents, authenticate sample taken.2.token taken.1 = none)
  let bootstrapped := (bootstrapping.call sample bootHash (Store.empty .hashingV1)).1
  let owned := (ownerIssues.call sample bootHash bootstrapped).1
  have first : IssuedBy sample bootHash (keyTrace (Store.empty .hashingV1) chainedEvents) "hk_777" "hk_77777" := by
    have answered : ∃ answer, (ownerIssues.call sample bootHash bootstrapped).2 = .ok answer ∧
        answer.2.token = "hk_77777" := by decide +kernel
    obtain ⟨⟨status, key⟩, answered, token⟩ := answered
    have member : (bootstrapped, ownerIssues) ∈ keyTrace (Store.empty .hashingV1) chainedEvents := by
      simp [chainedEvents, keyTrace, bootstrapped]
    exact ⟨_, member, _, status, key, rfl, by decide, answered, token⟩
  have second : IssuedBy sample bootHash (keyTrace (Store.empty .hashingV1) chainedEvents) "hk_77777" "hk_7777777" := by
    have answered : ∃ answer, (workspaceOwnerIssues.call sample bootHash owned).2 = .ok answer ∧
        answer.2.token = "hk_7777777" := by decide +kernel
    obtain ⟨⟨status, key⟩, answered, token⟩ := answered
    have member : (owned, workspaceOwnerIssues) ∈ keyTrace (Store.empty .hashingV1) chainedEvents := by
      simp [chainedEvents, keyTrace, owned, bootstrapped]
    exact ⟨_, member, _, status, key, rfl, by decide, answered, token⟩
  have accepted : ∃ principal, authorize sample (bearing "hk_7777777") "acme" "lab" .reader
      (keyRun (Store.empty .hashingV1) chainedEvents) = .ok principal ∧ principal.role = .reader := by decide +kernel
  obtain ⟨principal, accepted, _⟩ := accepted
  exact (key_issuance_confines run ((Relation.TransGen.single first).tail second)).1 _ _ _ _ _ principal
    (by decide) (by decide) accepted

end Hangar.Http
