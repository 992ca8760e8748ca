import Hangar.Concrete
import Hangar.Edge.Addressed
import Hangar.Lib.Versions
import Hangar.Projection.Scopes
import Hangar.Reachability
import Mathlib.Data.String.Basic

namespace Hangar

open Lib

structure CatalogName where
  organizationId : String
  workspaceId : String
  name : String
deriving DecidableEq

def skillNumbering : Numbering Uuid AgentSkill CatalogName where
  key := AgentSkill.id
  series skill := ⟨skill.organizationId, skill.workspaceId, skill.name⟩
  version := AgentSkill.version

def policyNumbering : Numbering Uuid GuardrailPolicy CatalogName where
  key := GuardrailPolicy.id
  series policy := ⟨policy.organizationId, policy.workspaceId, policy.name⟩
  version := GuardrailPolicy.version

def maximumVersion : Nat := 2 ^ 32 - 1

def AgentSkill.precedes (left right : AgentSkill) : Prop :=
  left.name < right.name ∨ left.name = right.name ∧ left.version ≤ right.version

instance precedes_decidable {left right : AgentSkill} : Decidable (left.precedes right) :=
  inferInstanceAs (Decidable (_ ∨ _))

instance precedes_total : Std.Total AgentSkill.precedes where
  total left right := by
    unfold AgentSkill.precedes
    rcases lt_trichotomy left.name right.name with less | same | more
    · exact .inl (.inl less)
    · rcases Nat.le_total left.version right.version with le | le
      · exact .inl (.inr ⟨same, le⟩)
      · exact .inr (.inr ⟨same.symm, le⟩)
    · exact .inr (.inl more)

instance precedes_trans : IsTrans AgentSkill AgentSkill.precedes where
  trans left middle right := by
    intro first second
    rcases first with less | ⟨same, le⟩
    · rcases second with less' | ⟨same', _⟩
      · exact .inl (less.trans less')
      · exact .inl (same' ▸ less)
    · rcases second with less' | ⟨same', le'⟩
      · exact .inl (same ▸ less')
      · exact .inr ⟨same.trans same', le.trans le'⟩

def Op.createsSkill (x : Externals) (env : Env) (s : Store) : Op → Option Uuid
  | .catalog (.createSkill new) => (createSkill x env new s).toOption.map fun created => created.2.id
  | _ => none

def Op.createsPolicy (env : Env) (s : Store) : Op → Option Uuid
  | .catalog (.createGuardrailPolicy new) => (createGuardrailPolicy env new s).toOption.map fun created => created.2.id
  | _ => none

def createdSkills (x : Externals) (trace : List (Server × Event)) : List Uuid :=
  trace.filterMap fun p => p.2.op.createsSkill x p.2.env p.1.store

def createdPolicies (trace : List (Server × Event)) : List Uuid :=
  trace.filterMap fun p => p.2.op.createsPolicy p.2.env p.1.store

inductive AgentSkill.Moves (skill : AgentSkill) : AgentSkill → Prop where
  | transition {lifecycle : SkillLifecycle} {now : Nat} (valid : skill.lifecycle.canTransitionTo lifecycle = true) :
      skill.Moves { skill with lifecycle := lifecycle, updatedAtUnixMs := now }

inductive GuardrailPolicy.Moves (policy : GuardrailPolicy) : GuardrailPolicy → Prop where
  | transition {lifecycle : PolicyLifecycle} {now : Nat} (valid : policy.lifecycle.canTransitionTo lifecycle = true) :
      policy.Moves { policy with lifecycle := lifecycle, updatedAtUnixMs := now }

section
variable {x : Externals} {engines : SearchEngines} {env : Env} {s s' : Store}

theorem callStore_catalog {op : Op} (other : ∀ call, op ≠ .catalog call) :
    (callStore x engines env op s).1.catalog = s.catalog := by
  apply callStore_frame (g := Store.catalog)
  case catalog => exact fun call same => absurd same (other call)
  all_goals intros; rfl

theorem next_of_selected {α : Type} {numbering : Numbering Uuid α CatalogName} {t : Table Uuid α} {k : Uuid} {a : α}
    {selects : α → Bool} (key : numbering.key a = k)
    (version : numbering.version a = nextVersion (((Table.rows t).filter selects).map numbering.version))
    (selected : ∀ b, selects b = true ↔ numbering.series b = numbering.series a) :
    numbering.Next maximumVersion t k a := by
  have members : (Table.rows t).filter selects =
      (Table.rows t).filter fun b => numbering.series b = numbering.series a := by
    apply List.filter_congr
    intro b _
    rw [Bool.eq_iff_iff, selected, decide_eq_true_eq]
  refine ⟨key, ?_⟩
  rw [version, members]
  rfl

theorem createSkill_ok {new : NewAgentSkill} {skill : AgentSkill} (run : createSkill x env new s = .ok (s', skill)) :
    skillNumbering.Next maximumVersion s.catalog.agentSkills (env.uuid 0) skill ∧
      s'.catalog = ⟨s.catalog.agentSkills.insert (env.uuid 0) skill, s.catalog.guardrailPolicies⟩ := by
  unfold createSkill at run
  obtain ⟨_, _, run⟩ := bind_eq_ok.mp run
  obtain ⟨_, _, run⟩ := bind_eq_ok.mp run
  obtain ⟨_, _, run⟩ := bind_eq_ok.mp run
  obtain ⟨_, _, run⟩ := bind_eq_ok.mp run
  obtain ⟨_, _, run⟩ := bind_eq_ok.mp run
  cases run
  refine ⟨next_of_selected rfl rfl ?_, rfl⟩
  intro other
  rw [Bool.and_eq_true, inScope_iff, beq_iff_eq]
  simp only [skillNumbering, newSkill, CatalogName.mk.injEq, and_assoc]

theorem transitionSkill_ok {id : Uuid} {organizationId workspaceId : String} {lifecycle : SkillLifecycle}
    {answer : Option AgentSkill} (run : transitionSkill env id organizationId workspaceId lifecycle s = .ok (s', answer)) :
    s' = s ∨ ∃ skill, s.catalog.agentSkills[id]? = some skill ∧ skill.lifecycle.canTransitionTo lifecycle = true ∧
      s'.catalog = ⟨s.catalog.agentSkills.insert id { skill with
        lifecycle := lifecycle
        updatedAtUnixMs := env.now }, s.catalog.guardrailPolicies⟩ := by
  unfold transitionSkill at run
  cases stored : s.catalog.agentSkills[id]? with
  | none =>
    simp only [stored] at run
    cases run
    exact .inl rfl
  | some skill =>
    simp only [stored] at run
    obtain ⟨_, _, run⟩ := bind_eq_ok.mp run
    obtain ⟨_, valid, run⟩ := bind_eq_ok.mp run
    cases run
    exact .inr ⟨skill, rfl, ensure_eq_ok.mp valid, rfl⟩

theorem createGuardrailPolicy_ok {new : NewGuardrailPolicy} {policy : GuardrailPolicy}
    (run : createGuardrailPolicy env new s = .ok (s', policy)) :
    policyNumbering.Next maximumVersion s.catalog.guardrailPolicies (env.uuid 0) policy ∧
      s'.catalog = ⟨s.catalog.agentSkills, s.catalog.guardrailPolicies.insert (env.uuid 0) policy⟩ := by
  unfold createGuardrailPolicy at run
  obtain ⟨_, _, run⟩ := bind_eq_ok.mp run
  obtain ⟨_, _, run⟩ := bind_eq_ok.mp run
  obtain ⟨_, _, run⟩ := bind_eq_ok.mp run
  cases run
  refine ⟨next_of_selected rfl rfl ?_, rfl⟩
  intro other
  rw [Bool.and_eq_true, inScope_iff, beq_iff_eq]
  simp only [policyNumbering, newPolicy, CatalogName.mk.injEq, and_assoc]

theorem transitionGuardrailPolicy_ok {id : Uuid} {organizationId workspaceId : String} {lifecycle : PolicyLifecycle}
    {answer : Option GuardrailPolicy}
    (run : transitionGuardrailPolicy env id organizationId workspaceId lifecycle s = .ok (s', answer)) :
    s' = s ∨ ∃ policy, s.catalog.guardrailPolicies[id]? = some policy ∧
      policy.lifecycle.canTransitionTo lifecycle = true ∧
      s'.catalog = ⟨s.catalog.agentSkills, s.catalog.guardrailPolicies.insert id { policy with
        lifecycle := lifecycle
        updatedAtUnixMs := env.now }⟩ := by
  unfold transitionGuardrailPolicy at run
  cases stored : s.catalog.guardrailPolicies[id]? with
  | none =>
    simp only [stored] at run
    cases run
    exact .inl rfl
  | some policy =>
    simp only [stored] at run
    obtain ⟨_, _, run⟩ := bind_eq_ok.mp run
    obtain ⟨_, valid, run⟩ := bind_eq_ok.mp run
    cases run
    exact .inr ⟨policy, rfl, ensure_eq_ok.mp valid, rfl⟩

/-- What a catalog call does to the skills and to the policies, and the record it creates. -/
theorem callCatalog_edits {op : CatalogOp} (skillUnused : env.uuid 0 ∉ s.catalog.agentSkills)
    (policyUnused : env.uuid 0 ∉ s.catalog.guardrailPolicies) :
    Edit (skillNumbering.Next maximumVersion) AgentSkill.Moves s.catalog.agentSkills
        ((Op.catalog op).createsSkill x env s) (callCatalog x env op s).1.catalog.agentSkills ∧
      Edit (policyNumbering.Next maximumVersion) GuardrailPolicy.Moves s.catalog.guardrailPolicies
        ((Op.catalog op).createsPolicy env s) (callCatalog x env op s).1.catalog.guardrailPolicies := by
  cases op with
  | createSkill new =>
    unfold callCatalog
    simp only [Op.createsSkill, Op.createsPolicy]
    cases run : createSkill x env new s with
    | error e =>
      rw [transaction_of_error run]
      exact ⟨.keep, .keep⟩
    | ok result =>
      obtain ⟨s', skill⟩ := result
      obtain ⟨next, written⟩ := createSkill_ok run
      rw [transaction_of_ok run, written]
      simp only [Except.toOption, Option.map_some]
      rw [show skill.id = env.uuid 0 from next.1]
      exact ⟨.create skillUnused next, .keep⟩
  | transitionSkill id organizationId workspaceId lifecycle =>
    unfold callCatalog
    simp only [Op.createsSkill, Op.createsPolicy]
    cases run : transitionSkill env id organizationId workspaceId lifecycle s with
    | error e =>
      rw [transaction_of_error run]
      exact ⟨.keep, .keep⟩
    | ok result =>
      rw [transaction_of_ok run]
      rcases transitionSkill_ok run with same | ⟨skill, stored, valid, written⟩
      · rw [same]
        exact ⟨.keep, .keep⟩
      · rw [written]
        exact ⟨.move stored (.transition valid), .keep⟩
  | createGuardrailPolicy new =>
    unfold callCatalog
    simp only [Op.createsSkill, Op.createsPolicy]
    cases run : createGuardrailPolicy env new s with
    | error e =>
      rw [transaction_of_error run]
      exact ⟨.keep, .keep⟩
    | ok result =>
      obtain ⟨s', policy⟩ := result
      obtain ⟨next, written⟩ := createGuardrailPolicy_ok run
      rw [transaction_of_ok run, written]
      simp only [Except.toOption, Option.map_some]
      rw [show policy.id = env.uuid 0 from next.1]
      exact ⟨.keep, .create policyUnused next⟩
  | transitionGuardrailPolicy id organizationId workspaceId lifecycle =>
    unfold callCatalog
    simp only [Op.createsSkill, Op.createsPolicy]
    cases run : transitionGuardrailPolicy env id organizationId workspaceId lifecycle s with
    | error e =>
      rw [transaction_of_error run]
      exact ⟨.keep, .keep⟩
    | ok result =>
      rw [transaction_of_ok run]
      rcases transitionGuardrailPolicy_ok run with same | ⟨policy, stored, valid, written⟩
      · rw [same]
        exact ⟨.keep, .keep⟩
      · rw [written]
        exact ⟨.keep, .move stored (.transition valid)⟩
  | issueApiKeyForSubject organizationId workspaceId role subjectKind =>
    unfold callCatalog
    simp only [Op.createsSkill, Op.createsPolicy]
    cases run : issueApiKeyForSubject x env organizationId workspaceId role subjectKind s with
    | error e =>
      rw [transaction_of_error run]
      exact ⟨.keep, .keep⟩
    | ok result =>
      rw [transaction_of_ok run]
      unfold issueApiKeyForSubject at run
      obtain ⟨_, _, run⟩ := bind_eq_ok.mp run
      obtain ⟨_, _, run⟩ := bind_eq_ok.mp run
      cases run
      exact ⟨.keep, .keep⟩

variable {server server' : Server} {event : Event}

theorem Step.edits (taken : Step x engines server event server') :
    Edit (skillNumbering.Next maximumVersion) AgentSkill.Moves server.store.catalog.agentSkills
        (event.op.createsSkill x event.env server.store) server'.store.catalog.agentSkills ∧
      Edit (policyNumbering.Next maximumVersion) GuardrailPolicy.Moves server.store.catalog.guardrailPolicies
        (event.op.createsPolicy event.env server.store) server'.store.catalog.guardrailPolicies := by
  have unused := taken.fresh.unused 0
  simp only [Server.Uses, not_or] at unused
  obtain ⟨_, _, _, _, _, skillUnused, policyUnused, _⟩ := unused
  rw [taken.next]
  change Edit _ _ _ _ (callStore x engines event.env event.op server.store).1.catalog.agentSkills ∧
    Edit _ _ _ _ (callStore x engines event.env event.op server.store).1.catalog.guardrailPolicies
  by_cases own : ∃ call, event.op = .catalog call
  · obtain ⟨call, own⟩ := own
    rw [own]
    exact callCatalog_edits skillUnused policyUnused
  · have other (call : CatalogOp) : event.op ≠ .catalog call := fun same => own ⟨call, same⟩
    rw [callStore_catalog other]
    have skills : event.op.createsSkill x event.env server.store = none := by
      unfold Op.createsSkill
      split
      · exact absurd ‹_› (other _)
      · rfl
    have policies : event.op.createsPolicy event.env server.store = none := by
      unfold Op.createsPolicy
      split
      · exact absurd ‹_› (other _)
      · rfl
    rw [skills, policies]
    exact ⟨.keep, .keep⟩

def SkillLifecycle.stage : SkillLifecycle → Nat
  | .draft => 0
  | .published => 1
  | .revoked => 2

def PolicyLifecycle.stage : PolicyLifecycle → Nat
  | .draft => 0
  | .enforced => 1
  | .retired => 2

theorem SkillLifecycle.stage_lt {lifecycle later : SkillLifecycle} (valid : lifecycle.canTransitionTo later = true) :
    lifecycle.stage < later.stage := by
  cases lifecycle <;> cases later <;> first | decide | cases valid

theorem PolicyLifecycle.stage_lt {lifecycle later : PolicyLifecycle} (valid : lifecycle.canTransitionTo later = true) :
    lifecycle.stage < later.stage := by
  cases lifecycle <;> cases later <;> first | decide | cases valid

/-- What a skill may have become later: only its lifecycle moves, and only forward. -/
structure AgentSkill.Continues (skill later : AgentSkill) : Prop where
  unchanged : later = { skill with
    lifecycle := later.lifecycle
    updatedAtUnixMs := later.updatedAtUnixMs }
  forward : skill.lifecycle.stage ≤ later.lifecycle.stage
  terminal : skill.lifecycle = .revoked → later = skill

structure GuardrailPolicy.Continues (policy later : GuardrailPolicy) : Prop where
  unchanged : later = { policy with
    lifecycle := later.lifecycle
    updatedAtUnixMs := later.updatedAtUnixMs }
  forward : policy.lifecycle.stage ≤ later.lifecycle.stage
  terminal : policy.lifecycle = .retired → later = policy

theorem AgentSkill.continues_of_moves {skill later : AgentSkill}
    (moves : Relation.ReflTransGen AgentSkill.Moves skill later) : skill.Continues later := by
  induction moves with
  | refl => exact ⟨rfl, le_rfl, fun _ => rfl⟩
  | @tail middle later _ move ih =>
    obtain ⟨unchanged, forward, terminal⟩ := ih
    obtain @⟨lifecycle, now, valid⟩ := move
    refine ⟨?_, ?_, ?_⟩
    · rw [unchanged]
    · exact forward.trans (SkillLifecycle.stage_lt valid).le
    · intro revoked
      have last := SkillLifecycle.stage_lt valid
      rw [terminal revoked, revoked] at last
      cases lifecycle <;> simp [SkillLifecycle.stage] at last

theorem GuardrailPolicy.continues_of_moves {policy later : GuardrailPolicy}
    (moves : Relation.ReflTransGen GuardrailPolicy.Moves policy later) : policy.Continues later := by
  induction moves with
  | refl => exact ⟨rfl, le_rfl, fun _ => rfl⟩
  | @tail middle later _ move ih =>
    obtain ⟨unchanged, forward, terminal⟩ := ih
    obtain @⟨lifecycle, now, valid⟩ := move
    refine ⟨?_, ?_, ?_⟩
    · rw [unchanged]
    · exact forward.trans (PolicyLifecycle.stage_lt valid).le
    · intro retired
      have last := PolicyLifecycle.stage_lt valid
      rw [terminal retired, retired] at last
      cases lifecycle <;> simp [PolicyLifecycle.stage] at last

structure Store.CatalogContinues (s later : Store) : Prop where
  skills : ∀ (id : Uuid) (skill : AgentSkill), s.catalog.agentSkills[id]? = some skill →
    ∃ skill', later.catalog.agentSkills[id]? = some skill' ∧ skill.Continues skill'
  policies : ∀ (id : Uuid) (policy : GuardrailPolicy), s.catalog.guardrailPolicies[id]? = some policy →
    ∃ policy', later.catalog.guardrailPolicies[id]? = some policy' ∧ policy.Continues policy'

variable {provider : EmbeddingProvider} {trace : List (Server × Event)}

theorem run_skills (run : Run (Step x engines) (Server.initial provider) trace server) :
    skillNumbering.Numbered maximumVersion (createdSkills x trace) server.store.catalog.agentSkills ∧
      ∀ p ∈ trace, Kept AgentSkill.Moves p.1.store.catalog.agentSkills server.store.catalog.agentSkills := by
  have kept : ∀ skill moved, AgentSkill.Moves skill moved → skillNumbering.SameVersion skill moved := by
    rintro skill _ ⟨_⟩
    exact ⟨rfl, rfl, rfl⟩
  exact Numbering.numbered_run (fun server : Server => server.store.catalog.agentSkills) kept rfl
    (fun _ _ _ taken => taken.edits.1) run

theorem run_policies (run : Run (Step x engines) (Server.initial provider) trace server) :
    policyNumbering.Numbered maximumVersion (createdPolicies trace) server.store.catalog.guardrailPolicies ∧
      ∀ p ∈ trace,
        Kept GuardrailPolicy.Moves p.1.store.catalog.guardrailPolicies server.store.catalog.guardrailPolicies := by
  have kept : ∀ policy moved, GuardrailPolicy.Moves policy moved → policyNumbering.SameVersion policy moved := by
    rintro policy _ ⟨_⟩
    exact ⟨rfl, rfl, rfl⟩
  exact Numbering.numbered_run (fun server : Server => server.store.catalog.guardrailPolicies) kept rfl
    (fun _ _ _ taken => taken.edits.2) run

theorem run_continues (run : Run (Step x engines) (Server.initial provider) trace server) {p : Server × Event}
    (member : p ∈ trace) : p.1.store.CatalogContinues server.store := by
  constructor
  · intro id skill stored
    obtain ⟨skill', stored', moves⟩ := (run_skills run).2 p member id skill stored
    exact ⟨skill', stored', AgentSkill.continues_of_moves moves⟩
  · intro id policy stored
    obtain ⟨policy', stored', moves⟩ := (run_policies run).2 p member id policy stored
    exact ⟨policy', stored', GuardrailPolicy.continues_of_moves moves⟩

end

end Hangar
