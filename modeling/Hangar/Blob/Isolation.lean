import Hangar.Blob.Integrity
import Hangar.Projection.Scopes

namespace Hangar

open Lib

def Store.ownManifests (organizationId workspaceId : String) (s : Store) : Table String BlobManifest :=
  s.blobs.manifests.filter fun _ manifest =>
    inScope organizationId workspaceId manifest.organizationId manifest.workspaceId

def BlobStore.Keyed (b : BlobStore) : Prop := ∀ (key : String) (manifest : BlobManifest),
  b.manifests[key]? = some manifest →
    key = blobKey manifest.organizationId manifest.workspaceId manifest.sha256.text

/-- The stores agree on the blobs of a scope, and on those of the scopes whose joined ids read like its own. -/
def JoinedAlike (organizationId workspaceId : String) (s s' : Store) : Prop := ∀ organizationId' workspaceId',
  colonScope organizationId' workspaceId' = colonScope organizationId workspaceId →
    s'.ownManifests organizationId' workspaceId' = s.ownManifests organizationId' workspaceId'

variable {x : Externals} {engines : SearchEngines} {server server' : Server} {event : Event} {s : Store}
  {organizationId workspaceId organizationId' workspaceId' mediaType sha256 : String} {content : List UInt8}
  {limits : WorkspaceLimits} {fault : Option WriteFault} {b b' : BlobStore} {upload : Upload}

theorem blobKey_eq_iff {digest digest' : HexText} :
    blobKey organizationId workspaceId digest.text = blobKey organizationId' workspaceId' digest'.text ↔
      colonScope organizationId workspaceId = colonScope organizationId' workspaceId' ∧ digest = digest' := by
  have joined := @colon_inj (colonScope organizationId workspaceId) (colonScope organizationId' workspaceId')
    digest.text digest'.text digest.no_colon digest'.no_colon
  unfold blobKey
  unfold colonScope at joined ⊢
  rw [joined]
  constructor
  · intro same
    exact ⟨same.1, HexText.ext same.2⟩
  · intro same
    exact ⟨same.1, congrArg HexText.text same.2⟩

theorem Upload.Commits.keyed (keyed : b.Keyed) (committed : upload.Commits x b b') : b'.Keyed := by
  obtain ⟨accepted, manifests, _⟩ := committed
  intro key manifest found
  rw [manifests, Table.find_insert] at found
  split at found
  · next same =>
    cases found
    rw [← same]
    show blobKey _ _ upload.sha256 = blobKey _ _ (x.sha256 upload.content).text
    rw [accepted.digest]
    rfl
  · exact keyed _ _ found

theorem Upload.Aborts.manifests (aborted : upload.Aborts x b b') : b'.manifests = b.manifests := by
  rcases aborted with ⟨_, rfl⟩ | ⟨_, rfl | ⟨_, rfl⟩⟩
  · rfl
  · rfl
  · rfl

theorem Step.blobs_keyed (taken : Step x engines server event server') (keyed : server.store.blobs.Keyed) :
    server'.store.blobs.Keyed := by
  have left : server'.store = (callStore x engines event.env event.op server.store).1 := by rw [taken.next]; rfl
  rw [left]
  by_cases own : ∃ call, event.op = .blob call
  · obtain ⟨call, called⟩ := own
    rw [called]
    show (callBlob x call server.store).1.blobs.Keyed
    refine Program.Triple.state (fun s' => s'.blobs.Keyed) (callBlob_triple.weaken ?_ ?_)
    · intro _ s' committed
      exact committed.2.keyed keyed
    · intro _ s' stopped
      rcases stopped with ⟨_, same⟩ | ⟨_, aborted⟩
      · rw [same]
        exact keyed
      · unfold BlobStore.Keyed
        rw [aborted.manifests]
        exact keyed
  · rw [callStore_blobs fun call called => own ⟨call, called⟩]
    exact keyed

theorem Reachable.blobs_keyed (reachable : Reachable x engines server) : server.store.blobs.Keyed := by
  obtain ⟨provider, reached⟩ := reachable
  apply reached.preserves (I := fun server => server.store.blobs.Keyed)
  · intro key manifest found
    simp [Server.initial, Store.empty] at found
  · intro _ _ _ keyed taken
    exact taken.blobs_keyed keyed

theorem Upload.Commits.others (keyed : b.Keyed) (committed : upload.Commits x b b')
    (apart : colonScope upload.organizationId upload.workspaceId ≠ colonScope organizationId' workspaceId') :
    (b'.manifests.filter fun _ manifest =>
      inScope organizationId' workspaceId' manifest.organizationId manifest.workspaceId) =
    b.manifests.filter fun _ manifest =>
      inScope organizationId' workspaceId' manifest.organizationId manifest.workspaceId := by
  obtain ⟨accepted, manifests, _⟩ := committed
  rw [manifests]
  apply Table.filter_insert
  · rw [Bool.eq_false_iff]
    intro own
    obtain ⟨organization, workspace⟩ := inScope_iff.mp own
    apply apart
    rw [← organization, ← workspace]
    rfl
  · intro manifest found
    rw [Bool.eq_false_iff]
    intro own
    obtain ⟨rfl, rfl⟩ := inScope_iff.mp own
    have key := keyed _ _ found
    unfold Upload.key at key
    rw [← accepted.digest, blobKey_eq_iff] at key
    exact apart key.1

def blobChecks (x : Externals) (organizationId workspaceId : String) (content : List UInt8) (sha256 : String) :
    Result Unit := do
  check (!isBlank organizationId) "organization_id cannot be empty"
  check (!isBlank workspaceId) "workspace_id cannot be empty"
  check ((x.sha256 content).text = sha256) "blob digest mismatch"

def blobAnswer (x : Externals) (fault : Option WriteFault) (organizationId workspaceId mediaType : String)
    (content : List UInt8) (sha256 : String) (s : Store) : Result BlobReceipt := do
  blobChecks x organizationId workspaceId content sha256
  ensure ((s.blobs.files[sha256]?).isSome = true ∨ fault = none) (.external "writing blob")
  return ⟨x.sha256 content, content.length, mediaType, (s.blobs.files[sha256]?).isSome⟩

theorem putBlob_triple : Program.Triple (putBlob x fault organizationId workspaceId mediaType content sha256) s
    (fun receipt _ => blobAnswer x fault organizationId workspaceId mediaType content sha256 s = .ok receipt)
    (fun e _ => blobAnswer x fault organizationId workspaceId mediaType content sha256 s = .error e) := by
  unfold putBlob
  have checked : Program.Triple (Program.query fun _ => blobChecks x organizationId workspaceId content sha256 :
      Call Unit) s (fun _ s' => s' = s ∧ blobChecks x organizationId workspaceId content sha256 = .ok ())
      (fun e _ => blobAnswer x fault organizationId workspaceId mediaType content sha256 s = .error e) := by
    apply Program.Triple.query
    · intro _ run
      exact ⟨rfl, run⟩
    · intro e run
      unfold blobAnswer
      rw [run]
      rfl
  refine Program.Triple.bind checked fun _ s₁ done => ?_
  obtain ⟨rfl, checks⟩ := done
  unfold blobAnswer
  rw [bind_of_ok checks]
  have looked : Program.Triple (Program.query fun s => .ok (s.blobs.files[sha256]?).isSome : Call Bool) s₁
      (fun deduplicated s' => s' = s₁ ∧ deduplicated = (s₁.blobs.files[sha256]?).isSome) (fun _ _ => False) := by
    apply Program.Triple.query
    · intro deduplicated run
      cases run
      exact ⟨rfl, rfl⟩
    · intro e run
      cases run
  refine Program.Triple.bind (looked.weaken (fun _ _ kept => kept) fun _ _ never => never.elim) fun present s₂ found => ?_
  obtain ⟨rfl, found⟩ := found
  rw [← found]
  have commit {s : Store} (ready : present = true ∨ fault = none) {manifest : BlobManifest} :
      Program.Triple (do
        Program.transaction fun s =>
          .ok (s.writeBlobManifest (blobKey organizationId workspaceId sha256) manifest, ())
        return ⟨x.sha256 content, content.length, mediaType, present⟩ : Call BlobReceipt) s
        (fun receipt _ => (do
          ensure (present = true ∨ fault = none) (.external "writing blob")
          return ⟨x.sha256 content, content.length, mediaType, present⟩ : Result BlobReceipt) = .ok receipt)
        (fun e _ => (do
          ensure (present = true ∨ fault = none) (.external "writing blob")
          return ⟨x.sha256 content, content.length, mediaType, present⟩ : Result BlobReceipt) = .error e) := by
    have written : Program.Triple (Program.transaction fun s =>
        .ok (s.writeBlobManifest (blobKey organizationId workspaceId sha256) manifest, ()) : Call Unit) s
        (fun _ _ => True) (fun _ _ => False) := ⟨trivial⟩
    refine Program.Triple.bind (written.weaken (fun _ _ kept => kept) fun _ _ never => never.elim) fun _ _ _ => ?_
    apply Program.Triple.pure
    rw [bind_of_ok ((ensure_eq_ok (u := ())).mpr ready)]
    rfl
  cases present with
  | true => exact commit (.inl rfl)
  | false =>
    have write : Program.Triple (writeBlob fault sha256 content) s₂ (fun _ _ => fault = none)
        (fun e _ => (do
          ensure (false = true ∨ fault = none) (.external "writing blob")
          return ⟨x.sha256 content, content.length, mediaType, false⟩ : Result BlobReceipt) = .error e) := by
      cases fault with
      | none => exact ⟨rfl⟩
      | some cause => cases cause <;> exact ⟨rfl⟩
    exact Program.Triple.bind write fun _ _ ready => commit (.inr ready)

theorem putBlobWithLimits_result :
    (putBlobWithLimits x fault organizationId workspaceId mediaType content sha256 limits s).2 = (do
      enforceBlobLimits organizationId workspaceId limits s content.length sha256
      blobAnswer x fault organizationId workspaceId mediaType content sha256 s) := by
  apply Program.Triple.result
  refine Program.Triple.bind (Q := fun _ s' => s' = s ∧
    enforceBlobLimits organizationId workspaceId limits s content.length sha256 = .ok ()) ?_ ?_
  · apply Program.Triple.query
    · intro _ run
      exact ⟨rfl, run⟩
    · intro e run
      rw [run]
      rfl
  · intro _ s₁ passed
    obtain ⟨rfl, passed⟩ := passed
    rw [bind_of_ok passed]
    exact putBlob_triple

theorem workspaceUsage_congr {s s' : Store} (rest : s'.withoutBlobs = s.withoutBlobs)
    (own : s'.ownManifests organizationId workspaceId = s.ownManifests organizationId workspaceId) :
    workspaceUsage organizationId workspaceId s' = workspaceUsage organizationId workspaceId s := by
  have knowledge : s'.knowledge = s.knowledge := by
    have part := congrArg Store.knowledge rest
    exact part
  have ingestion : s'.ingestion = s.ingestion := by
    have part := congrArg Store.ingestion rest
    exact part
  have blobs : scopedBlobs organizationId workspaceId s' = scopedBlobs organizationId workspaceId s := by
    unfold scopedBlobs
    rw [← Table.rows_filter, ← Table.rows_filter]
    exact congrArg Table.rows own
  unfold workspaceUsage scopedMemories scopedDocuments documentPayload
  rw [knowledge, ingestion, blobs]

theorem JoinedAlike.symm {s s' : Store} (alike : JoinedAlike organizationId workspaceId s s') :
    JoinedAlike organizationId workspaceId s' s := fun organizationId' workspaceId' joined =>
  (alike organizationId' workspaceId' joined).symm

theorem JoinedAlike.find {s s' : Store} (alike : JoinedAlike organizationId workspaceId s s') (keyed : s.blobs.Keyed)
    {digest : HexText} {manifest : BlobManifest}
    (found : s.blobs.manifests[blobKey organizationId workspaceId digest.text]? = some manifest) :
    s'.blobs.manifests[blobKey organizationId workspaceId digest.text]? = some manifest := by
  have key := keyed _ _ found
  rw [blobKey_eq_iff] at key
  have own : (s.ownManifests manifest.organizationId manifest.workspaceId)[
      blobKey organizationId workspaceId digest.text]? = some manifest :=
    Table.find_filter_eq_some.mpr ⟨found, inScope_iff.mpr ⟨rfl, rfl⟩⟩
  rw [← alike _ _ key.1.symm] at own
  exact (Table.find_filter_eq_some.mp own).1

theorem enforceBlobLimits_congr {s s' : Store} (rest : s'.withoutBlobs = s.withoutBlobs)
    (alike : JoinedAlike organizationId workspaceId s s') (keyed : s.blobs.Keyed) (keyed' : s'.blobs.Keyed)
    {bytes : Nat} {digest : HexText} : enforceBlobLimits organizationId workspaceId limits s' bytes digest.text =
      enforceBlobLimits organizationId workspaceId limits s bytes digest.text := by
  have stored : s'.blobs.manifests[blobKey organizationId workspaceId digest.text]? =
      s.blobs.manifests[blobKey organizationId workspaceId digest.text]? := by
    ext manifest
    exact ⟨alike.symm.find keyed', alike.find keyed⟩
  unfold enforceBlobLimits
  rw [workspaceUsage_congr rest (alike _ _ rfl), stored]

def Refused {α : Type} (answer : Result α) : Prop := ∃ message, answer = .error (.check message)

theorem enforceBlobLimits_refuses {bytes : Nat} {failure : Failure}
    (run : enforceBlobLimits organizationId workspaceId limits s bytes sha256 = .error failure) :
    ∃ message, failure = .check message := by
  have checked : Avoids (fun failure => ¬ ∃ message, failure = .check message)
      (enforceBlobLimits organizationId workspaceId limits s bytes sha256) := by
    have fine {condition : Prop} [Decidable condition] {message : String} :
        Avoids (fun failure => ¬ ∃ message, failure = Failure.check message) (check condition message) :=
      Avoids.ensure fun bad => bad ⟨message, rfl⟩
    have usage : Avoids (fun failure => ¬ ∃ message, failure = Failure.check message)
        (workspaceUsage organizationId workspaceId s) := by
      refine Avoids.bind (Avoids.bind fine fun _ _ => fine) fun _ _ => ?_
      refine Avoids.bind ?_ fun _ _ => Avoids.pure
      apply Avoids.foldlM
      intro document _ total
      exact Avoids.bind (Avoids.context fun _ bad => bad ⟨_, rfl⟩) fun _ _ => Avoids.pure
    exact Avoids.bind fine fun _ _ => Avoids.bind usage fun _ _ => fine
  exact not_not.mp (checked failure run)

/-- The answers of two stores to one upload, as far as other scopes must not show in them. -/
structure SameAnswer (answer answer' : Result BlobReceipt) : Prop where
  verdict : Refused answer ↔ Refused answer'
  receipt : ∀ receipt receipt', answer = .ok receipt → answer' = .ok receipt' →
    receipt' = { receipt with deduplicated := receipt'.deduplicated }

theorem blobAnswer_ok {receipt : BlobReceipt}
    (answered : blobAnswer x fault organizationId workspaceId mediaType content sha256 s = .ok receipt) :
    receipt = ⟨x.sha256 content, content.length, mediaType, (s.blobs.files[sha256]?).isSome⟩ := by
  obtain ⟨_, _, answered⟩ := bind_eq_ok.mp answered
  obtain ⟨_, _, answered⟩ := bind_eq_ok.mp answered
  cases answered
  rfl

theorem putBlobWithLimits_receipt {receipt : BlobReceipt}
    (answered : (putBlobWithLimits x fault organizationId workspaceId mediaType content sha256 limits s).2 =
      .ok receipt) :
    receipt = ⟨x.sha256 content, content.length, mediaType, (s.blobs.files[sha256]?).isSome⟩ := by
  rw [putBlobWithLimits_result] at answered
  obtain ⟨_, _, answered⟩ := bind_eq_ok.mp answered
  exact blobAnswer_ok answered

theorem putBlobWithLimits_refused :
    Refused (putBlobWithLimits x fault organizationId workspaceId mediaType content sha256 limits s).2 ↔
      ¬ (enforceBlobLimits organizationId workspaceId limits s content.length sha256 = .ok () ∧
        blobChecks x organizationId workspaceId content sha256 = .ok ()) := by
  rw [putBlobWithLimits_result]
  have checks {failure : Failure} (run : blobChecks x organizationId workspaceId content sha256 = .error failure) :
      ∃ message, failure = .check message := by
    rcases bind_eq_error.mp run with first | ⟨_, _, run⟩
    · exact ⟨_, (ensure_eq_error.mp first).2.symm⟩
    · rcases bind_eq_error.mp run with second | ⟨_, _, third⟩
      · exact ⟨_, (ensure_eq_error.mp second).2.symm⟩
      · exact ⟨_, (ensure_eq_error.mp third).2.symm⟩
  cases quota : enforceBlobLimits organizationId workspaceId limits s content.length sha256 with
  | error failure =>
    obtain ⟨message, rfl⟩ := enforceBlobLimits_refuses quota
    constructor
    · intro _ both
      cases both.1
    · intro _
      exact ⟨message, rfl⟩
  | ok u =>
    rw [bind_of_ok rfl]
    unfold blobAnswer
    cases verdict : blobChecks x organizationId workspaceId content sha256 with
    | error failure =>
      obtain ⟨message, rfl⟩ := checks verdict
      constructor
      · intro _ both
        cases both.2
      · intro _
        exact ⟨message, rfl⟩
    | ok u' =>
      rw [bind_of_ok rfl]
      constructor
      · intro refused
        obtain ⟨message, failed⟩ := refused
        rcases bind_eq_error.mp failed with written | ⟨_, _, done⟩
        · cases (ensure_eq_error.mp written).2
        · cases done
      · intro both
        exact absurd ⟨rfl, rfl⟩ both

/-- An upload leaves the manifests and the usage of every scope that is joined differently. -/
theorem putBlobWithLimits_others (keyed : s.blobs.Keyed)
    (apart : colonScope organizationId workspaceId ≠ colonScope organizationId' workspaceId') :
    let after := (putBlobWithLimits x fault organizationId workspaceId mediaType content sha256 limits s).1
    after.ownManifests organizationId' workspaceId' = s.ownManifests organizationId' workspaceId' ∧
      workspaceUsage organizationId' workspaceId' after = workspaceUsage organizationId' workspaceId' s := by
  let call : BlobOp := .putBlobWithLimits organizationId workspaceId mediaType content sha256 limits fault
  have state : (callBlob x call s).1 =
      (putBlobWithLimits x fault organizationId workspaceId mediaType content sha256 limits s).1 :=
    Program.discard_state
  have rest : (callBlob x call s).1.withoutBlobs = s.withoutBlobs := callBlob_frames s
  have own : (callBlob x call s).1.ownManifests organizationId' workspaceId' =
      s.ownManifests organizationId' workspaceId' := by
    apply Program.Triple.state fun s' : Store => s'.ownManifests organizationId' workspaceId' =
      s.ownManifests organizationId' workspaceId'
    refine callBlob_triple.weaken ?_ ?_
    · intro _ s' committed
      exact committed.2.others keyed apart
    · intro _ s' stopped
      have manifests : s'.blobs.manifests = s.blobs.manifests := by
        rcases stopped with ⟨_, same⟩ | ⟨_, aborted⟩
        · rw [same]
        · exact aborted.manifests
      unfold Store.ownManifests
      rw [manifests]
  rw [state] at rest own
  exact ⟨own, workspaceUsage_congr rest own⟩

/-- Uploads of one scope neither change nor read the blobs of scopes that are joined differently, but the receipt
    says whether the shared directory has the content already. -/
theorem blobs_isolated (reachable : Reachable x engines server) :
    (∀ organizationId' workspaceId',
      colonScope organizationId workspaceId ≠ colonScope organizationId' workspaceId' →
        let after := (putBlobWithLimits x fault organizationId workspaceId mediaType content sha256 limits
          server.store).1
        after.ownManifests organizationId' workspaceId' = server.store.ownManifests organizationId' workspaceId' ∧
          workspaceUsage organizationId' workspaceId' after =
            workspaceUsage organizationId' workspaceId' server.store) ∧
    (∀ other : BlobStore, other.Keyed →
      JoinedAlike organizationId workspaceId server.store { server.store with blobs := other } →
      SameAnswer
        (putBlobWithLimits x fault organizationId workspaceId mediaType content sha256 limits server.store).2
        (putBlobWithLimits x fault organizationId workspaceId mediaType content sha256 limits
          { server.store with blobs := other }).2) ∧
    ∀ receipt,
      (putBlobWithLimits x fault organizationId workspaceId mediaType content sha256 limits server.store).2 =
        .ok receipt → receipt.deduplicated = (server.store.blobs.files[sha256]?).isSome := by
  have keyed := reachable.blobs_keyed
  refine ⟨fun organizationId' workspaceId' apart => putBlobWithLimits_others keyed apart, ?_, ?_⟩
  · intro other keyed' alike
    constructor
    · rw [putBlobWithLimits_refused, putBlobWithLimits_refused]
      by_cases digest : (x.sha256 content).text = sha256
      · subst digest
        have quota := @enforceBlobLimits_congr organizationId workspaceId limits server.store
          { server.store with blobs := other } rfl alike keyed keyed' content.length (x.sha256 content)
        rw [quota]
      · have fails : blobChecks x organizationId workspaceId content sha256 ≠ .ok () := by
          intro run
          obtain ⟨_, _, run⟩ := bind_eq_ok.mp run
          obtain ⟨_, _, run⟩ := bind_eq_ok.mp run
          exact digest (ensure_eq_ok.mp run)
        simp [fails]
    · intro receipt receipt' answered answered'
      rw [putBlobWithLimits_receipt answered, putBlobWithLimits_receipt answered']
  · intro receipt answered
    rw [putBlobWithLimits_receipt answered]

def ampleLimits : WorkspaceLimits := ⟨1000, 1000, 1000, 1000, 1000, 1000, 1000⟩

def betaServer : Server := freshRun sample noHits [(1, putAlpha "beta" none)]

theorem own_of_rows {s s' : Store} (none : Table.rows (s.ownManifests organizationId workspaceId) = [])
    (none' : Table.rows (s'.ownManifests organizationId workspaceId) = []) :
    s'.ownManifests organizationId workspaceId = s.ownManifests organizationId workspaceId := by
  have absent {t : Store} (none : Table.rows (t.ownManifests organizationId workspaceId) = []) (key : String) :
      (t.ownManifests organizationId workspaceId)[key]? = .none := by
    cases found : (t.ownManifests organizationId workspaceId)[key]? with
    | none => rfl
    | some manifest =>
      have listed := Table.mem_rows.mpr ⟨key, found⟩
      rw [none] at listed
      cases listed
  apply Table.ext_find
  intro key
  rw [absent none, absent none']

theorem alike_of_rows {s s' : Store} (apart : ∀ manifest ∈ Table.rows s.blobs.manifests ++ Table.rows s'.blobs.manifests,
    colonScope manifest.organizationId manifest.workspaceId ≠ colonScope organizationId workspaceId) :
    JoinedAlike organizationId workspaceId s s' := by
  intro organizationId' workspaceId' joined
  have absent {t : Store} (listed : ∀ manifest ∈ Table.rows t.blobs.manifests,
      manifest ∈ Table.rows s.blobs.manifests ++ Table.rows s'.blobs.manifests) :
      Table.rows (t.ownManifests organizationId' workspaceId') = [] := by
    rw [Store.ownManifests, Table.rows_filter, List.filter_eq_nil_iff]
    intro manifest member own
    obtain ⟨rfl, rfl⟩ := inScope_iff.mp own
    exact apart manifest (listed manifest member) joined
  apply own_of_rows
  · exact absent fun _ member => List.mem_append_left _ member
  · exact absent fun _ member => List.mem_append_right _ member

/-- The answer to `gamma` is the same beside a blob of `acme` as beside one of `beta`. -/
theorem blobs_isolated_gamma :
    SameAnswer
      (putBlobWithLimits sample none "gamma" "core" "text/plain" (bytes "alpha") alphaDigest ampleLimits
        putServer.store).2
      (putBlobWithLimits sample none "gamma" "core" "text/plain" (bytes "alpha") alphaDigest ampleLimits
        { putServer.store with blobs := betaServer.store.blobs }).2 := by
  have reachable : Reachable sample noHits putServer := freshRun_reachable (by decide +kernel)
  have reachable' : Reachable sample noHits betaServer := freshRun_reachable (by decide +kernel)
  apply (blobs_isolated reachable).2.1 betaServer.store.blobs
  · exact reachable'.blobs_keyed
  · apply alike_of_rows
    decide +kernel

def colonServer : Server := freshRun sample noHits
  [(1, .blob (.putBlob "acme" "core:eu" "text/plain" (bytes "alpha") alphaDigest none))]

/-- The receipt of `beta` shows whether `acme` has the same content; and an upload to the workspace `eu` of
    `acme:core` takes the place of the blob of `core:eu` of `acme`. -/
theorem blobs_not_isolated : Function.Injective sample.sha256 ∧
    (Reachable sample noHits (Server.initial .hashingV1) ∧ Reachable sample noHits putServer ∧
      putServer.store.ownManifests "beta" "core" = (Server.initial .hashingV1).store.ownManifests "beta" "core" ∧
      (∃ receipt, (putBlobWithLimits sample none "beta" "core" "text/plain" (bytes "alpha") alphaDigest ampleLimits
        (Server.initial .hashingV1).store).2 = .ok receipt ∧ receipt.deduplicated = false) ∧
      ∃ receipt, (putBlobWithLimits sample none "beta" "core" "text/plain" (bytes "alpha") alphaDigest ampleLimits
        putServer.store).2 = .ok receipt ∧ receipt.deduplicated = true) ∧
    Reachable sample noHits colonServer ∧
      (Table.rows (colonServer.store.ownManifests "acme" "core:eu")).length = 1 ∧
      Table.rows ((putBlobWithLimits sample none "acme:core" "eu" "text/plain" (bytes "alpha") alphaDigest
        ampleLimits colonServer.store).1.ownManifests "acme" "core:eu") = [] := by
  refine ⟨sample_injective, ⟨⟨.hashingV1, .refl⟩, freshRun_reachable (by decide +kernel), ?_, by decide +kernel, by decide +kernel⟩,
    freshRun_reachable (by decide +kernel), by decide +kernel, by decide +kernel⟩
  apply own_of_rows
  · decide +kernel
  · decide +kernel

end Hangar
