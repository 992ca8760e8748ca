import Hangar.Concrete
import Hangar.Reachability

namespace Hangar

open Lib

def BlobIntegrity (x : Externals) (b : BlobStore) : Prop :=
  ∀ (key : String) (manifest : BlobManifest), b.manifests[key]? = some manifest →
    ∃ content, b.files[manifest.sha256.text]? = some content ∧ x.sha256 content = manifest.sha256 ∧
      content.length = manifest.bytes

structure Upload where
  organizationId : String
  workspaceId : String
  mediaType : String
  content : List UInt8
  sha256 : String

structure Upload.Accepted (x : Externals) (upload : Upload) : Prop where
  organization : isBlank upload.organizationId = false
  workspace : isBlank upload.workspaceId = false
  digest : (x.sha256 upload.content).text = upload.sha256

def Upload.manifest (x : Externals) (upload : Upload) : BlobManifest where
  organizationId := upload.organizationId
  workspaceId := upload.workspaceId
  sha256 := x.sha256 upload.content
  bytes := upload.content.length
  mediaType := upload.mediaType

def Upload.key (upload : Upload) : String := blobKey upload.organizationId upload.workspaceId upload.sha256

def Upload.put (x : Externals) (upload : Upload) (fault : Option WriteFault) : Call BlobReceipt :=
  putBlob x fault upload.organizationId upload.workspaceId upload.mediaType upload.content upload.sha256

def Upload.Commits (x : Externals) (upload : Upload) (b b' : BlobStore) : Prop :=
  upload.Accepted x ∧ b'.manifests = b.manifests.insert upload.key (upload.manifest x) ∧
    (b.files[upload.sha256]? = none ∧ b'.files = b.files.insert upload.sha256 upload.content ∨
      (∃ stored, b.files[upload.sha256]? = some stored) ∧ b'.files = b.files)

/-- No manifest is committed; a write that breaks off leaves a beginning of the content. -/
def Upload.Aborts (x : Externals) (upload : Upload) (b b' : BlobStore) : Prop :=
  ¬ upload.Accepted x ∧ b' = b ∨
    b.files[upload.sha256]? = none ∧
      (b' = b ∨ ∃ written, b' = { b with files := b.files.insert upload.sha256 (upload.content.take written) })

def BlobOp.upload : BlobOp → Upload
  | .putBlob organizationId workspaceId mediaType content sha256 _ =>
    ⟨organizationId, workspaceId, mediaType, content, sha256⟩
  | .putBlobWithLimits organizationId workspaceId mediaType content sha256 _ _ =>
    ⟨organizationId, workspaceId, mediaType, content, sha256⟩

def BlobOp.Admitted (s : Store) : BlobOp → Prop
  | .putBlob .. => True
  | .putBlobWithLimits organizationId workspaceId _ content sha256 limits _ =>
    enforceBlobLimits organizationId workspaceId limits s content.length sha256 = .ok ()

variable {x : Externals} {engines : SearchEngines} {upload : Upload} {fault : Option WriteFault} {s s' : Store}
  {b b' : BlobStore}

theorem Upload.put_triple : Program.Triple (upload.put x fault) s
    (fun _ s' => upload.Commits x s.blobs s'.blobs) (fun _ s' => upload.Aborts x s.blobs s'.blobs) := by
  unfold Upload.put putBlob
  have checked : Program.Triple (Program.query fun _ => do
      check (!isBlank upload.organizationId) "organization_id cannot be empty"
      check (!isBlank upload.workspaceId) "workspace_id cannot be empty"
      check ((x.sha256 upload.content).text = upload.sha256) "blob digest mismatch" : Call Unit) s
      (fun _ s' => s' = s ∧ upload.Accepted x) (fun _ s' => upload.Aborts x s.blobs s'.blobs) := by
    apply Program.Triple.query
    · intro _ run
      obtain ⟨_, organization, run⟩ := bind_eq_ok.mp run
      obtain ⟨_, workspace, run⟩ := bind_eq_ok.mp run
      rw [ensure_eq_ok] at organization workspace run
      exact ⟨rfl, by simpa using organization, by simpa using workspace, run⟩
    · intro e run
      left
      refine ⟨?_, rfl⟩
      rintro ⟨organization, workspace, digest⟩
      have accepted : check (!isBlank upload.organizationId) "organization_id cannot be empty" = .ok () :=
        ensure_eq_ok.mpr (by simp [organization])
      have accepted' : check (!isBlank upload.workspaceId) "workspace_id cannot be empty" = .ok () :=
        ensure_eq_ok.mpr (by simp [workspace])
      rw [bind_of_ok accepted, bind_of_ok accepted'] at run
      exact (ensure_eq_error.mp run).1 digest
  refine checked.bind fun _ s₁ ⟨same, accepted⟩ => ?_
  subst same
  have looked : Program.Triple (Program.query fun s => .ok (s.blobs.files[upload.sha256]?).isSome : Call Bool) s₁
      (fun deduplicated s' => s' = s₁ ∧ deduplicated = (s₁.blobs.files[upload.sha256]?).isSome)
      (fun _ s' => upload.Aborts x s₁.blobs s'.blobs) := by
    apply Program.Triple.query
    · intro deduplicated run
      exact ⟨rfl, (Except.ok.inj run).symm⟩
    · intro e run
      cases run
  refine looked.bind fun deduplicated s₂ ⟨same, found⟩ => ?_
  subst same
  have commit {s₃ : Store} (manifests : s₃.blobs.manifests = s₂.blobs.manifests)
      (files : s₂.blobs.files[upload.sha256]? = none ∧
          s₃.blobs.files = s₂.blobs.files.insert upload.sha256 upload.content ∨
        (∃ stored, s₂.blobs.files[upload.sha256]? = some stored) ∧ s₃.blobs.files = s₂.blobs.files)
      {receipt : BlobReceipt} : Program.Triple (do
        Program.transaction fun s => .ok (s.writeBlobManifest upload.key (upload.manifest x), ())
        return receipt : Call BlobReceipt) s₃
        (fun _ s' => upload.Commits x s₂.blobs s'.blobs) (fun _ s' => upload.Aborts x s₂.blobs s'.blobs) := by
    have written : Program.Triple
        (Program.transaction fun s => .ok (s.writeBlobManifest upload.key (upload.manifest x), ()) : Call Unit) s₃
        (fun _ s' => upload.Commits x s₂.blobs s'.blobs) (fun _ s' => upload.Aborts x s₂.blobs s'.blobs) := by
      constructor
      refine ⟨accepted, ?_, files⟩
      rw [← manifests]
      rfl
    exact written.bind fun _ _ committed => .pure committed
  cases present : s₂.blobs.files[upload.sha256]? with
  | some stored =>
    simp only [present, Option.isSome_some] at found
    subst found
    exact commit rfl (.inr ⟨⟨stored, present⟩, rfl⟩)
  | none =>
    simp only [present, Option.isSome_none] at found
    subst found
    have write : Program.Triple (writeBlob fault upload.sha256 upload.content) s₂
        (fun _ s' => s'.blobs.manifests = s₂.blobs.manifests ∧
          s'.blobs.files = s₂.blobs.files.insert upload.sha256 upload.content)
        (fun _ s' => upload.Aborts x s₂.blobs s'.blobs) := by
      cases fault with
      | none => exact ⟨rfl, rfl⟩
      | some cause =>
        cases cause with
        | create => exact ⟨.inr ⟨present, .inl rfl⟩⟩
        | write written => exact ⟨.inr ⟨present, .inr ⟨written, rfl⟩⟩⟩
    refine Program.Triple.bind write fun _ s₃ ⟨manifests, files⟩ => ?_
    exact commit manifests (.inl ⟨present, files⟩)

theorem callBlob_triple {call : BlobOp} : Program.Triple (callBlob x call) s
    (fun _ s' => call.Admitted s ∧ call.upload.Commits x s.blobs s'.blobs)
    (fun _ s' => ¬ call.Admitted s ∧ s'.blobs = s.blobs ∨
      call.Admitted s ∧ call.upload.Aborts x s.blobs s'.blobs) := by
  cases call with
  | putBlob organizationId workspaceId mediaType content sha256 fault =>
    have put := @Upload.put_triple x ⟨organizationId, workspaceId, mediaType, content, sha256⟩ fault s
    refine Program.Triple.bind (put.weaken ?_ ?_) fun _ _ committed => .pure committed
    · intro _ s' committed
      exact ⟨trivial, committed⟩
    · intro _ s' aborted
      exact .inr ⟨trivial, aborted⟩
  | putBlobWithLimits organizationId workspaceId mediaType content sha256 limits fault =>
    refine Program.Triple.bind (Program.Triple.bind (Q := fun _ s' => s' = s ∧
      enforceBlobLimits organizationId workspaceId limits s content.length sha256 = .ok ()) ?_ ?_)
      fun _ _ committed => .pure committed
    · apply Program.Triple.query
      · intro _ run
        exact ⟨rfl, run⟩
      · intro e run
        left
        refine ⟨?_, rfl⟩
        show enforceBlobLimits organizationId workspaceId limits s content.length sha256 ≠ .ok ()
        rw [run]
        intro same
        cases same
    · rintro _ s₁ ⟨rfl, passed⟩
      have put := @Upload.put_triple x ⟨organizationId, workspaceId, mediaType, content, sha256⟩ fault s₁
      apply put.weaken
      · intro _ s' committed
        exact ⟨passed, committed⟩
      · intro _ s' aborted
        exact .inr ⟨passed, aborted⟩

/-- The upload is let through and commits its manifest for a file already at its path that does not have
    the digest and the length of its content. -/
def AdoptsTorn (x : Externals) (s : Store) (op : Op) : Prop :=
  ∃ (call : BlobOp) (stored : List UInt8), op = .blob call ∧ call.Admitted s ∧ call.upload.Accepted x ∧
    s.blobs.files[call.upload.sha256]? = some stored ∧
    ¬ (x.sha256 stored = x.sha256 call.upload.content ∧ stored.length = call.upload.content.length)

theorem BlobIntegrity.write (valid : BlobIntegrity x b) {path : String} (absent : b.files[path]? = none)
    {content : List UInt8} {key : String} {manifest : BlobManifest} (found : b.manifests[key]? = some manifest) :
    ∃ stored, (b.files.insert path content)[manifest.sha256.text]? = some stored ∧
      x.sha256 stored = manifest.sha256 ∧ stored.length = manifest.bytes := by
  obtain ⟨stored, storedFound, digest, length⟩ := valid key manifest found
  refine ⟨stored, ?_, digest, length⟩
  rw [Table.find_insert_ne, storedFound]
  rintro rfl
  simp [absent] at storedFound

theorem Upload.Aborts.integrity (valid : BlobIntegrity x b) (aborted : upload.Aborts x b b') : BlobIntegrity x b' := by
  rcases aborted with ⟨_, rfl⟩ | ⟨absent, rfl | ⟨written, rfl⟩⟩
  · exact valid
  · exact valid
  · intro key manifest found
    exact valid.write absent found

/-- A commit keeps the manifests true exactly when the file it commits is the content's own. -/
theorem Upload.Commits.integrity_iff (valid : BlobIntegrity x b) (committed : upload.Commits x b b') :
    BlobIntegrity x b' ↔ ∀ stored, b.files[upload.sha256]? = some stored →
      x.sha256 stored = x.sha256 upload.content ∧ stored.length = upload.content.length := by
  obtain ⟨accepted, manifests, how⟩ := committed
  have path : (x.sha256 upload.content).text = upload.sha256 := accepted.digest
  have split {key : String} {manifest : BlobManifest} (found : b'.manifests[key]? = some manifest) :
      manifest = upload.manifest x ∨ b.manifests[key]? = some manifest := by
    rw [manifests, Table.find_insert] at found
    by_cases same : upload.key = key
    · rw [if_pos same] at found
      exact .inl (Option.some.inj found).symm
    · rw [if_neg same] at found
      exact .inr found
  rcases how with ⟨absent, files⟩ | ⟨⟨stored, present⟩, files⟩
  · constructor
    · intro _ stored found
      rw [absent] at found
      cases found
    · intro _ key manifest found
      rw [files]
      rcases split found with rfl | old
      · refine ⟨upload.content, ?_, rfl, rfl⟩
        show (b.files.insert upload.sha256 upload.content)[(x.sha256 upload.content).text]? = some upload.content
        rw [path]
        exact Table.find_insert_self
      · exact valid.write absent old
  · have own : b'.manifests[upload.key]? = some (upload.manifest x) := by
      rw [manifests]
      exact Table.find_insert_self
    constructor
    · intro intact stored' found
      obtain ⟨content, contentFound, digest, length⟩ := intact _ _ own
      have located : b.files[upload.sha256]? = some content := by
        rw [← files, ← path]
        exact contentFound
      rw [found] at located
      cases located
      exact ⟨digest, length⟩
    · intro matched key manifest found
      rw [files]
      rcases split found with rfl | old
      · obtain ⟨digest, length⟩ := matched stored present
        refine ⟨stored, ?_, digest, length⟩
        show b.files[(x.sha256 upload.content).text]? = some stored
        rw [path]
        exact present
      · exact valid key manifest old

theorem Step.blobs_iff {server server' : Server} {event : Event} (taken : Step x engines server event server')
    (valid : BlobIntegrity x server.store.blobs) :
    BlobIntegrity x server'.store.blobs ↔ ¬ AdoptsTorn x server.store event.op := by
  have left : server'.store = (callStore x engines event.env event.op server.store).1 := by rw [taken.next]; rfl
  by_cases own : ∃ call, event.op = .blob call
  · obtain ⟨call, called⟩ := own
    have adopts_iff : AdoptsTorn x server.store event.op ↔ call.Admitted server.store ∧ call.upload.Accepted x ∧
        ∃ stored, server.store.blobs.files[call.upload.sha256]? = some stored ∧
          ¬ (x.sha256 stored = x.sha256 call.upload.content ∧ stored.length = call.upload.content.length) := by
      constructor
      · rintro ⟨call', stored, called', admitted, accepted, present, mismatch⟩
        rw [called] at called'
        cases called'
        exact ⟨admitted, accepted, stored, present, mismatch⟩
      · rintro ⟨admitted, accepted, stored, present, mismatch⟩
        exact ⟨call, stored, called, admitted, accepted, present, mismatch⟩
    rw [adopts_iff, left, called]
    show BlobIntegrity x (callBlob x call server.store).1.blobs ↔ _
    refine Program.Triple.state (fun s' => BlobIntegrity x s'.blobs ↔ _) (callBlob_triple.weaken ?_ ?_)
    · rintro _ s' ⟨admitted, committed⟩
      rw [committed.integrity_iff valid]
      constructor
      · rintro matched ⟨_, _, stored, present, mismatch⟩
        exact mismatch (matched stored present)
      · intro sound stored present
        by_contra mismatch
        exact sound ⟨admitted, committed.1, stored, present, mismatch⟩
    · rintro _ s' (⟨refused, same⟩ | ⟨_, aborted⟩)
      · rw [same]
        exact ⟨fun _ adopted => refused adopted.1, fun _ => valid⟩
      · refine ⟨?_, fun _ => aborted.integrity valid⟩
        rintro _ ⟨_, accepted, stored, present, _⟩
        rcases aborted with ⟨rejected, _⟩ | ⟨absent, _⟩
        · exact rejected accepted
        · rw [absent] at present
          cases present
  · have same : server'.store.blobs = server.store.blobs := by
      rw [left]
      exact callStore_blobs fun call called => own ⟨call, called⟩
    rw [same]
    constructor
    · rintro _ ⟨call, _, called, _⟩
      exact own ⟨call, called⟩
    · intro _
      exact valid

def StoresContent (x : Externals) (s : Store) (op : Op) : Prop :=
  ∀ call, op = .blob call → (callBlob x call s).2 = .ok () →
    (callBlob x call s).1.blobs.files[call.upload.sha256]? = some call.upload.content

theorem Step.storesContent {server server' : Server} {event : Event} (taken : Step x engines server event server')
    (injective : Function.Injective x.sha256) (after : BlobIntegrity x server'.store.blobs) :
    StoresContent x server.store event.op := by
  intro call called success
  have left : server'.store = (callBlob x call server.store).1 := by
    rw [taken.next]
    simp only [Server.next, called]
    rfl
  rw [left] at after
  have committed := callBlob_triple.ok (Prod.ext rfl success : callBlob x call server.store = (_, .ok ()))
  obtain ⟨_, accepted, manifests, _⟩ := committed
  have own : (callBlob x call server.store).1.blobs.manifests[call.upload.key]? = some (call.upload.manifest x) := by
    rw [manifests]
    exact Table.find_insert_self
  obtain ⟨content, found, digest, _⟩ := after _ _ own
  have same : content = call.upload.content := injective digest
  have path : (call.upload.manifest x).sha256.text = call.upload.sha256 := accepted.digest
  rw [path, same] at found
  exact found

/-- Throughout a run every manifest refers to a file with its digest and length, and every successful upload
    leaves exactly its content, exactly when no upload adopts a file that is not its content. -/
theorem blobs_intact_iff (injective : Function.Injective x.sha256) {provider : EmbeddingProvider} {later : Server}
    {trace : List (Server × Event)} (run : Run (Step x engines) (Server.initial provider) trace later) :
    ((∀ taken ∈ trace, BlobIntegrity x taken.1.store.blobs ∧ StoresContent x taken.1.store taken.2.op) ∧
        BlobIntegrity x later.store.blobs) ↔
      ∀ taken ∈ trace, ¬ AdoptsTorn x taken.1.store taken.2.op := by
  have empty : BlobIntegrity x (Server.initial provider).store.blobs := by
    intro key manifest found
    simp [Server.initial, Store.empty] at found
  have always := run.always_iff (I := fun server => BlobIntegrity x server.store.blobs)
    (B := fun server event => AdoptsTorn x server.store event.op) empty fun _ _ _ valid taken => taken.blobs_iff valid
  rw [← always]
  constructor
  · rintro ⟨before, after⟩
    exact ⟨fun taken member => (before taken member).1, after⟩
  · rintro ⟨before, after⟩
    have good := always.mp ⟨before, after⟩
    refine ⟨fun taken member => ⟨before taken member, ?_⟩, after⟩
    obtain ⟨next, step⟩ := run.taken member
    have kept := (step.blobs_iff (before taken member)).mpr (good taken member)
    exact step.storesContent injective kept

def alphaDigest : String := "8ed3f6ad685b959ead7022518e1af76cd816f8e8ec7ccdda1ed4018e8f2223f8"

def putAlpha (organizationId : String) (fault : Option WriteFault) : Op :=
  .blob (.putBlob organizationId "core" "text/plain" (bytes "alpha") alphaDigest fault)

/-- A write of `alpha` breaks off after two bytes, and the upload is repeated. -/
def tornServer : Server := freshRun sample noHits [(1, putAlpha "acme" (some (.write 2))), (2, putAlpha "acme" none)]

/-- The repeated upload succeeds, and its manifest refers to the two bytes. -/
theorem blobs_torn : Function.Injective sample.sha256 ∧ Reachable sample noHits tornServer ∧
    (∃ receipt, (putBlob sample none "acme" "core" "text/plain" (bytes "alpha") alphaDigest
      (freshRun sample noHits [(1, putAlpha "acme" (some (.write 2)))]).store).2 = .ok receipt ∧
        receipt.deduplicated = true) ∧
    tornServer.store.blobs.files[alphaDigest]? = some (bytes "al") ∧
    ¬ BlobIntegrity sample tornServer.store.blobs := by
  have file : tornServer.store.blobs.files[alphaDigest]? = some (bytes "al") := by decide +kernel
  refine ⟨sample_injective, freshRun_reachable (by decide +kernel), by decide +kernel, file, ?_⟩
  intro intact
  have committed : (tornServer.store.blobs.manifests[blobKey "acme" "core" alphaDigest]?.map fun manifest =>
      (manifest.sha256.text, manifest.bytes)) = some (alphaDigest, 5) := by decide +kernel
  obtain ⟨manifest, found, shape⟩ := Option.map_eq_some_iff.mp committed
  obtain ⟨digest, length⟩ := Prod.mk.inj shape
  obtain ⟨content, contentFound, _, size⟩ := intact _ _ found
  rw [digest, file] at contentFound
  cases contentFound
  rw [length] at size
  revert size
  decide +kernel

def putServer : Server := freshRun sample noHits [(1, putAlpha "acme" none)]

/-- Two organizations upload the same content, one after the other. -/
theorem blobs_intact_putServer :
    BlobIntegrity sample (putServer.next sample noHits ⟨serialEnv 2 16, putAlpha "beta" none⟩).store.blobs := by
  have first : Step sample noHits (Server.initial .hashingV1) ⟨serialEnv 1 0, putAlpha "acme" none⟩ putServer := by
    have serial : (Server.initial .hashingV1).Serial 0 := by decide +kernel
    exact ⟨serial.fresh, trivial, rfl⟩
  have second : Step sample noHits putServer ⟨serialEnv 2 16, putAlpha "beta" none⟩
      (putServer.next sample noHits ⟨serialEnv 2 16, putAlpha "beta" none⟩) := by
    have serial : putServer.Serial 16 := by decide +kernel
    exact ⟨serial.fresh, trivial, rfl⟩
  have run := (Run.single first).next second
  refine ((blobs_intact_iff sample_injective run).mpr ?_).2
  intro taken member
  have cases : taken = (Server.initial .hashingV1, ⟨serialEnv 1 0, putAlpha "acme" none⟩) ∨
      taken = (putServer, ⟨serialEnv 2 16, putAlpha "beta" none⟩) := by simpa using member
  rcases cases with rfl | rfl
  · rintro ⟨call, stored, called, _, _, present, _⟩
    simp [Server.initial, Store.empty] at present
  · rintro ⟨call, stored, called, _, _, present, mismatch⟩
    cases called
    have file : putServer.store.blobs.files[alphaDigest]? = some (bytes "alpha") := by decide +kernel
    have same : some stored = some (bytes "alpha") := present.symm.trans file
    cases same
    exact mismatch ⟨rfl, rfl⟩

end Hangar
