import Hangar.Server
import Mathlib.Tactic.IntervalCases

/-! Digests and identifiers that satisfy what the theorems assume of SHA-256, UUIDv5 and UUIDv7, and
    that can be computed. -/

namespace Hangar

open Lib

def hexDigits (b : UInt8) : List Char := [Nat.digitChar (b.toNat / 16), Nat.digitChar (b.toNat % 16)]

def hexEncode (content : List UInt8) : String := String.ofList (content.flatMap hexDigits)

theorem digitChar_isHex {n : Nat} (small : n < 16) : isHexChar (Nat.digitChar n) = true := by
  interval_cases n <;> decide

theorem digitChar_inj {m n : Nat} (small : m < 16) (small' : n < 16)
    (same : Nat.digitChar m = Nat.digitChar n) : m = n := by
  interval_cases m <;> interval_cases n <;> first | rfl | exact absurd same (by decide)

theorem hexEncode_isHex {content : List UInt8} : (hexEncode content).toList.all isHexChar = true := by
  rw [hexEncode, String.toList_ofList, List.all_flatMap, List.all_eq_true]
  intro b _
  have bound := b.toNat_lt
  simp only [hexDigits, List.all_cons, List.all_nil, Bool.and_true, Bool.and_eq_true]
  exact ⟨digitChar_isHex (by omega), digitChar_isHex (by omega)⟩

theorem hexDigits_flatMap_injective : Function.Injective fun content : List UInt8 => content.flatMap hexDigits := by
  intro left right same
  induction left generalizing right with
  | nil =>
    cases right with
    | nil => rfl
    | cons b right => simp [hexDigits] at same
  | cons a left ih =>
    cases right with
    | nil => simp [hexDigits] at same
    | cons b right =>
      have bound := a.toNat_lt
      have bound' := b.toNat_lt
      simp only [List.flatMap_cons, hexDigits, List.cons_append, List.nil_append, List.cons.injEq] at same
      obtain ⟨high, low, rest⟩ := same
      have high := digitChar_inj (by omega) (by omega) high
      have low := digitChar_inj (by omega) (by omega) low
      have equal : a = b := UInt8.toNat_inj.mp (by omega)
      rw [equal, ih rest]

/-- The listed values, and `other` for every other input. -/
def listed {α : Type} (known : List (List UInt8 × α)) (other : List UInt8 → α) (content : List UInt8) : α :=
  (known.lookup content).getD (other content)

theorem listed_injective {α : Type} {known : List (List UInt8 × α)} {other : List UInt8 → α}
    (distinct : (known.map Prod.snd).Nodup) (injective : Function.Injective other)
    (apart : ∀ entry ∈ known, ∀ content, entry.2 ≠ other content) : Function.Injective (listed known other) := by
  have member {content : List UInt8} {value : α} (found : known.lookup content = some value) :
      (content, value) ∈ known := by
    rcases List.lookup_eq_some_iff.mp found with ⟨before, after, split, _⟩
    rw [split]
    exact List.mem_append_right _ List.mem_cons_self
  intro left right same
  unfold listed at same
  cases first : known.lookup left with
  | some value =>
    cases second : known.lookup right with
    | some value' =>
      simp only [first, second, Option.getD_some] at same
      subst same
      have pair := List.inj_on_of_nodup_map distinct (member first) (member second) rfl
      exact congrArg Prod.fst pair
    | none =>
      simp only [first, second, Option.getD_some, Option.getD_none] at same
      exact absurd same (apart _ (member first) right)
  | none =>
    cases second : known.lookup right with
    | some value' =>
      simp only [first, second, Option.getD_some, Option.getD_none] at same
      exact absurd same.symm (apart _ (member second) left)
    | none =>
      simp only [first, second, Option.getD_none] at same
      exact injective same

/-- A stand-in, marked by zeros, for a digest or a name-based id that is not listed. -/
def standIn (content : List UInt8) : String := "0000" ++ hexEncode content

theorem standIn_marked {content : List UInt8} : (bytes (standIn content)).take 4 = bytes "0000" := by
  have joined : bytes (standIn content) = bytes "0000" ++ bytes (hexEncode content) := by
    simp [standIn, bytes, String.toByteArray_append]
  rw [joined, List.take_append_of_le_length (by decide +kernel)]
  decide +kernel

theorem standIn_isHex {content : List UInt8} : (standIn content).toList.all isHexChar = true := by
  rw [standIn, String.toList_append, List.all_append, hexEncode_isHex]
  decide

theorem standIn_injective : Function.Injective standIn := by
  intro left right same
  unfold standIn at same
  rw [← String.toList_inj, String.toList_append, String.toList_append, List.append_cancel_left_eq] at same
  rw [hexEncode, hexEncode, String.toList_ofList, String.toList_ofList] at same
  exact hexDigits_flatMap_injective same

def standInDigest (content : List UInt8) : HexText := ⟨standIn content, standIn_isHex⟩

def standInUuid (content : List UInt8) : Uuid :=
  ⟨standIn content, by
    rw [List.all_eq_true]
    intro c member
    rw [List.all_eq_true.mp standIn_isHex c member, Bool.true_or]⟩

/-- SHA-256 on the listed inputs. -/
def listedDigest (known : List (List UInt8 × HexText)) : List UInt8 → HexText := listed known standInDigest

/-- `Uuid::new_v5` on the listed inputs. -/
def listedUuid (known : List (List UInt8 × Uuid)) : List UInt8 → Uuid := listed known standInUuid

theorem listedDigest_injective {known : List (List UInt8 × HexText)} (distinct : (known.map Prod.snd).Nodup)
    (unmarked : ∀ entry ∈ known, (bytes entry.2.text).take 4 ≠ bytes "0000") :
    Function.Injective (listedDigest known) := by
  apply listed_injective distinct
  · exact fun left right same => standIn_injective (congrArg HexText.text same)
  · intro entry member content same
    apply unmarked entry member
    rw [congrArg HexText.text same]
    exact standIn_marked

theorem listedUuid_injective {known : List (List UInt8 × Uuid)} (distinct : (known.map Prod.snd).Nodup)
    (unmarked : ∀ entry ∈ known, (bytes entry.2.text).take 4 ≠ bytes "0000") :
    Function.Injective (listedUuid known) := by
  apply listed_injective distinct
  · exact fun left right same => standIn_injective (congrArg Uuid.text same)
  · intro entry member content same
    apply unmarked entry member
    rw [congrArg Uuid.text same]
    exact standIn_marked

theorem replicate_isUuid {i : Nat} :
    (List.replicate i '7').all (fun c => isHexChar c || c == '-') = true := by
  induction i with
  | zero => rfl
  | succ i ih =>
    rw [List.replicate_succ, List.all_cons, ih]
    decide

/-- A stand-in for the `i`-th time-ordered id. -/
def serialUuid (i : Nat) : Uuid :=
  ⟨String.ofList (List.replicate i '7'), by rw [String.toList_ofList]; exact replicate_isUuid⟩

theorem serialUuid_injective : Function.Injective serialUuid := by
  intro i j same
  have texts := congrArg (fun id => id.text.toList.length) same
  simpa [serialUuid] using texts

theorem replicate_lt {i j : Nat} (less : i < j) : List.replicate i '7' < List.replicate j '7' := by
  induction i generalizing j with
  | zero =>
    cases j with
    | zero => omega
    | succ j => exact List.Lex.nil
  | succ i ih =>
    cases j with
    | zero => omega
    | succ j =>
      rw [List.replicate_succ, List.replicate_succ]
      exact List.Lex.cons (ih (by omega))

theorem serialUuid_lt {i j : Nat} (less : i < j) : compare (serialUuid i) (serialUuid j) = .lt := by
  have texts : (serialUuid i).text < (serialUuid j).text := by
    rw [String.lt_iff]
    simpa [serialUuid] using replicate_lt less
  show compareOfLessAndEq (serialUuid i).text (serialUuid j).text = .lt
  unfold compareOfLessAndEq
  rw [if_pos texts]

/-- A call at time `now` that draws its ids from `first` on. -/
def serialEnv (now first : Nat) : Env := ⟨now, fun i => serialUuid (first + i)⟩

theorem serialEnv_distinct {now first : Nat} : Function.Injective (serialEnv now first).uuid := by
  intro i j same
  have equal := serialUuid_injective same
  omega

def Server.ids (server : Server) : List Uuid :=
  server.store.ingestion.documents.keys ++ server.store.ingestion.jobs.keys ++ server.minted.map Prod.snd ++
    server.store.knowledge.memories.keys ++ server.store.knowledge.memoryShares.keys ++
    server.store.catalog.agentSkills.keys ++ server.store.catalog.guardrailPolicies.keys ++
    server.store.workingMemory.sessions.keys ++
    (Table.rows server.store.workingMemory.sessions).flatMap fun session =>
      session.entries.map WorkingMemoryEntry.id

theorem Server.uses_iff {server : Server} {id : Uuid} : server.Uses id ↔ id ∈ server.ids := by
  unfold Server.Uses Server.ids
  simp only [List.mem_append, Std.ExtTreeMap.mem_keys, List.mem_map, List.mem_flatMap, Prod.exists,
    exists_eq_right, or_assoc]

/-- The server has drawn its ids from the first `first` serial ones. -/
def Server.Serial (server : Server) (first : Nat) : Prop := ∀ id ∈ server.ids, id.text.toList.length < first

instance {server : Server} {first : Nat} : Decidable (server.Serial first) :=
  inferInstanceAs (Decidable (∀ id ∈ server.ids, id.text.toList.length < first))

theorem Server.Serial.fresh {server : Server} {now first : Nat} (serial : server.Serial first) :
    (serialEnv now first).Fresh server where
  distinct := serialEnv_distinct
  unused i used := by
    have short := serial _ (Server.uses_iff.mp used)
    simp only [serialEnv, serialUuid, String.toList_ofList, List.length_replicate] at short
    omega

variable (x : Externals) (engines : SearchEngines)

/-- The ids set aside for each call of a serial run. -/
def serialStride : Nat := 16

def serialRun : Server → Nat → List (Nat × Op) → Server
  | server, _, [] => server
  | server, first, (now, op) :: rest =>
    serialRun (server.next x engines ⟨serialEnv now first, op⟩) (first + serialStride) rest

instance {server : Server} {op : Op} : Decidable (op.Permitted server) := by
  unfold Op.Permitted
  split
  · exact inferInstance
  · exact inferInstance

/-- Each call of the run is permitted and finds its ids unused. -/
def SerialLegal : Server → Nat → List (Nat × Op) → Prop
  | _, _, [] => True
  | server, first, (now, op) :: rest =>
    server.Serial first ∧ op.Permitted server ∧
      SerialLegal (server.next x engines ⟨serialEnv now first, op⟩) (first + serialStride) rest

def decideSerialLegal : (server : Server) → (first : Nat) → (calls : List (Nat × Op)) →
    Decidable (SerialLegal x engines server first calls)
  | _, _, [] => inferInstanceAs (Decidable True)
  | server, first, (now, op) :: rest =>
    have := decideSerialLegal (server.next x engines ⟨serialEnv now first, op⟩) (first + serialStride) rest
    inferInstanceAs (Decidable (_ ∧ _ ∧ _))

instance {server : Server} {first : Nat} {calls : List (Nat × Op)} :
    Decidable (SerialLegal x engines server first calls) := decideSerialLegal x engines server first calls

variable {x engines}

def freshRun (x : Externals) (engines : SearchEngines) (calls : List (Nat × Op)) : Server :=
  serialRun x engines (Server.initial .hashingV1) 0 calls

def serialTrace (x : Externals) (engines : SearchEngines) : Server → Nat → List (Nat × Op) → List (Server × Event)
  | _, _, [] => []
  | server, first, (now, op) :: rest =>
    (server, ⟨serialEnv now first, op⟩) ::
      serialTrace x engines (server.next x engines ⟨serialEnv now first, op⟩) (first + serialStride) rest

theorem serialRun_run {server : Server} {first : Nat} {calls : List (Nat × Op)}
    (legal : SerialLegal x engines server first calls) :
    Run (Step x engines) server (serialTrace x engines server first calls)
      (serialRun x engines server first calls) := by
  induction calls generalizing server first with
  | nil => exact .start
  | cons call calls ih =>
    obtain ⟨serial, permitted, legal⟩ := legal
    have taken : Step x engines server ⟨serialEnv call.1 first, call.2⟩
        (server.next x engines ⟨serialEnv call.1 first, call.2⟩) := ⟨serial.fresh, permitted, rfl⟩
    exact (Run.single taken).append (ih legal)

theorem serialRun_reaches {server : Server} {first : Nat} {calls : List (Nat × Op)}
    (legal : SerialLegal x engines server first calls) :
    Reaches (Step x engines) server (serialRun x engines server first calls) := ⟨_, serialRun_run legal⟩

theorem mem_serialTrace {server : Server} {first : Nat} {calls : List (Nat × Op)} {p : Server × Event}
    (member : p ∈ serialTrace x engines server first calls) : ∃ call ∈ calls, p.2.op = call.2 := by
  induction calls generalizing server first with
  | nil => cases member
  | cons call calls ih =>
    rcases List.mem_cons.mp member with rfl | member
    · exact ⟨call, List.mem_cons_self, rfl⟩
    · obtain ⟨call', listed, same⟩ := ih member
      exact ⟨call', List.mem_cons_of_mem _ listed, same⟩

theorem freshRun_reachable {calls : List (Nat × Op)}
    (legal : SerialLegal x engines (Server.initial .hashingV1) 0 calls) :
    Reachable x engines (freshRun x engines calls) := ⟨.hashingV1, serialRun_reaches legal⟩

def sampleDigests : List (List UInt8 × HexText) :=
  [(bytes "alpha",
      ⟨"8ed3f6ad685b959ead7022518e1af76cd816f8e8ec7ccdda1ed4018e8f2223f8", by decide +kernel⟩),
    (bytes "beta",
      ⟨"f44e64e75f3948e9f73f8dfa94721c4ce8cbb4f265c4790c702b2d41cfbf2753", by decide +kernel⟩),
    (bytes "retry-1",
      ⟨"3998fbdb8d844aa01d03de09b39b7b082e03bee469c40387bf2fedb81b1883f8", by decide +kernel⟩),
    (bytes "acme" ++ [0] ++ bytes "lab",
      ⟨"48da51c62959364a20dfa18ef0e2a33a3390c21145c26284b72c37a5f9d22e73", by decide +kernel⟩),
    (bytes "acme:lab:hashing-v1:builtin-1:128",
      ⟨"6c19e41e7a44cc9e4320b7670523da5b34c69a462f19f91e6b829b77d9ffa2cd", by decide +kernel⟩),
    (bytes "hk_777",
      ⟨"9268bba292a0664518c04787feed13bf7cdb03b8fd384d044d6692c6bc8f3c74", by decide +kernel⟩),
    (bytes "hk_77777",
      ⟨"d44270bfe6f6037eb641b9f05c75f0e0cb2318642114f313d66887efccbbf527", by decide +kernel⟩),
    (bytes "hk_7777777",
      ⟨"c198e09b97ced4d7f44106c5f6b8f259b1eae432ab6c6fbe4df649f63fffaaa4", by decide +kernel⟩),
    (bytes "boot",
      ⟨"4509beb0ab401d71fa4a5cd94a55c9a74f13332776ae4019c5bfc4c2005157ff", by decide +kernel⟩),
    (bytes "alpha alpha",
      ⟨"adeb0120ad72998f20ad4b8c1bb2778fb8327633561e65538c3a69d8a6df730d", by decide +kernel⟩),
    (bytes "acme" ++ [0] ++ bytes "lab:x",
      ⟨"287ac01a15b4138002b4d3dcf9ef3cb1bd5d82de906ef1d08f046b39dda63338", by decide +kernel⟩),
    (bytes "acme:lab:x:hashing-v1:builtin-1:128",
      ⟨"aba19d7cb754d5baee052a3ce63f88be4ca261f0bfc6b36e476f9708dc09c8d0", by decide +kernel⟩),
    (bytes "acme:lab:x:tantivy:1",
      ⟨"dec2b5091d4c9529126969ace2dc17ff2d634a91806a4c5b51993c0946e1cc2f", by decide +kernel⟩),
    (bytes "alpha beta",
      ⟨"1a989ea86150171c687b0727f218eedbb94c4665a7da9b0add1bf5de607f2bf1", by decide +kernel⟩),
    (bytes "beta gamma",
      ⟨"77c87a2a0999472ebec208d3b34774235850e78c637906bc550beaa524733770", by decide +kernel⟩),
    (bytes "Alpha rotates Zephyr keys",
      ⟨"8101346daa189c6188756960eb1605d08ed26ef2fcd327b185013905cbacd933", by decide +kernel⟩),
    (bytes "payroll uses alpha",
      ⟨"4ac181ab3f806ef6f1f2bd6acfa253dbec44fdb22fe9ce99f9bf94ec94c6dd8d", by decide +kernel⟩),
    (bytes "acme:lab:tantivy:1",
      ⟨"fc08725da2d8747e065bb607dcac565179db23593b8a2761046d2ccb35a09371", by decide +kernel⟩),
    (bytes "acme:lab:x:local-multilingual-v1:qdrant-paraphrase-multilingual-minilm-l12-v2-onnx-q:384",
      ⟨"1a052c536643b044935fe02c6ba6dff3d98668cc69241a51c46108b611738512", by decide +kernel⟩),
    (bytes "acme" ++ [0] ++ bytes "ops",
      ⟨"9777f60c3d99dde3e53570f5ae8e705f41b486a9ad121239dec73a76bbf5f352", by decide +kernel⟩),
    (bytes "acme:ops:hashing-v1:builtin-1:128",
      ⟨"57e3ac951703e4de5249cff68969e6ffc09ed15fa86be860a2b7e9af7209d94c", by decide +kernel⟩),
    (bytes "acme:ops:tantivy:1",
      ⟨"205cc7115ebfa4fd20fb636cacc7e6c09b19108e978a84f2479cd640e8fa20ad", by decide +kernel⟩)]

def sampleNames : List (List UInt8 × Uuid) :=
  [(bytes (entityIdText "acme" "lab" "alpha"),
      ⟨"47e45bec-c06f-57be-80fe-f881e7586487", by decide +kernel⟩),
    (bytes (entityIdText "acme" "lab" "beta"),
      ⟨"21c31064-b8fb-5055-8a56-9cb2971bd612", by decide +kernel⟩),
    (bytes (entityIdText "acme" "lab" "gamma"),
      ⟨"e3d5505f-a494-5842-b0a1-00047fc762c2", by decide +kernel⟩),
    (bytes (edgeIdText "acme" "lab"
        "47e45bec-c06f-57be-80fe-f881e7586487:21c31064-b8fb-5055-8a56-9cb2971bd612:co_occurs_with"),
      ⟨"e2ce4ba7-74f8-569c-a030-e5ad487215b9", by decide +kernel⟩),
    (bytes (edgeIdText "acme" "lab"
        "21c31064-b8fb-5055-8a56-9cb2971bd612:e3d5505f-a494-5842-b0a1-00047fc762c2:co_occurs_with"),
      ⟨"7e595cf0-551e-533a-9c1b-7fb41859a1a9", by decide +kernel⟩),
    (bytes (entityIdText "acme" "lab:x" "alpha"),
      ⟨"6679dd28-e23c-5d73-b564-6d35aa9acf6f", by decide +kernel⟩),
    (bytes (entityIdText "acme" "lab:x" "rotates"),
      ⟨"83a1c8c8-7a17-5263-a884-43ecbcba3d12", by decide +kernel⟩),
    (bytes (entityIdText "acme" "lab:x" "zephyr"),
      ⟨"32b1a34e-ae2f-5c6a-a6f1-4dc3257940ee", by decide +kernel⟩),
    (bytes (entityIdText "acme" "lab:x" "keys"),
      ⟨"bfec6795-674c-5562-939f-4dc509b6327f", by decide +kernel⟩),
    (bytes (entityIdText "acme" "lab:x" "payroll"),
      ⟨"80324fec-adcb-5fe7-a1e3-63e0dba43daf", by decide +kernel⟩),
    (bytes (entityIdText "acme" "lab:x" "uses"),
      ⟨"88ec62da-8801-5f56-bbeb-0102d59bd3aa", by decide +kernel⟩),
    (bytes (edgeIdText "acme" "lab:x"
        "6679dd28-e23c-5d73-b564-6d35aa9acf6f:83a1c8c8-7a17-5263-a884-43ecbcba3d12:co_occurs_with"),
      ⟨"08bf160a-f236-5c68-a67b-043a85bef4a8", by decide +kernel⟩),
    (bytes (edgeIdText "acme" "lab:x"
        "6679dd28-e23c-5d73-b564-6d35aa9acf6f:32b1a34e-ae2f-5c6a-a6f1-4dc3257940ee:co_occurs_with"),
      ⟨"ba6ae6d4-27a4-571b-ba1e-a07b9c1a999f", by decide +kernel⟩),
    (bytes (edgeIdText "acme" "lab:x"
        "6679dd28-e23c-5d73-b564-6d35aa9acf6f:bfec6795-674c-5562-939f-4dc509b6327f:co_occurs_with"),
      ⟨"5c080b6f-f4eb-5929-9715-1b72e1def36e", by decide +kernel⟩),
    (bytes (edgeIdText "acme" "lab:x"
        "83a1c8c8-7a17-5263-a884-43ecbcba3d12:32b1a34e-ae2f-5c6a-a6f1-4dc3257940ee:co_occurs_with"),
      ⟨"306ce24a-8dca-56b3-8888-da4e267e55c3", by decide +kernel⟩),
    (bytes (edgeIdText "acme" "lab:x"
        "bfec6795-674c-5562-939f-4dc509b6327f:83a1c8c8-7a17-5263-a884-43ecbcba3d12:co_occurs_with"),
      ⟨"6146e88f-ed72-5113-b048-a84a2f0b88ad", by decide +kernel⟩),
    (bytes (edgeIdText "acme" "lab:x"
        "bfec6795-674c-5562-939f-4dc509b6327f:32b1a34e-ae2f-5c6a-a6f1-4dc3257940ee:co_occurs_with"),
      ⟨"7b0263ba-25dc-56af-8e21-0d304c8c189b", by decide +kernel⟩),
    (bytes (edgeIdText "acme" "lab:x"
        "80324fec-adcb-5fe7-a1e3-63e0dba43daf:88ec62da-8801-5f56-bbeb-0102d59bd3aa:co_occurs_with"),
      ⟨"99898523-384a-5a56-8216-60fa3d9f1f44", by decide +kernel⟩),
    (bytes (edgeIdText "acme" "lab:x"
        "6679dd28-e23c-5d73-b564-6d35aa9acf6f:80324fec-adcb-5fe7-a1e3-63e0dba43daf:co_occurs_with"),
      ⟨"564074cb-1a27-5710-8da7-4512714db6c7", by decide +kernel⟩),
    (bytes (edgeIdText "acme" "lab:x"
        "6679dd28-e23c-5d73-b564-6d35aa9acf6f:88ec62da-8801-5f56-bbeb-0102d59bd3aa:co_occurs_with"),
      ⟨"6ebf26ba-0a53-5eb5-b10a-756a5b5fd824", by decide +kernel⟩)]

/-- The hashing-v1 embedding of a text of one token: a unit vector chosen by the token's digest. -/
def unitVector (bucket : Nat) (sign : ℚ) : List ℚ := (List.range 128).map fun i => if i = bucket then sign else 0

def sampleEmbed : EmbeddingProvider → String → Except String (List ℚ)
  | .hashingV1, "alpha" => .ok (unitVector 14 (-1))
  | .hashingV1, "beta" => .ok (unitVector 116 1)
  | _, _ => .error "embedding not listed"

/-- The hashes of the sample runs, with the ASCII part of the Unicode tables. -/
def sample : Externals where
  sha256 := listedDigest sampleDigests
  newV5 := listedUuid sampleNames
  toLowercase := String.toLower
  isAlphanumeric := Char.isAlphanum
  isAlphabetic := Char.isAlpha
  embed := sampleEmbed

theorem sample_injective : Function.Injective sample.sha256 := by
  apply listedDigest_injective
  · decide +kernel
  · decide +kernel

theorem sample_names : Function.Injective sample.newV5 := by
  apply listedUuid_injective
  · decide +kernel
  · decide +kernel

def noHits : SearchEngines := ⟨fun _ _ _ => .ok [], fun _ _ _ => .ok []⟩

def sampleDocument (organizationId workspaceId content : String) (key : Option String) : NewDocument where
  organizationId := organizationId
  workspaceId := workspaceId
  name := "note.md"
  source := none
  content := content
  createdBy := Uuid.nil
  idempotencyKey := key

end Hangar
