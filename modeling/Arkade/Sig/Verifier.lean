import Arkade.Engine.State

/-! The taproot signature verifiers of the engine: `parseTaprootSigAndPubKey`,
`newTaprootSigVerifier`, `newBaseTapscriptSigVerifier`, `verifySig` and the two `Verify`
methods. BIP-340 parsing and verification are a parameter bundle, `Schnorr`. btcd's
`SigCache` and its sighash code (`calcTaprootSignatureHashRaw`, BIP-341's signature message
with the BIP-342 extension) are not under src/: they are modelled from btcd, the sighash over
a parameter giving what it reads from the transaction. Both `Verify` methods pass no sighash
option, so the digest a tapscript check verifies is the key-path digest, whatever the leaf,
the code-separator position and the annex of the taproot context. -/
namespace Arkade.Sig
open ScriptNum

/-- btcd's `schnorr.ParsePubKey`, `schnorr.ParseSignature` and `Signature.Verify`. -/
structure Schnorr (PubKey Signature : Type) where
  parsePubKey : Bytes → Except ScriptError PubKey
  parseSignature : Bytes → Except ScriptError Signature
  verify : Signature → Bytes → PubKey → Bool

def schnorrSignatureSize : Nat := 64
def sigHashDefault : UInt8 := 0x00

variable {PubKey Signature : Type} (S : Schnorr PubKey Signature)

def parseTaprootSigAndPubKey (pkBytes rawSig : Bytes) : Except ScriptError (PubKey × Signature × UInt8) :=
  S.parsePubKey pkBytes >>= fun pubKey =>
  if rawSig.length = schnorrSignatureSize then
    S.parseSignature rawSig >>= fun sig => .ok (pubKey,sig,sigHashDefault)
  else if rawSig.length = schnorrSignatureSize + 1 ∧ rawSig.getD schnorrSignatureSize 0 ≠ 0 then
    S.parseSignature (rawSig.take schnorrSignatureSize) >>= fun sig =>
      .ok (pubKey,sig,rawSig.getD schnorrSignatureSize 0)
  else .error (scriptError .errInvalidTaprootSigLen "invalid sig len")

/-- `taprootSigVerifier`: the parsed key and signature with the bytes they came from. -/
structure TaprootSigVerifier where
  pubKey : PubKey
  pkBytes : Bytes
  sig : Signature
  fullSigBytes : Bytes
  hashType : UInt8
  annex : Option Bytes
  parsed : parseTaprootSigAndPubKey S pkBytes fullSigBytes = .ok (pubKey,sig,hashType)

def newTaprootSigVerifier (pkBytes fullSigBytes : Bytes) (annex : Option Bytes) :
    Except ScriptError (TaprootSigVerifier S) :=
  match h : parseTaprootSigAndPubKey S pkBytes fullSigBytes with
  | .ok (pubKey,sig,hashType) => .ok ⟨pubKey,pkBytes,sig,fullSigBytes,hashType,annex,h⟩
  | .error e => .error e

/-- `baseTapscriptSigVerifier`: a taproot verifier and the engine it checks for. -/
structure BaseTapscriptSigVerifier where
  base : TaprootSigVerifier S
  vm : Engine

/-- `none` is the Go panic on the nil `vm.taprootCtx` of a 32-byte key. -/
def newBaseTapscriptSigVerifier (pkBytes rawSig : Bytes) (vm : Engine) :
    Option (Except ScriptError (BaseTapscriptSigVerifier S)) :=
  if pkBytes.length = 0 then some (.error (scriptError .errTaprootPubkeyIsEmpty ""))
  else if pkBytes.length = 32 then
    vm.taprootCtx.map fun ctx => newTaprootSigVerifier S pkBytes rawSig ctx.annex >>= fun base => .ok ⟨base,vm⟩
  else some (.error (scriptError .errDiscourageUpgradeablePubKeyType "pubkey of length was used"))

namespace TaprootSigVerifier
variable {S} (t : TaprootSigVerifier S)

theorem parsedKey : S.parsePubKey t.pkBytes = .ok t.pubKey := by
  have h := t.parsed
  simp only [parseTaprootSigAndPubKey] at h
  obtain ⟨pk,hp,h⟩ := bindOk h
  suffices pk = t.pubKey by rw [← this]; exact hp
  split at h
  · obtain ⟨_,_,h⟩ := bindOk h
    exact (Prod.mk.inj (Except.ok.inj h)).1
  split at h
  · obtain ⟨_,_,h⟩ := bindOk h
    exact (Prod.mk.inj (Except.ok.inj h)).1
  · cases h

theorem parsedSig : S.parseSignature (t.fullSigBytes.take schnorrSignatureSize) = .ok t.sig := by
  have h := t.parsed
  simp only [parseTaprootSigAndPubKey] at h
  obtain ⟨_,-,h⟩ := bindOk h
  split at h
  · rename_i len
    obtain ⟨sig,hs,h⟩ := bindOk h
    rw [List.take_of_length_le (by omega),← (Prod.mk.inj (Prod.mk.inj (Except.ok.inj h)).2).1]
    exact hs
  split at h
  · obtain ⟨sig,hs,h⟩ := bindOk h
    rw [← (Prod.mk.inj (Prod.mk.inj (Except.ok.inj h)).2).1]
    exact hs
  · cases h

end TaprootSigVerifier

/-- btcd's `SigCache`: the signature and key bytes verified for a sighash. -/
structure SigCache where
  maxEntries : Nat
  validSigs : List (Bytes × Bytes × Bytes)

namespace SigCache

def «exists» (c : SigCache) (sigHash sig pubKey : Bytes) : Bool :=
  match c.validSigs.find? (·.1 = sigHash) with
  | some (_,s,pk) => pk = pubKey && s = sig
  | none => false

/-- `Add`: when full, one entry is evicted first (here the first of the list). -/
def add (c : SigCache) (sigHash sig pubKey : Bytes) : SigCache :=
  if c.maxEntries = 0 then c
  else
    let kept := if c.maxEntries < c.validSigs.length + 1 then c.validSigs.drop 1 else c.validSigs
    { c with validSigs := (sigHash,sig,pubKey) :: kept.filter (·.1 ≠ sigHash) }

theorem existsMem {c : SigCache} {sigHash sig pubKey : Bytes} (h : c.exists sigHash sig pubKey = true) :
    (sigHash,sig,pubKey) ∈ c.validSigs := by
  simp only [«exists»] at h
  split at h
  · rename_i s pk found
    simp only [Bool.and_eq_true,decide_eq_true_eq] at h
    obtain ⟨rfl,rfl⟩ := h
    have key := List.find?_some found
    simp only [decide_eq_true_eq] at key
    rw [← key]
    exact List.mem_of_find?_eq_some found
  · cases h

theorem addMem {c : SigCache} {sigHash sig pubKey : Bytes} {e : Bytes × Bytes × Bytes}
    (h : e ∈ (c.add sigHash sig pubKey).validSigs) : e = (sigHash,sig,pubKey) ∨ e ∈ c.validSigs := by
  simp only [add] at h
  split at h
  · exact .inr h
  rcases List.mem_cons.1 h with rfl | h
  · exact .inl rfl
  · refine .inr (List.mem_of_mem_filter h |> fun h => ?_)
    split at h
    · exact List.mem_of_mem_drop h
    · exact h

end SigCache

/-- `verifySig`: a cache hit answers true; otherwise `sig.Verify` decides. -/
def verifySig (t : TaprootSigVerifier S) (cache : Option SigCache) (sigHash : Bytes) : Bool × Option SigCache :=
  match cache with
  | some c =>
    if c.exists sigHash t.fullSigBytes t.pkBytes then (true,cache)
    else if S.verify t.sig sigHash t.pubKey then (true,some (c.add sigHash t.fullSigBytes t.pkBytes))
    else (false,cache)
  | none => (S.verify t.sig sigHash t.pubKey,none)

/-- btcd's `taprootSigHashOptions`. -/
structure TaprootSigHashOptions where
  extFlag : UInt8
  annexHash : Option Bytes
  tapLeafHash : Bytes
  keyVersion : UInt8
  codeSepPos : UInt32

def defaultTaprootSighashOptions : TaprootSigHashOptions := ⟨0,none,[],0,0⟩

/-- `WithBaseTapscriptVersion`: the BIP-342 extension, with key version 0. -/
def withBaseTapscriptVersion (codeSepPos : UInt32) (tapLeafHash : Bytes) (o : TaprootSigHashOptions) :
    TaprootSigHashOptions :=
  { o with extFlag := 1, tapLeafHash := tapLeafHash, keyVersion := 0, codeSepPos := codeSepPos }

/-- The fields of BIP-341's signature message that btcd writes from the transaction. -/
structure SigMsgParts where
  common : Bytes
  input : Bytes
  singleOutput : Bytes

/-- What the sighash reads besides the options. -/
structure SigHashInputs where
  parts : UInt8 → Option SigMsgParts
  annexHash : Bytes → Bytes
  tapSighash : Bytes → Bytes

/-- `WithAnnex`: the options carry the annex's hash. -/
def withAnnex (H : SigHashInputs) (annex : Bytes) (o : TaprootSigHashOptions) : TaprootSigHashOptions :=
  { o with annexHash := some (H.annexHash annex) }

def isValidTaprootSigHash (hType : UInt8) : Bool := hType ≤ 0x03 || (0x81 ≤ hType && hType ≤ 0x83)

/-- `writeDigestExtensions`. -/
def writeDigestExtensions (o : TaprootSigHashOptions) : Bytes :=
  if o.extFlag = 1 then o.tapLeafHash ++ [o.keyVersion] ++ leBytes 4 o.codeSepPos.toNat else []

/-- BIP-341's `spend_type`: `ext_flag * 2 + annex_present`. -/
def spendType (o : TaprootSigHashOptions) : UInt8 := o.extFlag * 2 + if o.annexHash.isSome then 1 else 0

/-- The bytes `calcTaprootSignatureHashRaw` hashes. -/
def sigMsg (H : SigHashInputs) (hType : UInt8) (o : TaprootSigHashOptions) : Option Bytes :=
  if !isValidTaprootSigHash hType then none
  else (H.parts hType).map fun p =>
    [0x00,hType] ++ p.common ++ [spendType o] ++ p.input ++ o.annexHash.getD [] ++ p.singleOutput ++
      writeDigestExtensions o

def calcTaprootSignatureHashRaw (H : SigHashInputs) (hType : UInt8) (o : TaprootSigHashOptions) : Option Bytes :=
  (sigMsg H hType o).map H.tapSighash

/-- `txscript.CalcTaprootSignatureHash`: the raw sighash with no option. -/
def calcTaprootSignatureHash (H : SigHashInputs) (hType : UInt8) : Option Bytes :=
  calcTaprootSignatureHashRaw H hType defaultTaprootSighashOptions

variable {S}

/-- The digest `taprootSigVerifier.Verify` hands to `verifySig`. -/
def TaprootSigVerifier.sigHash (H : SigHashInputs) (t : TaprootSigVerifier S) : Option Bytes :=
  calcTaprootSignatureHash H t.hashType

/-- `taprootSigVerifier.Verify`; a sighash failure is an invalid signature. -/
def TaprootSigVerifier.verify (H : SigHashInputs) (t : TaprootSigVerifier S) (cache : Option SigCache) :
    Bool × Option SigCache :=
  match t.sigHash H with
  | some sigHash => verifySig S t cache sigHash
  | none => (false,cache)

/-- The digest `baseTapscriptSigVerifier.Verify` hands to `verifySig`: the same call. -/
def BaseTapscriptSigVerifier.sigHash (H : SigHashInputs) (b : BaseTapscriptSigVerifier S) : Option Bytes :=
  calcTaprootSignatureHash H b.base.hashType

def BaseTapscriptSigVerifier.verify (H : SigHashInputs) (b : BaseTapscriptSigVerifier S) (cache : Option SigCache) :
    Bool × Option SigCache :=
  match b.sigHash H with
  | some sigHash => verifySig S b.base cache sigHash
  | none => (false,cache)

/-- The options BIP-342 asks of a tapscript check. -/
def tapscriptSigHashOptions (H : SigHashInputs) (ctx : TaprootExecutionCtx) : TaprootSigHashOptions :=
  let o := withBaseTapscriptVersion ctx.codeSepPos ctx.tapLeafHash.bytes defaultTaprootSighashOptions
  match ctx.annex with
  | some annex => withAnnex H annex o
  | none => o

/-- Sighash inputs whose two hashes are the identity. -/
def messageSigHash : SigHashInputs := ⟨fun _ => some ⟨[],[0,0,0,0],[]⟩,id,id⟩

def acceptAllSchnorr : Schnorr Bytes Bytes := ⟨.ok,.ok,fun _ _ _ => true⟩

def leafEngineWith (ctx : TaprootExecutionCtx) : Engine :=
  ⟨⟨[]⟩,0,none,[],2,0,Script.makeScriptTokenizer [],[],[],[],1,none,some ctx⟩

theorem tapscriptSigHashIgnoresLeaf : ∃ bA bB : BaseTapscriptSigVerifier acceptAllSchnorr,
    newBaseTapscriptSigVerifier acceptAllSchnorr (List.replicate 32 2) (List.replicate 64 3)
      (leafEngineWith { newTaprootExecutionCtx 0 with tapLeafHash := Hash32.zero }) = some (.ok bA) ∧
    newBaseTapscriptSigVerifier acceptAllSchnorr (List.replicate 32 2) (List.replicate 64 3)
      (leafEngineWith { newTaprootExecutionCtx 0 with tapLeafHash := ⟨List.replicate 32 1,rfl⟩ }) = some (.ok bB) ∧
    bA.sigHash messageSigHash = calcTaprootSignatureHash messageSigHash sigHashDefault ∧
    bB.sigHash messageSigHash = calcTaprootSignatureHash messageSigHash sigHashDefault ∧
    calcTaprootSignatureHashRaw messageSigHash sigHashDefault
        (tapscriptSigHashOptions messageSigHash { newTaprootExecutionCtx 0 with tapLeafHash := Hash32.zero }) ≠
      calcTaprootSignatureHashRaw messageSigHash sigHashDefault
        (tapscriptSigHashOptions messageSigHash { newTaprootExecutionCtx 0 with tapLeafHash := ⟨List.replicate 32 1,rfl⟩ }) :=
  ⟨_,_,rfl,rfl,rfl,rfl,by decide⟩

end Arkade.Sig
