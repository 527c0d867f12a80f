import Arkade.Sig.Verifier

/-! The signature cache shared by engines. A `verifySig` call runs in phases: the cache
lookup, the `sig.Verify` check, the insertion of the verified triple. The calls of any
number of engines, key-spend verifications among them (btcd's `VerifyTaprootKeySpend`
inserts through the same `verifySig`), interleave with one another and with evictions of
any entry. Every entry of the cache is then a triple BIP-340 verification accepts, so every
call returns what `sig.Verify` returns: the cache never changes an outcome. -/
namespace Arkade.Sig
open ScriptNum

variable {PubKey Signature : Type} {S : Schnorr PubKey Signature}

/-- A cache entry `(sigHash,sig,pubKey)` that BIP-340 verification accepts. -/
def Accepted (S : Schnorr PubKey Signature) (e : Bytes × Bytes × Bytes) : Prop :=
  ∃ pubKey sig, S.parsePubKey e.2.2 = .ok pubKey ∧ S.parseSignature (e.2.1.take schnorrSignatureSize) = .ok sig ∧
    S.verify sig e.1 pubKey = true

theorem verifiedAccepted (t : TaprootSigVerifier S) {sigHash : Bytes} (valid : S.verify t.sig sigHash t.pubKey = true) :
    Accepted S (sigHash,t.fullSigBytes,t.pkBytes) :=
  ⟨t.pubKey,t.sig,t.parsedKey,t.parsedSig,valid⟩

theorem hitVerifies {c : SigCache} (acc : ∀ e ∈ c.validSigs, Accepted S e) (t : TaprootSigVerifier S)
    {sigHash : Bytes} (hit : c.exists sigHash t.fullSigBytes t.pkBytes = true) :
    S.verify t.sig sigHash t.pubKey = true := by
  obtain ⟨pk,sig,hpk,hsig,valid⟩ := acc _ (SigCache.existsMem hit)
  obtain rfl : pk = t.pubKey := Except.ok.inj (hpk.symm.trans t.parsedKey)
  obtain rfl : sig = t.sig := Except.ok.inj (hsig.symm.trans t.parsedSig)
  exact valid

theorem addAccepted {c : SigCache} (acc : ∀ e ∈ c.validSigs, Accepted S e) {sigHash sig pubKey : Bytes}
    (new : Accepted S (sigHash,sig,pubKey)) : ∀ e ∈ (c.add sigHash sig pubKey).validSigs, Accepted S e := by
  intro e he
  rcases SigCache.addMem he with rfl | old
  · exact new
  · exact acc e old

theorem verifySigCached {c : SigCache} (acc : ∀ e ∈ c.validSigs, Accepted S e) (t : TaprootSigVerifier S)
    (sigHash : Bytes) :
    (verifySig S t (some c) sigHash).1 = S.verify t.sig sigHash t.pubKey ∧
      ∀ c', (verifySig S t (some c) sigHash).2 = some c' → ∀ e ∈ c'.validSigs, Accepted S e := by
  simp only [verifySig]
  split
  · rename_i hit
    exact ⟨(hitVerifies acc t hit).symm,fun c' h => by cases h; exact acc⟩
  split
  · rename_i valid
    exact ⟨valid.symm,fun c' h => by cases h; exact addAccepted acc (verifiedAccepted t valid)⟩
  · rename_i invalid
    exact ⟨by simp [invalid],fun c' h => by cases h; exact acc⟩

/-- Where a `verifySig` call is. -/
inductive Phase
  | lookup
  | check
  | insert
  | done (valid : Bool)
  deriving DecidableEq

/-- A `verifySig` call of some engine: its verifier, the sighash and its phase. -/
structure Call (S : Schnorr PubKey Signature) where
  verifier : TaprootSigVerifier S
  sigHash : Bytes
  phase : Phase

/-- The shared cache, and the calls of every engine, running or finished. -/
structure World (S : Schnorr PubKey Signature) where
  cache : SigCache
  calls : List (Call S)

/-- What can happen next: a call starts, a call takes its next phase, or an entry is evicted. -/
inductive Action (S : Schnorr PubKey Signature)
  | start (verifier : TaprootSigVerifier S) (sigHash : Bytes)
  | lookup (i : Nat)
  | check (i : Nat)
  | insert (i : Nat)
  | evict (e : Bytes × Bytes × Bytes)

namespace World

/-- Call `i`, if it is at phase `expected`, moves on as `f` says (the new cache and phase). -/
def advance (w : World S) (i : Nat) (expected : Phase) (f : Call S → SigCache × Phase) : World S :=
  match w.calls[i]? with
  | some call => if call.phase = expected then ⟨(f call).1,w.calls.set i { call with phase := (f call).2 }⟩ else w
  | none => w

def step (w : World S) : Action S → World S
  | .start t sigHash => { w with calls := w.calls ++ [⟨t,sigHash,.lookup⟩] }
  | .lookup i => w.advance i .lookup fun call =>
    (w.cache,if w.cache.exists call.sigHash call.verifier.fullSigBytes call.verifier.pkBytes then .done true else .check)
  | .check i => w.advance i .check fun call =>
    (w.cache,if S.verify call.verifier.sig call.sigHash call.verifier.pubKey then .insert else .done false)
  | .insert i => w.advance i .insert fun call =>
    (w.cache.add call.sigHash call.verifier.fullSigBytes call.verifier.pkBytes,.done true)
  | .evict e => { w with cache := { w.cache with validSigs := w.cache.validSigs.erase e } }

def run (w : World S) (actions : List (Action S)) : World S := actions.foldl step w

end World

/-- What a call can rely on at its insert and once it has finished. -/
structure Call.Sound (call : Call S) : Prop where
  inserting : call.phase = .insert → S.verify call.verifier.sig call.sigHash call.verifier.pubKey = true
  finished : ∀ valid, call.phase = .done valid → valid = S.verify call.verifier.sig call.sigHash call.verifier.pubKey

structure World.Sound (w : World S) : Prop where
  cache : ∀ e ∈ w.cache.validSigs, Accepted S e
  calls : ∀ call ∈ w.calls, call.Sound

namespace World
variable {w : World S}

theorem advanceSound (sound : w.Sound) (i : Nat) (expected : Phase) (f : Call S → SigCache × Phase)
    (next : ∀ call ∈ w.calls, call.phase = expected →
      (∀ e ∈ (f call).1.validSigs, Accepted S e) ∧ ({ call with phase := (f call).2 } : Call S).Sound) :
    (w.advance i expected f).Sound := by
  simp only [advance]
  split
  · rename_i call found
    split
    · rename_i at_
      obtain ⟨cache,moved⟩ := next call (List.getElem?_mem found) at_
      refine ⟨cache,fun c hc => ?_⟩
      rcases List.mem_or_eq_of_mem_set hc with old | rfl
      · exact sound.calls c old
      · exact moved
    · exact sound
  · exact sound

theorem stepSound (sound : w.Sound) (a : Action S) : (w.step a).Sound := by
  cases a with
  | start t sigHash =>
    refine ⟨sound.cache,fun call hc => ?_⟩
    rcases List.mem_append.1 hc with old | new
    · exact sound.calls call old
    · obtain rfl := List.mem_singleton.1 new
      exact ⟨fun h => (nomatch h),fun _ h => (nomatch h)⟩
  | lookup i =>
    refine advanceSound sound i _ _ fun call _ _ => ⟨sound.cache,fun h => ?_,fun v h => ?_⟩
    · split at h <;> cases h
    · split at h
      · cases h; exact (hitVerifies sound.cache call.verifier ‹_›).symm
      · cases h
  | check i =>
    refine advanceSound sound i _ _ fun call _ _ => ⟨sound.cache,fun h => ?_,fun v h => ?_⟩
    · split at h
      · assumption
      · cases h
    · split at h
      · cases h
      · cases h; simp_all
  | insert i =>
    refine advanceSound sound i _ _ fun call mem at_ => ?_
    have valid := (sound.calls call mem).inserting at_
    exact ⟨addAccepted sound.cache (verifiedAccepted call.verifier valid),fun h => (nomatch h),
      fun v h => by cases h; exact valid.symm⟩
  | evict e => exact ⟨fun e' he => sound.cache e' (List.mem_of_mem_erase he),sound.calls⟩

theorem runSound (sound : w.Sound) (actions : List (Action S)) : (w.run actions).Sound := by
  induction actions generalizing w with
  | nil => exact sound
  | cons a actions ih => exact ih (stepSound sound a)

theorem advanceAt {i : Nat} {call : Call S} (found : w.calls[i]? = some call) {expected : Phase}
    (at_ : call.phase = expected) (f : Call S → SigCache × Phase) :
    w.advance i expected f = ⟨(f call).1,w.calls.set i { call with phase := (f call).2 }⟩ := by
  simp [advance,found,at_]

theorem phasesComputeVerifySig {i : Nat} {call : Call S} (found : w.calls[i]? = some call)
    (at_ : call.phase = .lookup) :
    (w.run [.lookup i,.check i,.insert i]).calls[i]?.map (·.phase) =
        some (.done (verifySig S call.verifier (some w.cache) call.sigHash).1) ∧
      some (w.run [.lookup i,.check i,.insert i]).cache = (verifySig S call.verifier (some w.cache) call.sigHash).2 := by
  have len : i < w.calls.length := (List.getElem?_eq_some_iff.1 found).1
  simp only [run,List.foldl_cons,List.foldl_nil,step,advanceAt found at_]
  by_cases hit : w.cache.exists call.sigHash call.verifier.fullSigBytes call.verifier.pkBytes
  · simp [advance,hit,verifySig,List.getElem?_set_self len]
  · by_cases valid : S.verify call.verifier.sig call.sigHash call.verifier.pubKey <;>
      simp [advance,hit,valid,verifySig,List.getElem?_set_self len]

end World

theorem sharedSigCacheSound (c : SigCache) (sound : ∀ e ∈ c.validSigs, Accepted S e) (actions : List (Action S)) :
    (∀ e ∈ (World.run ⟨c,[]⟩ actions).cache.validSigs, Accepted S e) ∧
      (∀ call ∈ (World.run ⟨c,[]⟩ actions).calls, ∀ valid, call.phase = .done valid →
        valid = S.verify call.verifier.sig call.sigHash call.verifier.pubKey) ∧
      ∀ (t : TaprootSigVerifier S) (sigHash : Bytes),
        (verifySig S t (some (World.run ⟨c,[]⟩ actions).cache) sigHash).1 = S.verify t.sig sigHash t.pubKey := by
  have world := World.runSound (⟨sound,fun _ h => nomatch h⟩ : World.Sound ⟨c,[]⟩) actions
  exact ⟨world.cache,fun call hc => (world.calls call hc).finished,fun t sigHash => (verifySigCached world.cache t sigHash).1⟩

def sampleVerifier : TaprootSigVerifier acceptAllSchnorr :=
  ⟨List.replicate 32 2,List.replicate 32 2,List.replicate 64 3,List.replicate 64 3,sigHashDefault,none,rfl⟩

theorem sharedSigCacheSoundSample :
    (World.run ⟨⟨10,[]⟩,[]⟩ [.start sampleVerifier [7],.lookup 0,.check 0,.insert 0]).cache.validSigs.length = 1 ∧
      ∀ e ∈ (World.run ⟨⟨10,[]⟩,[]⟩ [.start sampleVerifier [7],.lookup 0,.check 0,.insert 0]).cache.validSigs,
        Accepted acceptAllSchnorr e :=
  ⟨rfl,(sharedSigCacheSound ⟨10,[]⟩ (fun _ h => nomatch h) _).1⟩

theorem phasesComputeVerifySigSample :
    (⟨⟨10,[]⟩,[⟨sampleVerifier,[7],.lookup⟩]⟩ : World acceptAllSchnorr).calls[0]? = some ⟨sampleVerifier,[7],.lookup⟩ ∧
    (World.run ⟨⟨10,[]⟩,[⟨sampleVerifier,[7],.lookup⟩]⟩ [.lookup 0,.check 0,.insert 0]).calls[0]?.map (·.phase) =
        some (.done (verifySig acceptAllSchnorr sampleVerifier (some ⟨10,[]⟩) [7]).1) ∧
      some (World.run ⟨⟨10,[]⟩,[⟨sampleVerifier,[7],.lookup⟩]⟩ [.lookup 0,.check 0,.insert 0]).cache =
        (verifySig acceptAllSchnorr sampleVerifier (some ⟨10,[]⟩) [7]).2 :=
  ⟨rfl,World.phasesComputeVerifySig rfl rfl⟩

end Arkade.Sig
