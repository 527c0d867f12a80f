import Arkade.Engine.State

/-! `NewEngine` and `verifyWitnessProgram`. The txscript taproot primitives the engine calls
(key-spend verification, control-block parsing, the leaf commitment and the leaf hash) are
a parameter bundle, `Taproot`; witness-program detection follows BIP 141 as txscript
implements it. `verifyWitnessProgram` is split at the point where it starts to touch the
engine: `witnessSpend` makes every check that reads only the program and the witness and
says which spend it is. -/
namespace Arkade
open ScriptNum Stack Script

structure ControlBlock where
  internalKey : Bytes
  outputKeyYIsOdd : Bool
  leafVersion : UInt8
  inclusionProof : Bytes

/-- txscript's taproot primitives, for the engine's fixed prevout fetcher and caches. -/
structure Taproot where
  verifyTaprootKeySpend : Bytes → Bytes → MsgTx → Nat → Except ScriptError Unit
  parseControlBlock : Bytes → Except ScriptError ControlBlock
  verifyTaprootLeafCommitment : ControlBlock → Bytes → Bytes → Except ScriptError Unit
  tapHash : Bytes → Hash32

def isAnnexedWitness (witness : List Bytes) : Bool :=
  2 ≤ witness.length &&
    match witness.getLast? with
    | some (b :: _) => b = taprootAnnexTag
    | _ => false

def extractAnnex (witness : List Bytes) : Except ScriptError Bytes :=
  match isAnnexedWitness witness, witness.getLast? with
  | true, some lastElement => .ok lastElement
  | _, _ => .error (scriptError .errWitnessHasNoAnnex "")

/-- The size of a Bitcoin varint. -/
def varIntSerializeSize (n : Nat) : Nat :=
  if n < 0xfd then 1 else if n ≤ 0xffff then 3 else if n ≤ 0xffffffff then 5 else 9

/-- `wire.TxWitness.SerializeSize`. -/
def witnessSerializeSize (witness : List Bytes) : Nat :=
  varIntSerializeSize witness.length + (witness.map fun e => varIntSerializeSize e.length + e.length).sum

/-- The two spends `verifyWitnessProgram` tells apart, with what it keeps of each. -/
inductive WitnessSpend
  | keySpend (annex : Option Bytes)
  | scriptPath (annex : Option Bytes) (witnessScript : Bytes) (tapLeafHash : Hash32) (stack : List Bytes)

/-- The annex (if any) and the witness without it. -/
def stripAnnex (witness : List Bytes) : Option Bytes × List Bytes :=
  if isAnnexedWitness witness then ((extractAnnex witness).toOption,witness.dropLast) else (none,witness)

/-- The checks of `verifyWitnessProgram` that read only the program and the witness. -/
def witnessSpend (T : Taproot) (tx : MsgTx) (txIdx : Nat) (program : Bytes) (witness : List Bytes) :
    Except ScriptError WitnessSpend :=
  if witness = [] then .error (scriptError .errWitnessProgramEmpty "witness program empty passed empty witness")
  else
    let annex := (stripAnnex witness).1
    match (stripAnnex witness).2.reverse with
    | [rawSig] => T.verifyTaprootKeySpend program rawSig tx txIdx >>= fun _ => .ok (.keySpend annex)
    | controlBlockBytes :: witnessScript :: stack =>
      T.parseControlBlock controlBlockBytes >>= fun controlBlock =>
      T.verifyTaprootLeafCommitment controlBlock program witnessScript >>= fun _ =>
      if controlBlock.leafVersion ≠ baseLeafVersion then
        .error (scriptError .errDiscourageUpgradeableTaprootVersion "tapscript is attempting to use version")
      else
        checkScriptParses witnessScript >>= fun _ =>
        .ok (.scriptPath annex witnessScript (T.tapHash witnessScript) stack.reverse)
    | [] => .error (scriptError .errWitnessProgramEmpty "witness program empty passed empty witness")

def unsupportedError : ScriptError := scriptError .errUnsupported "arkscript engine only supports taproot"

/-- What `verifyWitnessProgram` does to the engine once the spend is known. -/
def applyWitnessSpend (vm : Engine) (ctx : TaprootExecutionCtx) : WitnessSpend → Except ScriptError Engine
  | .keySpend annex => .ok { vm with taprootCtx := some { ctx with annex := annex, mustSucceed := true } }
  | .scriptPath annex witnessScript tapLeafHash stack =>
    let vm := { vm with
      taprootCtx := some { ctx with annex := annex, tapLeafHash := tapLeafHash },
      scripts := vm.scripts ++ [witnessScript], dstack := setStack stack }
    if maxStackSize < vm.dstack.length then
      .error (scriptError .errStackOverflow "tapscript stack size > max allowed")
    else if vm.dstack.any fun e => maxScriptElementSize < e.length then
      .error (scriptError .errElementTooBig "element size exceeds max allowed size")
    else .ok vm

def verifyWitnessProgram (T : Taproot) (vm : Engine) (witness : List Bytes) : Except ScriptError Engine :=
  match vm.witnessProgram with
  | none => .error unsupportedError
  | some program =>
    if vm.witnessVersion ≠ 1 ∨ program.length ≠ payToTaprootDataSize then .error unsupportedError
    else
      witnessSpend T vm.tx vm.txIdx program witness >>=
        applyWitnessSpend vm (newTaprootExecutionCtx (toInt32 (witnessSerializeSize witness)))

/-- txscript's `ExtractWitnessProgramInfo` (BIP 141). -/
def extractWitnessProgramInfo : Bytes → Option (Nat × Bytes)
  | v :: n :: program =>
    if (v = op0 ∨ op1 ≤ v ∧ v ≤ op16) ∧ 2 ≤ n.toNat ∧ n.toNat ≤ 40 ∧ program.length = n.toNat then
      some (if v = op0 then 0 else v.toNat - 0x50,program)
    else none
  | _ => none

def isWitnessProgram (script : Bytes) : Bool := (extractWitnessProgramInfo script).isSome

/-- The size and parse checks `NewEngine` makes on the signature script and the scriptPubKey. -/
def checkScript (scr : Bytes) : Except ScriptError Unit :=
  if maxScriptSize < scr.length then .error (scriptError .errScriptTooBig "script size is larger than max allowed size")
  else checkScriptParses scr

/-- The witness-program fields `NewEngine` extracts from the scriptPubKey, with its two checks. -/
def witnessProgramInfo (scriptSig scriptPubKey : Bytes) (witness : List Bytes) :
    Except ScriptError (Nat × Option Bytes) :=
  if isWitnessProgram scriptPubKey then
    if scriptSig ≠ [] then
      .error (scriptError .errWitnessMalleated "native witness program cannot also have a signature script")
    else match extractWitnessProgramInfo scriptPubKey with
      | some (v,program) => .ok (v,some program)
      | none => .error (scriptError .errMalformedPush "not a witness program")
  else if witness ≠ [] then .error (scriptError .errWitnessUnexpected "non-witness inputs cannot have a witness")
  else .ok (0,none)

def newEngine (scriptPubKey : Bytes) (tx : MsgTx) (txIdx : Int) : Except ScriptError Engine :=
  if txIdx < 0 ∨ tx.txIn.length ≤ txIdx then
    .error (scriptError .errInvalidIndex "transaction input index is negative or >= the number of inputs")
  else
    let txIn := tx.txInAt txIdx.toNat
    let scriptSig := txIn.signatureScript
    if scriptSig = [] ∧ scriptPubKey = [] then
      .error (scriptError .errEvalFalse "false stack entry at end of script execution")
    else if !isPushOnlyScript scriptSig then .error (scriptError .errNotPushOnly "signature script is not push only")
    else
      checkScript scriptSig >>= fun _ => checkScript scriptPubKey >>= fun _ =>
      let scriptIdx := if scriptSig = [] then 1 else 0
      witnessProgramInfo scriptSig scriptPubKey txIn.witness >>= fun (witnessVersion,witnessProgram) =>
      .ok ⟨tx,txIdx.toNat,none,[scriptSig,scriptPubKey],scriptIdx,0,
        makeScriptTokenizer ([scriptSig,scriptPubKey].getD scriptIdx []),[],[],[],witnessVersion,witnessProgram,none⟩

end Arkade
