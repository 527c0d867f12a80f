import Arkade.Asset.Opcodes
import Arkade.Script.Tokenizer

/-! The engine's state (`Engine`, `taprootExecutionCtx` of part_002) and `executeOpcode`.
The opcode table (opcode.go) is not under src/: the push opcodes and the numbering of the
asset opcodes are modelled from the spec, and every other handler is the parameter
`other`. A handler reads the whole engine and returns only what an opcode may change
(`OpState`): the stacks, the conditional stack, the code-separator position and the
sig-ops budget, never the scripts, the script index, the tokenizer or `mustSucceed`.
Error descriptions keep the words of the Go format strings; the values they format
(opcode names, sizes) are left out. -/
namespace Arkade
open ScriptNum Stack Script Asset

def maxStackSize : Nat := 1000
def maxScriptElementSize : Nat := 520
def maxScriptSize : Nat := 10000
def payToTaprootDataSize : Nat := 32
def blankCodeSepValue : UInt32 := 0xffffffff
def sigOpsDelta : Int := 50
def baseLeafVersion : UInt8 := 0xc0
def taprootAnnexTag : UInt8 := 0x50

def opCondTrue : Int := 1

def opIf : UInt8 := 0x63
def opNotIf : UInt8 := 0x64
def opVerIf : UInt8 := 0x65
def opVerNotIf : UInt8 := 0x66
def opElse : UInt8 := 0x67
def opEndIf : UInt8 := 0x68

/-- Go's `int32(n)`. -/
def toInt32 (n : Int) : Int := (n + 2 ^ 31) % 2 ^ 32 - 2 ^ 31

/-- The fields of `wire.TxIn` the engine reads. -/
structure TxIn where
  signatureScript : Bytes
  witness : List Bytes
  deriving DecidableEq

/-- `wire.MsgTx`, with the inputs' fields the engine reads. -/
structure MsgTx where
  txIn : List TxIn
  deriving DecidableEq

def MsgTx.txInAt (tx : MsgTx) (i : Nat) : TxIn := tx.txIn.getD i ⟨[],[]⟩

structure TaprootExecutionCtx where
  annex : Option Bytes
  codeSepPos : UInt32
  tapLeafHash : Hash32
  sigOpsBudget : Int
  mustSucceed : Bool
  deriving DecidableEq

def newTaprootExecutionCtx (inputWitnessSize : Int) : TaprootExecutionCtx :=
  ⟨none,blankCodeSepValue,Hash32.zero,toInt32 (sigOpsDelta + inputWitnessSize),false⟩

/-- The engine; `condStack` is kept top first. -/
structure Engine where
  tx : MsgTx
  txIdx : Nat
  assetPacket : Option AssetPacket
  scripts : List Bytes
  scriptIdx : Nat
  lastCodeSep : Nat
  tokenizer : ScriptTokenizer
  dstack : Stack
  astack : Stack
  condStack : List Int
  witnessVersion : Nat
  witnessProgram : Option Bytes
  taprootCtx : Option TaprootExecutionCtx

/-- What an opcode handler may change. -/
structure OpState where
  dstack : Stack
  astack : Stack
  condStack : List Int
  lastCodeSep : Nat
  codeSepPos : UInt32
  sigOpsBudget : Int

/-- An opcode handler (`op.opfunc`): the opcode, its data and the engine it reads. -/
abbrev Handler := UInt8 → Bytes → Engine → Except ScriptError OpState

namespace Engine

def opState (vm : Engine) : OpState :=
  ⟨vm.dstack,vm.astack,vm.condStack,vm.lastCodeSep,(vm.taprootCtx.map (·.codeSepPos)).getD blankCodeSepValue,
    (vm.taprootCtx.map (·.sigOpsBudget)).getD 0⟩

def applyOpState (vm : Engine) (st : OpState) : Engine :=
  { vm with
    dstack := st.dstack, astack := st.astack, condStack := st.condStack, lastCodeSep := st.lastCodeSep,
    taprootCtx := vm.taprootCtx.map fun c => { c with codeSepPos := st.codeSepPos, sigOpsBudget := st.sigOpsBudget } }

def setAssetPacket (vm : Engine) (packet : Option AssetPacket) : Engine := { vm with assetPacket := packet }

def isBranchExecuting (vm : Engine) : Bool :=
  match vm.condStack with
  | [] => true
  | c :: _ => c = opCondTrue

/-- The input's witness, `vm.tx.TxIn[vm.txIdx].Witness`. -/
def witness (vm : Engine) : List Bytes := (vm.tx.txInAt vm.txIdx).witness

end Engine

def isOpcodeAlwaysIllegal (op : UInt8) : Bool := op = opVerIf || op = opVerNotIf

def isOpcodeConditional (op : UInt8) : Bool := op = opIf || op = opNotIf || op = opElse || op = opEndIf

def checkMinimalDataPush (op : UInt8) (data : Bytes) : Except ScriptError Unit :=
  let dataLen := data.length
  if dataLen = 0 ∧ op ≠ op0 then
    .error (scriptError .errMinimalData "zero length data push is encoded with opcode instead of OP_0")
  else if dataLen = 1 ∧ 1 ≤ data.headD 0 ∧ data.headD 0 ≤ 16 then
    if op ≠ op1 + data.headD 0 - 1 then
      .error (scriptError .errMinimalData "data push of the value encoded with opcode instead of OP_n")
    else .ok ()
  else if dataLen = 1 ∧ data.headD 0 = 0x81 then
    if op ≠ op1Negate then
      .error (scriptError .errMinimalData "data push of the value -1 encoded with opcode instead of OP_1NEGATE")
    else .ok ()
  else if dataLen ≤ 75 then
    if op.toNat ≠ dataLen then
      .error (scriptError .errMinimalData "data push of bytes encoded with opcode instead of OP_DATA_n")
    else .ok ()
  else if dataLen ≤ 255 then
    if op ≠ opPushData1 then
      .error (scriptError .errMinimalData "data push of bytes encoded with opcode instead of OP_PUSHDATA1")
    else .ok ()
  else if dataLen ≤ 65535 then
    if op ≠ opPushData2 then
      .error (scriptError .errMinimalData "data push of bytes encoded with opcode instead of OP_PUSHDATA2")
    else .ok ()
  else .ok ()

/-- Modelled from the spec (§6.3): the asset opcodes occupy 0xe5.. in the order of §4.9. -/
def assetOpcode (op : UInt8) : Option (Option AssetPacket → Stack → Except ScriptError Stack) :=
  [opcodeInspectNumAssetGroups,opcodeInspectAssetGroupAssetID,opcodeInspectAssetGroupCtrl,
    opcodeFindAssetGroupByAssetID,opcodeInspectAssetGroupMetadataHash,opcodeInspectAssetGroupNum,
    opcodeInspectAssetGroup,opcodeInspectAssetGroupSum,opcodeInspectOutAssetCount,opcodeInspectOutAssetAt,
    opcodeInspectOutAssetLookup,opcodeInspectInAssetCount,opcodeInspectInAssetAt,opcodeInspectInAssetLookup,
    opcodeInspectGroupIntentOutCount,opcodeInspectGroupIntentOut,opcodeInspectGroupIntentInCount,
    opcodeInspectGroupIntentIn][op.toNat - 0xe5]?.filter fun _ => 0xe5 ≤ op.toNat

/-- Modelled from the spec: the handlers of the push and asset opcodes, `other` for the rest. -/
def opfunc (other : Handler) (op : UInt8) (data : Bytes) (vm : Engine) : Except ScriptError OpState :=
  if op ≤ opPushData4 then .ok { vm.opState with dstack := pushByteArray vm.dstack data }
  else if op = op1Negate then .ok { vm.opState with dstack := pushInt vm.dstack (-1) }
  else if op1 ≤ op ∧ op ≤ op16 then .ok { vm.opState with dstack := pushInt vm.dstack (op.toNat - 0x50) }
  else match assetOpcode op with
    | some f => (fun s => { vm.opState with dstack := s }) <$> f vm.assetPacket vm.dstack
    | none => other op data vm

def executeOpcode (other : Handler) (vm : Engine) (op : UInt8) (data : Bytes) : Except ScriptError OpState :=
  if isOpcodeAlwaysIllegal op then .error (scriptError .errReservedOpcode "attempt to execute reserved opcode")
  else if maxScriptElementSize < data.length then
    .error (scriptError .errElementTooBig "element size exceeds max allowed size")
  else if !vm.isBranchExecuting && !isOpcodeConditional op then .ok vm.opState
  else
    (if vm.isBranchExecuting && op ≤ opPushData4 then checkMinimalDataPush op data else .ok ()) >>= fun _ =>
    opfunc other op data vm

def checkErrorCondition (vm : Engine) (finalScript : Bool) : Except ScriptError Unit :=
  if (vm.taprootCtx.map (·.mustSucceed)).getD false then .ok ()
  else if vm.scriptIdx < vm.scripts.length then
    .error (scriptError .errScriptUnfinished "error check when script unfinished")
  else if finalScript ∧ vm.dstack.length ≠ 1 then
    .error (scriptError .errCleanStack "stack must contain exactly one item")
  else if vm.dstack.length < 1 then
    .error (scriptError .errEmptyStack "stack empty at end of script execution")
  else
    popBool vm.dstack >>= fun (v,_) =>
    if !v then .error (scriptError .errEvalFalse "false stack entry at end of script execution") else .ok ()

end Arkade
