import Arkade.Stack

/-! The asset packet (`AssetID` .. `AssetPacket` of part_002) and the asset opcodes of
asset_opcodes.go, each a function of the packet and the data stack that returns the
new stack or the error. The Go maps `InputAssets`/`OutputAssets` are total lookups: an
absent key reads as the empty slice. The two entry types have the same fields and share
one structure. Go conversions of a popped script number are `toUint16`/`toUint32`. -/
namespace Arkade.Asset
open ScriptNum Stack

def assetInputTypeLocal : UInt8 := 0x01
def assetInputTypeIntent : UInt8 := 0x02
def assetOutputTypeLocal : UInt8 := 0x01
def assetOutputTypeIntent : UInt8 := 0x02

structure AssetID where
  txid : Hash32
  gidx : UInt16
  deriving DecidableEq

structure AssetInput where
  type : UInt8
  inputIndex : UInt32
  txid : Hash32
  outputIndex : UInt32
  amount : UInt64
  deriving DecidableEq

structure AssetOutput where
  type : UInt8
  outputIndex : UInt32
  amount : UInt64
  deriving DecidableEq

structure AssetGroup where
  assetID : AssetID
  control : Option AssetID
  metadataHash : Hash32
  inputs : List AssetInput
  outputs : List AssetOutput
  deriving DecidableEq

/-- `InputAssetEntry` and `OutputAssetEntry`. -/
structure AssetEntry where
  assetID : AssetID
  amount : UInt64
  deriving DecidableEq

structure AssetPacket where
  groups : List AssetGroup
  inputAssets : UInt32 → List AssetEntry
  outputAssets : UInt32 → List AssetEntry

/-- Go's `uint16(n)` of a script number. -/
def toUint16 (n : Int) : UInt16 := UInt16.ofNat (n % 2 ^ 16).toNat

/-- Go's `uint32(n)` of a script number. -/
def toUint32 (n : Int) : UInt32 := UInt32.ofNat (n % 2 ^ 32).toNat

def checkAssetPacket : Option AssetPacket → Except ScriptError AssetPacket
  | none => .error (scriptError .errInvalidIndex "asset packet not set")
  | some p => .ok p

/-- The bounds check `i < 0 || i >= len(xs)` and the read `xs[i]` of every index opcode. -/
def checkedIndex {α : Type} (xs : List α) (i : Int) (desc : String) : Except ScriptError α :=
  if h : 0 ≤ i ∧ i < xs.length then .ok xs[i.toNat] else .error (scriptError .errInvalidIndex desc)

def checkGroupIndex (p : AssetPacket) (k : Int) : Except ScriptError AssetGroup :=
  checkedIndex p.groups k "asset group index out of range"

def pushAssetID (s : Stack) (id : AssetID) : Stack :=
  pushInt (pushByteArray s id.txid.bytes) id.gidx.toNat

def pushLE64 (s : Stack) (v : UInt64) : Stack := pushByteArray s (putUint64LE v)

def popAssetID (s : Stack) : Except ScriptError (AssetID × Stack) := do
  let (gidx,s) ← popInt s
  let (txidBytes,s) ← popByteArray s
  if h : txidBytes.length = 32 then pure (⟨⟨txidBytes,h⟩,toUint16 gidx⟩,s)
  else throw (scriptError .errInvalidStackOperation "asset ID txid must be 32 bytes")

/-- The field comparison `Txid == id.Txid && Gidx == id.Gidx` of the lookup loops. -/
def sameAssetID (a b : AssetID) : Bool := a.txid = b.txid ∧ a.gidx = b.gidx

def opcodeInspectNumAssetGroups (pkt : Option AssetPacket) (s : Stack) : Except ScriptError Stack := do
  let p ← checkAssetPacket pkt
  pure (pushInt s p.groups.length)

def opcodeInspectAssetGroupAssetID (pkt : Option AssetPacket) (s : Stack) : Except ScriptError Stack := do
  let p ← checkAssetPacket pkt
  let (k,s) ← popInt s
  let group ← checkGroupIndex p k
  pure (pushAssetID s group.assetID)

def opcodeInspectAssetGroupCtrl (pkt : Option AssetPacket) (s : Stack) : Except ScriptError Stack := do
  let p ← checkAssetPacket pkt
  let (k,s) ← popInt s
  let group ← checkGroupIndex p k
  match group.control with
  | none => pure (pushInt s (-1))
  | some ctrl => pure (pushAssetID s ctrl)

/-- The `for i, g := range Groups` loop of OP_FINDASSETGROUPBYASSETID, from index `i` on. -/
def findAssetGroup (id : AssetID) : Nat → List AssetGroup → Option Nat
  | _, [] => none
  | i, g :: gs => if sameAssetID g.assetID id then some i else findAssetGroup id (i+1) gs

def opcodeFindAssetGroupByAssetID (pkt : Option AssetPacket) (s : Stack) : Except ScriptError Stack := do
  let p ← checkAssetPacket pkt
  let (id,s) ← popAssetID s
  match findAssetGroup id 0 p.groups with
  | some i => pure (pushInt s i)
  | none => pure (pushInt s (-1))

def opcodeInspectAssetGroupMetadataHash (pkt : Option AssetPacket) (s : Stack) : Except ScriptError Stack := do
  let p ← checkAssetPacket pkt
  let (k,s) ← popInt s
  let group ← checkGroupIndex p k
  pure (pushByteArray s group.metadataHash.bytes)

def opcodeInspectAssetGroupNum (pkt : Option AssetPacket) (s : Stack) : Except ScriptError Stack := do
  let p ← checkAssetPacket pkt
  let (source,s) ← popInt s
  let (k,s) ← popInt s
  let group ← checkGroupIndex p k
  match source with
  | 0 => pure (pushInt s group.inputs.length)
  | 1 => pure (pushInt s group.outputs.length)
  | 2 => pure (pushInt (pushInt s group.inputs.length) group.outputs.length)
  | _ => throw (scriptError .errInvalidIndex "invalid source for OP_INSPECTASSETGROUPNUM")

def opcodeInspectAssetGroup (pkt : Option AssetPacket) (s : Stack) : Except ScriptError Stack := do
  let p ← checkAssetPacket pkt
  let (source,s) ← popInt s
  let (j,s) ← popInt s
  let (k,s) ← popInt s
  let group ← checkGroupIndex p k
  match source with
  | 0 =>
    let inp ← checkedIndex group.inputs j "asset group input index out of range"
    let s := pushInt s inp.type.toNat
    let s := if inp.type = assetInputTypeLocal then pushInt s inp.inputIndex.toNat
      else pushInt (pushByteArray s inp.txid.bytes) inp.outputIndex.toNat
    pure (pushLE64 s inp.amount)
  | 1 =>
    let out ← checkedIndex group.outputs j "asset group output index out of range"
    pure (pushLE64 (pushInt (pushInt s out.type.toNat) out.outputIndex.toNat) out.amount)
  | _ => throw (scriptError .errInvalidIndex "invalid source for OP_INSPECTASSETGROUP")

/-- The `sum += x.Amount` loops: uint64 addition, which wraps. -/
def sumAmounts {α : Type} (amount : α → UInt64) (xs : List α) : UInt64 :=
  xs.foldl (fun sum x => sum + amount x) 0

def opcodeInspectAssetGroupSum (pkt : Option AssetPacket) (s : Stack) : Except ScriptError Stack := do
  let p ← checkAssetPacket pkt
  let (source,s) ← popInt s
  let (k,s) ← popInt s
  let group ← checkGroupIndex p k
  let inSum := sumAmounts AssetInput.amount group.inputs
  let outSum := sumAmounts AssetOutput.amount group.outputs
  match source with
  | 0 => pure (pushLE64 s inSum)
  | 1 => pure (pushLE64 s outSum)
  | 2 => pure (pushLE64 (pushLE64 s inSum) outSum)
  | _ => throw (scriptError .errInvalidIndex "invalid source for OP_INSPECTASSETGROUPSUM")

/-- OP_INSPECTOUTASSETCOUNT and OP_INSPECTINASSETCOUNT over one of the two maps. -/
def inspectAssetCount (entries : UInt32 → List AssetEntry) (s : Stack) : Except ScriptError Stack := do
  let (o,s) ← popInt s
  pure (pushInt s (entries (toUint32 o)).length)

/-- OP_INSPECTOUTASSETAT and OP_INSPECTINASSETAT over one of the two maps. -/
def inspectAssetAt (entries : UInt32 → List AssetEntry) (desc : String) (s : Stack) :
    Except ScriptError Stack := do
  let (t,s) ← popInt s
  let (o,s) ← popInt s
  let entry ← checkedIndex (entries (toUint32 o)) t desc
  pure (pushLE64 (pushAssetID s entry.assetID) entry.amount)

/-- OP_INSPECTOUTASSETLOOKUP and OP_INSPECTINASSETLOOKUP over one of the two maps. -/
def inspectAssetLookup (entries : UInt32 → List AssetEntry) (s : Stack) : Except ScriptError Stack := do
  let (id,s) ← popAssetID s
  let (o,s) ← popInt s
  match (entries (toUint32 o)).find? (fun entry => sameAssetID entry.assetID id) with
  | some entry => pure (pushLE64 s entry.amount)
  | none => pure (pushInt s (-1))

def opcodeInspectOutAssetCount (pkt : Option AssetPacket) (s : Stack) : Except ScriptError Stack := do
  let p ← checkAssetPacket pkt
  inspectAssetCount p.outputAssets s

def opcodeInspectOutAssetAt (pkt : Option AssetPacket) (s : Stack) : Except ScriptError Stack := do
  let p ← checkAssetPacket pkt
  inspectAssetAt p.outputAssets "output asset index out of range" s

def opcodeInspectOutAssetLookup (pkt : Option AssetPacket) (s : Stack) : Except ScriptError Stack := do
  let p ← checkAssetPacket pkt
  inspectAssetLookup p.outputAssets s

def opcodeInspectInAssetCount (pkt : Option AssetPacket) (s : Stack) : Except ScriptError Stack := do
  let p ← checkAssetPacket pkt
  inspectAssetCount p.inputAssets s

def opcodeInspectInAssetAt (pkt : Option AssetPacket) (s : Stack) : Except ScriptError Stack := do
  let p ← checkAssetPacket pkt
  inspectAssetAt p.inputAssets "input asset index out of range" s

def opcodeInspectInAssetLookup (pkt : Option AssetPacket) (s : Stack) : Except ScriptError Stack := do
  let p ← checkAssetPacket pkt
  inspectAssetLookup p.inputAssets s

/-- The `count++` loops over entries of type Intent. -/
def countIntent {α : Type} (type : α → UInt8) (intent : UInt8) (xs : List α) : Nat :=
  xs.foldl (fun count x => if type x = intent then count + 1 else count) 0

/-- The `idx == int(j)` loops: the entry found at Intent rank `j`, counting from `idx`. -/
def nthIntent {α : Type} (type : α → UInt8) (intent : UInt8) (j : Int) : Nat → List α → Option α
  | _, [] => none
  | idx, x :: xs =>
    if type x = intent then (if idx = j then some x else nthIntent type intent j (idx+1) xs)
    else nthIntent type intent j idx xs

/-- OP_INSPECTGROUPINTENTOUTCOUNT and OP_INSPECTGROUPINTENTINCOUNT over one of the two lists. -/
def inspectGroupIntentCount {α : Type} (entries : AssetGroup → List α) (type : α → UInt8) (intent : UInt8)
    (pkt : Option AssetPacket) (s : Stack) : Except ScriptError Stack := do
  let p ← checkAssetPacket pkt
  let (k,s) ← popInt s
  let group ← checkGroupIndex p k
  pure (pushInt s (countIntent type intent (entries group)))

/-- OP_INSPECTGROUPINTENTOUT and OP_INSPECTGROUPINTENTIN over one of the two lists. -/
def inspectGroupIntent {α : Type} (entries : AssetGroup → List α) (type : α → UInt8) (intent : UInt8)
    (push : Stack → α → Stack) (desc : String) (pkt : Option AssetPacket) (s : Stack) :
    Except ScriptError Stack := do
  let p ← checkAssetPacket pkt
  let (j,s) ← popInt s
  let (k,s) ← popInt s
  let group ← checkGroupIndex p k
  match nthIntent type intent j 0 (entries group) with
  | some x => pure (push s x)
  | none => throw (scriptError .errInvalidIndex desc)

def opcodeInspectGroupIntentOutCount : Option AssetPacket → Stack → Except ScriptError Stack :=
  inspectGroupIntentCount AssetGroup.outputs AssetOutput.type assetOutputTypeIntent

def opcodeInspectGroupIntentOut : Option AssetPacket → Stack → Except ScriptError Stack :=
  inspectGroupIntent AssetGroup.outputs AssetOutput.type assetOutputTypeIntent
    (fun s out => pushLE64 (pushInt s out.outputIndex.toNat) out.amount) "intent output index out of range"

def opcodeInspectGroupIntentInCount : Option AssetPacket → Stack → Except ScriptError Stack :=
  inspectGroupIntentCount AssetGroup.inputs AssetInput.type assetInputTypeIntent

def opcodeInspectGroupIntentIn : Option AssetPacket → Stack → Except ScriptError Stack :=
  inspectGroupIntent AssetGroup.inputs AssetInput.type assetInputTypeIntent
    (fun s inp => pushLE64 (pushInt (pushByteArray s inp.txid.bytes) inp.outputIndex.toNat) inp.amount)
    "intent input index out of range"

end Arkade.Asset
