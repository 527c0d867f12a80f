import Arkade.Engine.Spend

/-! What the asset packet can change in a run. `SetAssetPacket` sets a field that only the
asset opcodes read, and each of them first calls `checkAssetPacket`, which fails when no
packet is set. Step, the end-of-script block and `verifyWitnessProgram` carry the packet
along untouched. So a run that succeeds with no packet runs the same Steps, to the same
engine, under any packet. The handlers outside the model are assumed not to read the packet
(`PacketBlind`). -/
namespace Arkade
open ScriptNum Stack Script Asset

/-- A handler that does not read the asset packet. -/
def PacketBlind (other : Handler) : Prop :=
  ∀ op data vm pkt, other op data (Engine.setAssetPacket vm pkt) = other op data vm

namespace Engine

variable (vm : Engine) (pkt : Option AssetPacket)

@[simp] theorem setAssetPacketWitnessProgram : (vm.setAssetPacket pkt).witnessProgram = vm.witnessProgram := rfl
@[simp] theorem setAssetPacketWitnessVersion : (vm.setAssetPacket pkt).witnessVersion = vm.witnessVersion := rfl
@[simp] theorem setAssetPacketTx : (vm.setAssetPacket pkt).tx = vm.tx := rfl
@[simp] theorem setAssetPacketTxIdx : (vm.setAssetPacket pkt).txIdx = vm.txIdx := rfl
@[simp] theorem setAssetPacketScripts : (vm.setAssetPacket pkt).scripts = vm.scripts := rfl
@[simp] theorem setAssetPacketScriptIdx : (vm.setAssetPacket pkt).scriptIdx = vm.scriptIdx := rfl
@[simp] theorem setAssetPacketCondStack : (vm.setAssetPacket pkt).condStack = vm.condStack := rfl
@[simp] theorem setAssetPacketDstack : (vm.setAssetPacket pkt).dstack = vm.dstack := rfl
@[simp] theorem setAssetPacketAstack : (vm.setAssetPacket pkt).astack = vm.astack := rfl
@[simp] theorem setAssetPacketOpState : (vm.setAssetPacket pkt).opState = vm.opState := rfl
@[simp] theorem setAssetPacketBranch : (vm.setAssetPacket pkt).isBranchExecuting = vm.isBranchExecuting := rfl

theorem setAssetPacketSelf : vm.setAssetPacket vm.assetPacket = vm := rfl

@[simp] theorem setAssetPacketTwice (pkt' : Option AssetPacket) :
    (vm.setAssetPacket pkt).setAssetPacket pkt' = vm.setAssetPacket pkt' := rfl

theorem setAssetPacketTokenizer (tok : ScriptTokenizer) :
    ({ vm.setAssetPacket pkt with tokenizer := tok } : Engine) = Engine.setAssetPacket { vm with tokenizer := tok } pkt := rfl

end Engine

variable {other : Handler} {T : Taproot}

theorem assetOpcodeNoPacket {op : UInt8} {f : Option AssetPacket → Stack → Except ScriptError Stack}
    (hf : assetOpcode op = some f) (s : Stack) :
    f none s = .error (scriptError .errInvalidIndex "asset packet not set") := by
  have mem := assetOpcodeMem hf
  simp only [List.mem_cons,List.mem_nil_iff,or_false] at mem
  rcases mem with rfl|rfl|rfl|rfl|rfl|rfl|rfl|rfl|rfl|rfl|rfl|rfl|rfl|rfl|rfl|rfl|rfl|rfl <;> rfl

theorem applyWitnessSpendPacket (vm : Engine) (ctx : TaprootExecutionCtx) (spend : WitnessSpend) (pkt : Option AssetPacket) :
    applyWitnessSpend (vm.setAssetPacket pkt) ctx spend = (applyWitnessSpend vm ctx spend).map (·.setAssetPacket pkt) := by
  cases spend with
  | keySpend => rfl
  | scriptPath => simp only [applyWitnessSpend]; split_ifs <;> rfl

theorem verifyWitnessProgramPacket (vm : Engine) (w : List Bytes) (pkt : Option AssetPacket) :
    verifyWitnessProgram T (vm.setAssetPacket pkt) w = (verifyWitnessProgram T vm w).map (·.setAssetPacket pkt) := by
  simp only [verifyWitnessProgram,Engine.setAssetPacketWitnessProgram,Engine.setAssetPacketWitnessVersion,
    Engine.setAssetPacketTx,Engine.setAssetPacketTxIdx]
  split
  · rfl
  · split_ifs
    · rfl
    · cases witnessSpend T vm.tx vm.txIdx _ w with
      | error e => rfl
      | ok spend => exact applyWitnessSpendPacket vm _ spend pkt

theorem advanceScriptPacket (vm : Engine) (pkt : Option AssetPacket) :
    advanceScript T (vm.setAssetPacket pkt) = (advanceScript T vm).map (·.setAssetPacket pkt) := by
  simp only [advanceScript,Engine.setAssetPacketScriptIdx,Engine.setAssetPacketWitnessProgram]
  split_ifs
  · exact verifyWitnessProgramPacket { vm with scriptIdx := vm.scriptIdx + 1 } vm.witness pkt
  · rfl

theorem skipEmptyPacket (vm : Engine) (pkt : Option AssetPacket) :
    skipEmpty (vm.setAssetPacket pkt) = (skipEmpty vm).setAssetPacket pkt := by
  simp only [skipEmpty,Engine.setAssetPacketScriptIdx,Engine.setAssetPacketScripts]
  split_ifs <;> rfl

theorem scriptBoundaryPacket (vm : Engine) (pkt : Option AssetPacket) :
    scriptBoundary T (vm.setAssetPacket pkt) = (scriptBoundary T vm).map fun r => (r.1,r.2.setAssetPacket pkt) := by
  unfold scriptBoundary
  simp only [Engine.setAssetPacketCondStack]
  split_ifs
  · rfl
  · show (advanceScript T (Engine.setAssetPacket { vm with astack := [] } pkt) >>= _) = _
    rw [advanceScriptPacket]
    cases advanceScript T { vm with astack := [] } with
    | error e => rfl
    | ok vm1 =>
      simp only [Except.map,bind,Except.bind,skipEmptyPacket,Engine.setAssetPacketScripts,Engine.setAssetPacketScriptIdx]
      split_ifs <;> rfl

theorem afterOpcodePacket (vm : Engine) (tok : ScriptTokenizer) (st : OpState) (pkt : Option AssetPacket) :
    afterOpcode (vm.setAssetPacket pkt) tok st = (afterOpcode vm tok st).setAssetPacket pkt := rfl

theorem scriptBoundaryAssetPacket {vm vm' : Engine} {d : Bool} (h : scriptBoundary T vm = .ok (d,vm')) :
    vm'.assetPacket = vm.assetPacket := by
  have key := scriptBoundaryPacket (T := T) vm vm.assetPacket
  rw [Engine.setAssetPacketSelf,h] at key
  exact congrArg (·.assetPacket) (Prod.mk.inj (Except.ok.inj key)).2

theorem opfuncNoPacket (blind : PacketBlind other) {vm : Engine} (noPacket : vm.assetPacket = none) {op : UInt8}
    {data : Bytes} {st : OpState} (h : opfunc other op data vm = .ok st) (pkt : Option AssetPacket) :
    opfunc other op data (vm.setAssetPacket pkt) = .ok st := by
  unfold opfunc at h ⊢
  split_ifs at h ⊢
  · exact h
  · exact h
  · exact h
  cases ha : assetOpcode op with
  | none => rw [ha] at h; exact (blind op data vm pkt).trans h
  | some f =>
    rw [ha] at h
    dsimp only at h
    rw [noPacket,assetOpcodeNoPacket ha] at h
    cases h

theorem executeOpcodeNoPacket (blind : PacketBlind other) {vm : Engine} (noPacket : vm.assetPacket = none) {op : UInt8}
    {data : Bytes} {st : OpState} (h : executeOpcode other vm op data = .ok st) (pkt : Option AssetPacket) :
    executeOpcode other (vm.setAssetPacket pkt) op data = .ok st := by
  unfold executeOpcode at h ⊢
  rw [Engine.setAssetPacketBranch,Engine.setAssetPacketOpState]
  split_ifs at h ⊢
  · exact h
  · obtain ⟨_,hc,h⟩ := bindOk h
    rw [hc]
    exact opfuncNoPacket blind noPacket h pkt
  · obtain ⟨_,_,h⟩ := bindOk h
    exact opfuncNoPacket blind noPacket h pkt

theorem stepNoPacket (blind : PacketBlind other) {vm vm' : Engine} {d : Bool} (noPacket : vm.assetPacket = none)
    (h : step other T vm = .ok (d,vm')) (pkt : Option AssetPacket) :
    step other T (vm.setAssetPacket pkt) = .ok (d,vm'.setAssetPacket pkt) ∧ vm'.assetPacket = none := by
  obtain ⟨idx,tok,st,hn,hx,size,rest⟩ := stepOk h
  have hx' : executeOpcode other { vm.setAssetPacket pkt with tokenizer := tok } tok.op tok.data = .ok st := by
    have := executeOpcodeNoPacket blind (show ({ vm with tokenizer := tok } : Engine).assetPacket = none from noPacket) hx pkt
    rw [← Engine.setAssetPacketTokenizer] at this
    exact this
  have size' := size
  rw [← Engine.setAssetPacketDstack _ pkt,← Engine.setAssetPacketAstack _ pkt,← afterOpcodePacket] at size'
  rw [@stepEq other T (vm.setAssetPacket pkt) tok st idx hn hx' size',afterOpcodePacket]
  split at rest
  · rw [if_pos ‹_›]
    have key := scriptBoundaryPacket (T := T) (afterOpcode vm tok st) pkt
    rw [rest] at key
    exact ⟨key,(scriptBoundaryAssetPacket rest).trans noPacket⟩
  · rw [if_neg ‹_›]
    obtain ⟨rfl,rfl⟩ := rest
    exact ⟨rfl,noPacket⟩

theorem runNoPacket (blind : PacketBlind other) {n : Nat} {vm vm' : Engine} (noPacket : vm.assetPacket = none)
    (h : run other T n vm = some (.ok vm')) (pkt : Option AssetPacket) :
    run other T n (vm.setAssetPacket pkt) = some (.ok (vm'.setAssetPacket pkt)) := by
  induction n generalizing vm with
  | zero => cases h
  | succ n ih =>
    simp only [run] at h ⊢
    cases hs : step other T vm with
    | error e => rw [hs] at h; cases h
    | ok r =>
      obtain ⟨d,vm1⟩ := r
      obtain ⟨hs',none1⟩ := stepNoPacket blind noPacket hs pkt
      rw [hs] at h
      rw [hs']
      cases d
      · exact ih none1 h
      · cases h; rfl

theorem executeIgnoresUnusedPacket (blind : PacketBlind other) (vm : Engine) (n : Nat) (pkt : Option AssetPacket)
    (h : execute other T n (vm.setAssetPacket none) = some (.ok ())) :
    execute other T n (vm.setAssetPacket pkt) = some (.ok ()) := by
  obtain ⟨r,hr,ok⟩ := Option.map_eq_some'.1 h
  obtain ⟨vm',rfl,final⟩ := bindOk ok
  have run := runNoPacket blind rfl hr pkt
  rw [Engine.setAssetPacketTwice] at run
  simp only [execute,run,Option.map_some']
  exact congrArg some final

theorem leafAcceptedUnderPacket : PacketBlind nopHandler ∧ ∃ e, newEngine sampleProgramSpk (leafSpendTx [op1]) 0 = .ok e ∧
    execute nopHandler acceptAllTaproot 3 (e.setAssetPacket none) = some (.ok ()) ∧
    execute nopHandler acceptAllTaproot 3 (e.setAssetPacket (some wrapPacket)) = some (.ok ()) :=
  have blind : PacketBlind nopHandler := fun _ _ _ _ => rfl
  ⟨blind,_,rfl,rfl,executeIgnoresUnusedPacket blind _ 3 (some wrapPacket) rfl⟩

end Arkade
