import Arkade.Engine.Push
import Arkade.Engine.Spend

/-! An input whose scriptPubKey is not a witness program. NewEngine accepts it when the
witness is empty, and no Step of its run calls `verifyWitnessProgram`: Step's switch only
does so for an engine with a witness program. Execute then runs the signature script and
the scriptPubKey as btcd runs a pre-segwit input, with no taproot context, without
consulting the taproot primitives, and with the clean-stack rule as its final check.

Only such an input runs a signature script, NewEngine rejecting one beside a witness
program. NewEngine also requires it to be push only, every opcode at most OP_16, and each
Step of it then pushes one element and changes nothing else: when it ends, the data stack
holds the elements it stands for (`PushesOf`), last on top. The one opcode at most OP_16
that pushes nothing is OP_RESERVED, which btcd's handler rejects (`ReservedFails`). -/
namespace Arkade
open ScriptNum Stack Script

variable {other : Handler} {T : Taproot}

theorem advanceScriptNoProgram {vm : Engine} (wp : vm.witnessProgram = none) :
    advanceScript T vm = .ok { vm with scriptIdx := vm.scriptIdx + 1 } := by
  simp [advanceScript,wp]

theorem stepDone {vm vm' : Engine} (h : step other T vm = .ok (true,vm')) : vm'.scripts.length ≤ vm'.scriptIdx := by
  obtain ⟨-,tok,st,-,-,-,hb⟩ := stepOk h
  split at hb
  · obtain ⟨-,vm1,-,hb⟩ := scriptBoundaryOk hb
    split at hb
    next fin => obtain ⟨-,rfl⟩ := hb; simpa using fin
    next => cases hb.1
  · cases hb.1

section NoProgram
variable {vm : Engine} (wp : vm.witnessProgram = none)
include wp

theorem stepTaprootFree (T' : Taproot) : step other T vm = step other T' vm := by
  simp [step,scriptBoundary,advanceScript,Engine.applyOpState,wp]

theorem stepNoProgram {d : Bool} {vm' : Engine} (h : step other T vm = .ok (d,vm')) :
    vm'.witnessProgram = none ∧ (vm.taprootCtx = none → vm'.taprootCtx = none) := by
  obtain ⟨-,tok,st,-,-,-,hb⟩ := stepOk h
  have after : vm.taprootCtx = none → (afterOpcode vm tok st).taprootCtx = none := fun ctx => by
    simp [afterOpcode,Engine.applyOpState,ctx]
  split at hb
  · obtain ⟨-,vm1,adv,hb⟩ := scriptBoundaryOk hb
    rw [advanceScriptNoProgram (show ({ afterOpcode vm tok st with astack := [] } : Engine).witnessProgram = none from wp)]
      at adv
    cases adv
    split at hb <;> obtain ⟨rfl,rfl⟩ := hb <;> exact ⟨by simpa using wp,fun ctx => by simpa using after ctx⟩
  · obtain ⟨rfl,rfl⟩ := hb
    exact ⟨wp,after⟩

theorem runTaprootFree (T' : Taproot) (n : Nat) : run other T n vm = run other T' n vm := by
  induction n generalizing vm with
  | zero => rfl
  | succ n ih =>
    simp only [run]
    rw [stepTaprootFree wp T']
    rcases hs : step other T' vm with err | ⟨_ | _,vm'⟩
    · rfl
    · exact ih (stepNoProgram wp hs).1
    · rfl

theorem runNoProgram {n : Nat} {vm' : Engine} (ctx : vm.taprootCtx = none) (h : run other T n vm = some (.ok vm')) :
    vm'.taprootCtx = none ∧ vm'.scripts.length ≤ vm'.scriptIdx := by
  induction n generalizing vm with
  | zero => cases h
  | succ n ih =>
    simp only [run] at h
    rcases hs : step other T vm with err | ⟨_ | _,vm1⟩ <;> rw [hs] at h
    · cases h
    · have ⟨wp1,ctx1⟩ := stepNoProgram wp hs
      exact ih wp1 (ctx1 ctx) h
    · cases h
      exact ⟨(stepNoProgram wp hs).2 ctx,stepDone hs⟩

end NoProgram

theorem legacyInputRunsWithoutTaproot (other : Handler) (T : Taproot) {spk : Bytes} {tx : MsgTx} {i : Int}
    {e : Engine} (h : newEngine spk tx i = .ok e) (legacy : isWitnessProgram spk = false)
    (pkt : Option Asset.AssetPacket) :
    (tx.txInAt i.toNat).witness = [] ∧
    (∀ vm, Reaches other T (e.setAssetPacket pkt) vm →
      vm.taprootCtx = none ∧ vm.scripts = [(tx.txInAt i.toNat).signatureScript,spk]) ∧
    (∀ T' n, execute other T' n (e.setAssetPacket pkt) = execute other T n (e.setAssetPacket pkt)) ∧
    ∀ n, execute other T n (e.setAssetPacket pkt) = some (.ok ()) ↔
      ∃ vm x, run other T n (e.setAssetPacket pkt) = some (.ok vm) ∧ vm.dstack = [x] ∧ asBool x = true := by
  obtain ⟨b,idx⟩ := newEngineBuilt h
  have info := b.witnessInfo
  simp only [witnessProgramInfo,legacy,Bool.false_eq_true,if_false] at info
  split at info
  · cases info
  rename_i empty
  obtain ⟨-,wp⟩ := Prod.mk.inj (Except.ok.inj info)
  have wp' : (e.setAssetPacket pkt).witnessProgram = none := wp.symm
  have noLeaf : appendedLeaf T (e.setAssetPacket pkt) = none := by simp [appendedLeaf,wp']
  have start := (b.setAssetPacket pkt).entered (T := T)
  refine ⟨by rw [← idx]; exact not_not.1 empty,fun vm r => ⟨?_,?_⟩,fun T' n => ?_,fun n => ?_⟩
  · induction r with
    | start => exact b.taprootCtx
    | step prev hs ih => exact (stepNoProgram ((prev.entered start).witnessProgram.trans wp') hs).2 ih
  · rcases (r.entered start).scripts with ⟨-,hs⟩ | ⟨-,leaf,hl,-⟩
    · rw [hs,← idx]; exact b.scripts
    · simp [noLeaf] at hl
  · simp only [execute,runTaprootFree wp' T]
  · simp only [execute]
    rcases hr : run other T n (e.setAssetPacket pkt) with _ | _ | vm
    · simp
    · simp [bind,Except.bind]
    · obtain ⟨ctx,ended⟩ := runNoProgram wp' b.taprootCtx hr
      simpa [bind,Except.bind] using checkErrorConditionFinal (by simp [ctx]) ended

section SigScript

/-- btcd's `opcodeReserved`: OP_RESERVED fails whenever it runs. -/
def ReservedFails (other : Handler) : Prop := ∀ data vm, ∃ err, other opReserved data vm = .error err

/-- `other` with btcd's `opcodeReserved` in front of it. -/
def withReserved (other : Handler) : Handler := fun op data vm =>
  if op = opReserved then .error (scriptError .errReservedOpcode "attempt to execute reserved opcode")
  else other op data vm

theorem withReservedFails : ReservedFails (withReserved other) :=
  fun _ _ => ⟨_,if_pos rfl⟩

/-- The elements a script of pushes stands for, in the order it pushes them. -/
inductive PushesOf : Bytes → List Bytes → Prop
  | nil : PushesOf [] []
  | token {rest : Bytes} {op : UInt8} {data : Bytes} {n : Nat} {x : Bytes} {xs : List Bytes}
      (read : readToken rest = .ok (op,data,n)) (push : pushedElement op data = some x)
      (tail : PushesOf (rest.drop n) xs) : PushesOf rest (x :: xs)

theorem newEnginePushOnly {spk : Bytes} {tx : MsgTx} {i : Int} {e : Engine} (h : newEngine spk tx i = .ok e) :
    PushOnly (tx.txInAt i.toNat).signatureScript := by
  simp only [newEngine] at h
  split at h
  · cases h
  split at h
  · cases h
  split at h
  · cases h
  rename_i pushOnly
  exact (isPushOnlyScriptIff _).1 (by simpa using pushOnly)

theorem opfuncPushOnly {op : UInt8} {data : Bytes} {vm : Engine} {st : OpState} (reserved : ReservedFails other)
    (push : op ≤ op16) (h : opfunc other op data vm = .ok st) :
    ∃ x, pushedElement op data = some x ∧ st = { vm.opState with dstack := x :: vm.dstack } := by
  cases hx : pushedElement op data with
  | some x => rw [opfuncPushedElement hx] at h; cases h; exact ⟨x,rfl,rfl⟩
  | none =>
    obtain rfl := pushedElementNone push hx
    obtain ⟨err,herr⟩ := reserved data vm
    rw [show opfunc other opReserved data vm = other opReserved data vm from rfl,herr] at h
    cases h

/-- The engines of the signature script at which Execute calls Step. -/
structure InSigScript (sig : Bytes) (vm : Engine) : Prop where
  idx : vm.scriptIdx = 0
  clean : vm.tokenizer.err = none
  notDone : vm.tokenizer.rest ≠ []
  pushOnly : PushOnly vm.tokenizer.rest
  astack : vm.astack = []
  condStack : vm.condStack = []
  pushes : ∀ ys, PushesOf vm.tokenizer.rest ys → PushesOf sig (vm.dstack.reverse ++ ys)

theorem InSigScript.step {sig : Bytes} {vm vm' : Engine} {d : Bool} (inv : InSigScript sig vm)
    (reserved : ReservedFails other) (h : step other T vm = .ok (d,vm')) :
    (∃ x, vm'.dstack = x :: vm.dstack) ∧ vm'.astack = [] ∧ vm'.condStack = [] ∧ vm'.taprootCtx = vm.taprootCtx ∧
      (vm'.scriptIdx = 0 → InSigScript sig vm') ∧ (vm'.scriptIdx ≠ 0 → PushesOf sig vm'.dstack.reverse) := by
  obtain ⟨-,tok,st,hn,hx,-,hb⟩ := stepOk h
  obtain ⟨op,data,n,read⟩ := parsesRead inv.pushOnly.parses inv.notDone
  obtain ⟨push,tail⟩ := inv.pushOnly.tail read
  rw [ScriptTokenizer.nextOk inv.clean read] at hn
  obtain ⟨-,htok⟩ := Prod.mk.inj hn
  have tokOp : tok.op = op := by rw [← htok]
  have tokClean : tok.err = none := by rw [← htok]; exact inv.clean
  have tokRest : tok.rest = vm.tokenizer.rest.drop n := by rw [← htok]; simp
  have exec : ({ vm with tokenizer := tok } : Engine).isBranchExecuting = true := by
    simp [Engine.isBranchExecuting,inv.condStack]
  obtain ⟨-,-,hf⟩ := executeOpcodeExecuting exec hx
  obtain ⟨x,hxe,rfl⟩ := opfuncPushOnly reserved (tokOp ▸ push) hf
  have hxe : pushedElement op data = some x := by rw [← htok] at hxe; exact hxe
  have pushes : ∀ ys, PushesOf tok.rest ys → PushesOf sig ((x :: vm.dstack).reverse ++ ys) :=
    fun ys hys => by simpa using inv.pushes (x :: ys) (.token read hxe (tokRest ▸ hys))
  have after : afterOpcode vm tok { ({ vm with tokenizer := tok } : Engine).opState with dstack := x :: vm.dstack } =
      { vm with tokenizer := tok, dstack := x :: vm.dstack } := afterOpcodePush vm tok _
  rw [after] at hb
  split at hb
  · rename_i done
    have ended : tok.rest = [] := (ScriptTokenizer.doneIff tokClean).1 done
    obtain ⟨-,vm1,adv,hb⟩ := scriptBoundaryOk hb
    simp only [advanceScript,inv.idx,zero_ne_one,false_and,if_false] at adv
    cases adv
    have ends : vm'.dstack = x :: vm.dstack ∧ vm'.astack = [] ∧ vm'.condStack = vm.condStack ∧
        vm'.taprootCtx = vm.taprootCtx ∧ vm'.scriptIdx ≠ 0 := by
      split at hb <;> obtain ⟨-,rfl⟩ := hb <;> refine ⟨by simp,by simp,by simp,by simp,?_⟩ <;>
        simp only [skipEmptyScriptIdx] <;> split <;> simp
    obtain ⟨hd,ha,hc,ht,moved⟩ := ends
    refine ⟨⟨x,hd⟩,ha,hc.trans inv.condStack,ht,fun i0 => absurd i0 moved,fun _ => ?_⟩
    rw [hd]
    simpa using pushes [] (ended ▸ .nil)
  · rename_i more
    obtain ⟨rfl,rfl⟩ := hb
    refine ⟨⟨x,rfl⟩,inv.astack,inv.condStack,rfl,fun _ => ⟨inv.idx,tokClean,?_,tokRest ▸ tail,inv.astack,
      inv.condStack,pushes⟩,fun i0 => absurd inv.idx i0⟩
    exact fun c => by simp [(ScriptTokenizer.doneIff tokClean).2 c] at more

theorem sigScriptOnlyPushes (other : Handler) (T : Taproot) (reserved : ReservedFails other) {spk : Bytes}
    {tx : MsgTx} {i : Int} {e : Engine} (h : newEngine spk tx i = .ok e) (pkt : Option Asset.AssetPacket) :
    ∀ vm, Reaches other T (e.setAssetPacket pkt) vm → vm.scriptIdx = 0 → ∀ d vm', step other T vm = .ok (d,vm') →
      (∃ x, vm'.dstack = x :: vm.dstack) ∧ vm'.astack = [] ∧ vm'.condStack = [] ∧ vm'.taprootCtx = none ∧
        (vm'.scriptIdx ≠ 0 → PushesOf (tx.txInAt i.toNat).signatureScript vm'.dstack.reverse) := by
  obtain ⟨b,idx⟩ := newEngineBuilt h
  have start := (b.setAssetPacket pkt).entered (T := T)
  have inv : ∀ vm, Reaches other T (e.setAssetPacket pkt) vm → vm.scriptIdx = 0 →
      InSigScript (tx.txInAt i.toNat).signatureScript vm ∧ vm.taprootCtx = none := by
    intro vm r
    induction r with
    | start =>
      intro i0
      have sidx := b.scriptIdx
      have bscr := b.scripts
      rw [idx] at sidx bscr
      have sig : (tx.txInAt i.toNat).signatureScript ≠ [] := fun c => by
        rw [if_pos c] at sidx; exact absurd (sidx.symm.trans i0) one_ne_zero
      have tok : (e.setAssetPacket pkt).tokenizer = makeScriptTokenizer (tx.txInAt i.toNat).signatureScript := by
        rw [show (e.setAssetPacket pkt).tokenizer = e.tokenizer from rfl,b.tokenizer,sidx,bscr,if_neg sig]
        rfl
      refine ⟨⟨i0,by rw [tok]; rfl,by rw [tok,ScriptTokenizer.makeRest]; exact sig,
        by rw [tok,ScriptTokenizer.makeRest]; exact newEnginePushOnly h,b.astack,b.condStack,fun ys hys => ?_⟩,b.taprootCtx⟩
      rw [tok,ScriptTokenizer.makeRest] at hys
      rw [show (e.setAssetPacket pkt).dstack = [] from b.dstack]
      simpa using hys
    | step prev hs ih =>
      intro i0
      have i0' := Nat.eq_zero_of_le_zero (((prev.entered start).advance hs).1.1.trans (le_of_eq i0))
      obtain ⟨inv,ctx⟩ := ih i0'
      obtain ⟨-,-,-,ctx',next,-⟩ := inv.step reserved hs
      exact ⟨next i0,ctx'.trans ctx⟩
  intro vm r i0 d vm' hs
  obtain ⟨inv,ctx⟩ := inv vm r i0
  obtain ⟨pushed,astack,condStack,ctx',-,ended⟩ := inv.step reserved hs
  exact ⟨pushed,astack,condStack,ctx'.trans ctx,ended⟩

theorem sigScriptPushesSample : ReservedFails (withReserved nopHandler) ∧
    ∃ e, newEngine [op1] ⟨[⟨[op1,0x02,0xab,0xcd],[]⟩]⟩ 0 = .ok e ∧
    ∀ vm, Reaches (withReserved nopHandler) acceptAllTaproot (e.setAssetPacket none) vm → vm.scriptIdx = 0 →
      ∀ d vm', step (withReserved nopHandler) acceptAllTaproot vm = .ok (d,vm') →
        (∃ x, vm'.dstack = x :: vm.dstack) ∧ (vm'.scriptIdx ≠ 0 → PushesOf [op1,0x02,0xab,0xcd] vm'.dstack.reverse) := by
  obtain ⟨e,h⟩ : ∃ e, newEngine [op1] ⟨[⟨[op1,0x02,0xab,0xcd],[]⟩]⟩ 0 = .ok e := ⟨_,rfl⟩
  refine ⟨withReservedFails,e,h,fun vm r i0 d vm' hs => ?_⟩
  have pushes := sigScriptOnlyPushes (withReserved nopHandler) acceptAllTaproot withReservedFails h none vm r i0 d vm' hs
  exact ⟨pushes.1,pushes.2.2.2.2⟩

end SigScript

theorem legacyOneAccepted : isWitnessProgram [op1] = false ∧ ∃ e, newEngine [op1] ⟨[⟨[],[]⟩]⟩ 0 = .ok e ∧
    ∀ T', execute nopHandler T' 1 (e.setAssetPacket none) = some (.ok ()) := by
  refine ⟨by decide,_,rfl,fun T' => ?_⟩
  rw [(@legacyInputRunsWithoutTaproot nopHandler acceptAllTaproot [op1] ⟨[⟨[],[]⟩]⟩ 0 _ rfl (by decide) none).2.2.1 T' 1]
  rfl

end Arkade
