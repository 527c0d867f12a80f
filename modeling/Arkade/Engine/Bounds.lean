import Arkade.Engine.Run
import Arkade.Asset.Pushes

/-! The stack bounds of a run: after every successful Step the two stacks hold at most
MaxStackSize elements together and every element is at most MaxScriptElementSize bytes,
and a Step that ends a script leaves the conditional and alt stacks empty. The handlers
under src/ (pushes and asset opcodes) are shown to push only small elements; every other
handler is assumed to (`PushesBounded`). -/
namespace Arkade
open ScriptNum Stack Script Asset

def Bounded (s : Stack) : Prop := ∀ e ∈ s, e.length ≤ maxScriptElementSize

/-- A handler that, given data and stacks of small elements, leaves stacks of small elements. -/
def PushesBounded (other : Handler) : Prop :=
  ∀ op data vm st, other op data vm = .ok st → data.length ≤ maxScriptElementSize →
    Bounded vm.dstack → Bounded vm.astack → Bounded st.dstack ∧ Bounded st.astack

section Elements
variable {s s' : Stack}

@[simp] theorem boundedNil : Bounded [] := by simp [Bounded]

@[simp] theorem boundedCons {x : Bytes} : Bounded (x :: s) ↔ x.length ≤ maxScriptElementSize ∧ Bounded s := by
  simp [Bounded]

@[simp] theorem boundedPushInt {n : Int} : Bounded (pushInt s n) ↔ Bounded s := by
  have := scriptNumBytesLength n
  simp [pushInt,pushByteArray,maxScriptElementSize]; omega

@[simp] theorem boundedPushLE64 {v : UInt64} : Bounded (pushLE64 s v) ↔ Bounded s := by
  simp [pushLE64,pushByteArray,putUint64LE,leBytesLength,maxScriptElementSize]

@[simp] theorem hash32Length (h : Hash32) : h.bytes.length = 32 := h.size

@[simp] theorem boundedPushHash {h : Hash32} : Bounded (pushByteArray s h.bytes) ↔ Bounded s := by
  simp [pushByteArray,maxScriptElementSize]

@[simp] theorem boundedPushAssetID {id : AssetID} : Bounded (pushAssetID s id) ↔ Bounded s := by
  simp [pushAssetID]

theorem boundedSuffix {t : Stack} (h : t <:+ s) (hs : Bounded s) : Bounded t := fun e he => hs e (h.subset he)

end Elements

theorem assetOpcodeMem {op : UInt8} {f : Option AssetPacket → Stack → Except ScriptError Stack}
    (hf : assetOpcode op = some f) :
    f ∈ [opcodeInspectNumAssetGroups,opcodeInspectAssetGroupAssetID,opcodeInspectAssetGroupCtrl,
      opcodeFindAssetGroupByAssetID,opcodeInspectAssetGroupMetadataHash,opcodeInspectAssetGroupNum,
      opcodeInspectAssetGroup,opcodeInspectAssetGroupSum,opcodeInspectOutAssetCount,opcodeInspectOutAssetAt,
      opcodeInspectOutAssetLookup,opcodeInspectInAssetCount,opcodeInspectInAssetAt,opcodeInspectInAssetLookup,
      opcodeInspectGroupIntentOutCount,opcodeInspectGroupIntentOut,opcodeInspectGroupIntentInCount,
      opcodeInspectGroupIntentIn] := by
  simp only [assetOpcode,Option.filter] at hf
  split at hf
  · split at hf
    · cases hf; exact List.getElem?_mem ‹_›
    · cases hf
  · cases hf

section Asset
variable {pkt : Option AssetPacket} {s s' : Stack} (hs : Bounded s)
include hs

theorem assetOpcodeBounded {op : UInt8} {f : Option AssetPacket → Stack → Except ScriptError Stack}
    (hf : assetOpcode op = some f) (h : f pkt s = .ok s') : Bounded s' := by
  have mem := assetOpcodeMem hf
  simp only [List.mem_cons,List.mem_singleton,List.not_mem_nil,or_false] at mem
  cases pkt with
  | none => rcases mem with rfl|rfl|rfl|rfl|rfl|rfl|rfl|rfl|rfl|rfl|rfl|rfl|rfl|rfl|rfl|rfl|rfl|rfl <;> cases h
  | some p =>
    rcases mem with rfl|rfl|rfl|rfl|rfl|rfl|rfl|rfl|rfl|rfl|rfl|rfl|rfl|rfl|rfl|rfl|rfl|rfl
    · cases h; simpa using hs
    · obtain ⟨t,ht,-,-,rfl⟩ := inspectAssetGroupAssetIDPushes h
      simpa using boundedSuffix ht hs
    · obtain ⟨t,ht,-,-,⟨-,rfl⟩ | ⟨-,-,rfl⟩⟩ := inspectAssetGroupCtrlPushes h <;> simpa using boundedSuffix ht hs
    · obtain ⟨t,ht,-,rfl,-⟩ := findAssetGroupByAssetIDPushes h
      simpa using boundedSuffix ht hs
    · obtain ⟨t,ht,-,-,rfl⟩ := inspectAssetGroupMetadataHashPushes h
      simpa using boundedSuffix ht hs
    · obtain ⟨t,ht,-,-,rfl|rfl|rfl⟩ := inspectAssetGroupNumPushes h <;> simpa using boundedSuffix ht hs
    · obtain ⟨t,ht,-,-,⟨-,-,rfl⟩ | ⟨-,-,rfl⟩⟩ := inspectAssetGroupPushes h
      · split <;> simpa using boundedSuffix ht hs
      · simpa using boundedSuffix ht hs
    · obtain ⟨t,ht,-,-,rfl|rfl|rfl⟩ := inspectAssetGroupSumPushes h <;> simpa using boundedSuffix ht hs
    · obtain ⟨t,ht,-,rfl⟩ := inspectAssetCountPushes h
      simpa using boundedSuffix ht hs
    · obtain ⟨t,ht,-,-,-,rfl⟩ := inspectAssetAtPushes h
      simpa using boundedSuffix ht hs
    · obtain ⟨t,ht,rfl | ⟨-,-,-,rfl⟩⟩ := inspectAssetLookupPushes h <;> simpa using boundedSuffix ht hs
    · obtain ⟨t,ht,-,rfl⟩ := inspectAssetCountPushes h
      simpa using boundedSuffix ht hs
    · obtain ⟨t,ht,-,-,-,rfl⟩ := inspectAssetAtPushes h
      simpa using boundedSuffix ht hs
    · obtain ⟨t,ht,rfl | ⟨-,-,-,rfl⟩⟩ := inspectAssetLookupPushes h <;> simpa using boundedSuffix ht hs
    · obtain ⟨t,ht,-,-,rfl⟩ := inspectGroupIntentCountPushes h
      simpa using boundedSuffix ht hs
    · obtain ⟨t,ht,-,-,-,-,-,rfl⟩ := inspectGroupIntentPushes h
      simpa using boundedSuffix ht hs
    · obtain ⟨t,ht,-,-,rfl⟩ := inspectGroupIntentCountPushes h
      simpa using boundedSuffix ht hs
    · obtain ⟨t,ht,-,-,-,-,-,rfl⟩ := inspectGroupIntentPushes h
      simpa using boundedSuffix ht hs

end Asset

section Step
variable {other : Handler} {T : Taproot}

theorem opfuncBounded (hother : PushesBounded other) {op : UInt8} {data : Bytes} {vm : Engine} {st : OpState}
    (h : opfunc other op data vm = .ok st) (hd : data.length ≤ maxScriptElementSize) (hs : Bounded vm.dstack)
    (ha : Bounded vm.astack) : Bounded st.dstack ∧ Bounded st.astack := by
  unfold opfunc at h
  split at h
  · cases h; exact ⟨boundedCons.2 ⟨hd,hs⟩,ha⟩
  split at h
  · cases h; exact ⟨by simpa using hs,ha⟩
  split at h
  · cases h; exact ⟨by simpa using hs,ha⟩
  split at h
  · rename_i f hf
    cases hr : f vm.assetPacket vm.dstack with
    | error => rw [hr] at h; cases h
    | ok s' => rw [hr] at h; cases h; exact ⟨assetOpcodeBounded hs hf hr,ha⟩
  · exact hother op data vm st h hd hs ha

theorem executeOpcodeBounded (hother : PushesBounded other) {op : UInt8} {data : Bytes} {vm : Engine}
    {st : OpState} (h : executeOpcode other vm op data = .ok st) (hs : Bounded vm.dstack) (ha : Bounded vm.astack) :
    Bounded st.dstack ∧ Bounded st.astack := by
  simp only [executeOpcode] at h
  split at h
  · cases h
  split at h
  · cases h
  split at h
  · cases h; exact ⟨hs,ha⟩
  obtain ⟨_,_,h⟩ := bindOk h
  exact opfuncBounded hother h (by omega) hs ha

theorem advanceScriptStacks {vm vm1 : Engine} (h : advanceScript T vm = .ok vm1) :
    vm1.astack = vm.astack ∧ vm1.condStack = vm.condStack ∧
      (vm1.dstack = vm.dstack ∨ vm1.dstack.length ≤ maxStackSize ∧ Bounded vm1.dstack) := by
  simp only [advanceScript] at h
  split at h
  · obtain ⟨_,spend,-,-,-,-,ha⟩ := verifyWitnessProgramOk h
    cases spend with
    | keySpend => cases ha; exact ⟨rfl,rfl,.inl rfl⟩
    | scriptPath annex leaf hash stack =>
      simp only [applyWitnessSpend] at ha
      split at ha
      · cases ha
      split at ha
      · cases ha
      cases ha
      rename_i depth elems
      refine ⟨rfl,rfl,.inr ⟨Nat.le_of_not_lt depth,fun x hx => ?_⟩⟩
      by_contra big
      exact elems (List.any_eq_true.2 ⟨x,hx,by simpa using big⟩)
  · cases h; exact ⟨rfl,rfl,.inl rfl⟩

@[simp] theorem skipEmptyDstack (vm : Engine) : (skipEmpty vm).dstack = vm.dstack := by unfold skipEmpty; split <;> rfl
@[simp] theorem skipEmptyAstack (vm : Engine) : (skipEmpty vm).astack = vm.astack := by unfold skipEmpty; split <;> rfl
@[simp] theorem skipEmptyCondStack (vm : Engine) : (skipEmpty vm).condStack = vm.condStack := by
  unfold skipEmpty; split <;> rfl

theorem stepBounds (hother : PushesBounded other) {vm vm' : Engine} {d : Bool} (hd : Bounded vm.dstack)
    (ha : Bounded vm.astack) (h : step other T vm = .ok (d,vm')) :
    vm'.dstack.length + vm'.astack.length ≤ maxStackSize ∧ Bounded vm'.dstack ∧ Bounded vm'.astack ∧
      ((vm.tokenizer.next).2.done = true → vm'.condStack = [] ∧ vm'.astack = []) := by
  obtain ⟨-,tok,st,hn,hx,depth,hb⟩ := stepOk h
  obtain ⟨sd,sa⟩ := executeOpcodeBounded hother hx hd ha
  have depth' : st.dstack.length + st.astack.length ≤ maxStackSize := depth
  rw [hn]
  split at hb
  · obtain ⟨cond,vm1,adv,hb⟩ := scriptBoundaryOk hb
    obtain ⟨a1,c1,d1⟩ := advanceScriptStacks adv
    have ends : vm'.dstack = vm1.dstack ∧ vm'.astack = [] ∧ vm'.condStack = [] := by
      split at hb <;> obtain ⟨-,rfl⟩ := hb <;> exact ⟨by simp,by simp [a1],by simp [c1,cond]⟩
    obtain ⟨e1,e2,e3⟩ := ends
    rw [e1,e2,e3]
    rcases d1 with same | ⟨len,bd⟩
    · rw [same]; exact ⟨by simp [afterOpcode,Engine.applyOpState]; omega,sd,by simp,fun _ => ⟨rfl,rfl⟩⟩
    · exact ⟨by simpa using len,bd,by simp,fun _ => ⟨rfl,rfl⟩⟩
  · rename_i more
    obtain ⟨-,rfl⟩ := hb
    exact ⟨depth,sd,sa,fun done => absurd done more⟩

theorem Reaches.bounded (hother : PushesBounded other) {e vm : Engine} (start : Bounded e.dstack ∧ Bounded e.astack)
    (r : Reaches other T e vm) : Bounded vm.dstack ∧ Bounded vm.astack := by
  induction r with
  | start => exact start
  | step _ h ih =>
    obtain ⟨-,d,a,-⟩ := stepBounds hother ih.1 ih.2 h
    exact ⟨d,a⟩

end Step

theorem stepStackBounds (other : Handler) (T : Taproot) (hother : PushesBounded other) {spk : Bytes} {tx : MsgTx}
    {i : Int} {e : Engine} (h : newEngine spk tx i = .ok e) (pkt : Option AssetPacket) :
    ∀ vm, Reaches other T (e.setAssetPacket pkt) vm → ∀ d vm', step other T vm = .ok (d,vm') →
      vm'.dstack.length + vm'.astack.length ≤ maxStackSize ∧ Bounded vm'.dstack ∧ Bounded vm'.astack ∧
      ((vm.tokenizer.next).2.done = true → vm'.condStack = [] ∧ vm'.astack = []) := by
  obtain ⟨b,-⟩ := newEngineBuilt h
  intro vm r d vm' hs
  have start : Bounded (e.setAssetPacket pkt).dstack ∧ Bounded (e.setAssetPacket pkt).astack := by
    simp [Engine.setAssetPacket,b.dstack,b.astack]
  obtain ⟨bd,ba⟩ := r.bounded hother start
  exact stepBounds hother bd ba hs

theorem stepStackBoundsOnPush : PushesBounded nopHandler ∧ ∃ e, newEngine [op1] ⟨[⟨[],[]⟩]⟩ 0 = .ok e ∧
    ∀ vm, Reaches nopHandler acceptAllTaproot (e.setAssetPacket none) vm → ∀ d vm',
      step nopHandler acceptAllTaproot vm = .ok (d,vm') → vm'.dstack.length + vm'.astack.length ≤ maxStackSize := by
  have hother : PushesBounded nopHandler := fun _ _ vm st h _ hd ha => by
    cases h; exact ⟨hd,ha⟩
  obtain ⟨e,h⟩ : ∃ e, newEngine [op1] ⟨[⟨[],[]⟩]⟩ 0 = .ok e := ⟨_,rfl⟩
  exact ⟨hother,e,h,fun vm r d vm' hs => (stepStackBounds nopHandler acceptAllTaproot hother h none vm r d vm' hs).1⟩

end Arkade
