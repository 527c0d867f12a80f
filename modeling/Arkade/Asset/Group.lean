import Arkade.Asset.Lookup

/-! The opcodes over one group's entry lists: OP_INSPECTASSETGROUP (one entry),
OP_INSPECTASSETGROUPSUM (all amounts) and the Intent opcodes (the entries of type
Intent, counted and enumerated). The Intent opcodes agree with OP_INSPECTASSETGROUP at
the entry's position for every list. The sums are uint64 sums: the value pushed is the
exact sum reduced mod 2^64, with no overflow check on any path. -/
namespace Arkade.Asset
open ScriptNum Stack

section Entries
variable {α : Type} (type : α → UInt8) (intent : UInt8)

theorem countIntentFrom (xs : List α) (c : Nat) :
    xs.foldl (fun count x => if type x = intent then count + 1 else count) c =
      c + xs.countP (fun x => type x = intent) := by
  induction xs generalizing c with
  | nil => rfl
  | cons x xs ih => by_cases h : type x = intent <;> simp [h,ih,List.countP_cons]; omega

theorem countIntentCountP (xs : List α) : countIntent type intent xs = xs.countP (fun x => type x = intent) := by
  simp [countIntent,countIntentFrom]

/-- Position `pos` of `xs` holds the entry of Intent rank `j`. -/
def IntentRank (xs : List α) (j pos : Nat) : Prop :=
  ∃ h : pos < xs.length, type xs[pos] = intent ∧ (xs.take pos).countP (fun x => type x = intent) = j

theorem nthIntentIsSome (j : Int) (idx : Nat) (xs : List α) :
    (nthIntent type intent j idx xs).isSome ↔ idx ≤ j ∧ j < idx + xs.countP (fun x => type x = intent) := by
  induction xs generalizing idx with
  | nil => simp [nthIntent]
  | cons x xs ih =>
    by_cases h : type x = intent
    · by_cases e : (idx : Int) = j
      · simp [nthIntent,h,e]
      · simp [nthIntent,h,e,ih,List.countP_cons]; omega
    · simp [nthIntent,h,ih,List.countP_cons]

theorem nthIntentRank {j : Int} {idx : Nat} {xs : List α} {x : α} (h : nthIntent type intent j idx xs = some x) :
    ∃ pos, IntentRank type intent xs (j - idx).toNat pos ∧ xs[pos]? = some x := by
  induction xs generalizing idx with
  | nil => simp [nthIntent] at h
  | cons y xs ih =>
    by_cases ty : type y = intent
    · by_cases e : (idx : Int) = j
      · simp only [nthIntent,ty,e,if_true,Option.some.injEq] at h
        exact ⟨0,⟨by simp,by simpa [← h] using ty,by simp [← e]⟩,by simp [h]⟩
      · simp only [nthIntent,ty,e,if_true,if_false] at h
        obtain ⟨pos,⟨hp,tp,cp⟩,hx⟩ := ih h
        have below := ((nthIntentIsSome type intent j (idx+1) xs).1 (by simp [h])).1
        refine ⟨pos+1,⟨by simpa using hp,by simpa using tp,?_⟩,by simpa using hx⟩
        simp [List.countP_cons,ty,cp]; omega
    · simp only [nthIntent,ty,if_false] at h
      obtain ⟨pos,⟨hp,tp,cp⟩,hx⟩ := ih h
      exact ⟨pos+1,⟨by simpa using hp,by simpa using tp,by simp [List.countP_cons,ty,cp]⟩,by simpa using hx⟩

end Entries

def amountTotal {α : Type} (amount : α → UInt64) (xs : List α) : Nat :=
  (xs.map fun x => (amount x).toNat).sum

theorem foldlAmounts {α : Type} (amount : α → UInt64) (xs : List α) (acc : UInt64) :
    (xs.foldl (fun sum x => sum + amount x) acc).toNat = (acc.toNat + amountTotal amount xs) % 2 ^ 64 := by
  induction xs generalizing acc with
  | nil => simp [amountTotal,Nat.mod_eq_of_lt acc.toNat_lt]
  | cons x xs ih =>
    simp only [List.foldl_cons,ih,UInt64.toNat_add,UInt64.size,amountTotal,List.map_cons,List.sum_cons]
    omega

theorem sumAmountsToNat {α : Type} (amount : α → UInt64) (xs : List α) :
    (sumAmounts amount xs).toNat = amountTotal amount xs % 2 ^ 64 := by
  simp [sumAmounts,foldlAmounts]

theorem checkGroupIndexOk (p : AssetPacket) {K : Nat} (range : K < p.groups.length) :
    checkGroupIndex p K = .ok p.groups[K] :=
  checkedIndexOk _ range _

section Opcodes
variable (p : AssetPacket) (s : Stack) {eK : Bytes} {K : Nat} (hK : Encodes eK K) (range : K < p.groups.length)
include hK range

theorem inspectAssetGroupOutput {e1 ej : Bytes} {j : Nat} (h1 : Encodes e1 1) (hj : Encodes ej j)
    (jr : j < p.groups[K].outputs.length) :
    opcodeInspectAssetGroup (some p) (e1 :: ej :: eK :: s) =
      .ok (pushLE64 (pushInt (pushInt s p.groups[K].outputs[j].type.toNat) p.groups[K].outputs[j].outputIndex.toNat)
        p.groups[K].outputs[j].amount) := by
  simp [opcodeInspectAssetGroup,popIntCons h1,popIntCons hj,popIntCons hK,checkGroupIndexOk p range,
    checkedIndexOk _ jr,bind,Except.bind,pure,Except.pure]

theorem inspectAssetGroupInput {e0 ej : Bytes} {j : Nat} (h0 : Encodes e0 0) (hj : Encodes ej j)
    (jr : j < p.groups[K].inputs.length) (intent : p.groups[K].inputs[j].type = assetInputTypeIntent) :
    opcodeInspectAssetGroup (some p) (e0 :: ej :: eK :: s) =
      .ok (pushLE64 (pushInt (pushByteArray (pushInt s assetInputTypeIntent.toNat) p.groups[K].inputs[j].txid.bytes)
        p.groups[K].inputs[j].outputIndex.toNat) p.groups[K].inputs[j].amount) := by
  simp [opcodeInspectAssetGroup,popIntCons h0,popIntCons hj,popIntCons hK,checkGroupIndexOk p range,
    checkedIndexOk _ jr,bind,Except.bind,pure,Except.pure,intent,assetInputTypeIntent,assetInputTypeLocal]

section Intent
variable {α : Type} (entries : AssetGroup → List α) (type : α → UInt8) (intent : UInt8)
  (push : Stack → α → Stack) (desc : String) {ej : Bytes} {j : Int}

theorem inspectGroupIntentCountSpec :
    inspectGroupIntentCount entries type intent (some p) (eK :: s) =
      .ok (pushInt s ((entries p.groups[K]).countP fun x => type x = intent)) := by
  simp [inspectGroupIntentCount,popIntCons hK,checkGroupIndexOk p range,countIntentCountP,bind,Except.bind,
    pure,Except.pure]

theorem inspectGroupIntentSpec (hj : Encodes ej j) :
    inspectGroupIntent entries type intent push desc (some p) (ej :: eK :: s) =
      match nthIntent type intent j 0 (entries p.groups[K]) with
      | some x => .ok (push s x)
      | none => .error (scriptError .errInvalidIndex desc) := by
  simp only [inspectGroupIntent,checkAssetPacketSome,popIntCons hj,popIntCons hK,checkGroupIndexOk p range,
    bind,Except.bind]
  rfl

theorem inspectGroupIntentOk (hj : Encodes ej j) :
    (∃ r, inspectGroupIntent entries type intent push desc (some p) (ej :: eK :: s) = .ok r) ↔
      0 ≤ j ∧ j < (entries p.groups[K]).countP fun x => type x = intent := by
  have found := nthIntentIsSome type intent j 0 (entries p.groups[K])
  rw [inspectGroupIntentSpec p s hK range entries type intent push desc hj]
  cases h : nthIntent type intent j 0 (entries p.groups[K]) <;> simp [h] at found ⊢ <;> omega

theorem inspectGroupIntentRank (hj : Encodes ej j) {r : Stack}
    (h : inspectGroupIntent entries type intent push desc (some p) (ej :: eK :: s) = .ok r) :
    ∃ pos x, IntentRank type intent (entries p.groups[K]) j.toNat pos ∧ (entries p.groups[K])[pos]? = some x ∧
      r = push s x := by
  rw [inspectGroupIntentSpec p s hK range entries type intent push desc hj] at h
  split at h
  · obtain ⟨pos,rank,at_⟩ := nthIntentRank type intent ‹_›
    exact ⟨pos,_,by simpa using rank,at_,(Except.ok.inj h).symm⟩
  · cases h

end Intent

end Opcodes

theorem intentOpcodesMatchGroupEntries (p : AssetPacket) (s : Stack) {eK ej : Bytes} {K : Nat} {j : Int}
    (hK : Encodes eK K) (hj : Encodes ej j) (range : K < p.groups.length) :
    (opcodeInspectGroupIntentOutCount (some p) (eK :: s) =
        .ok (pushInt s (p.groups[K].outputs.countP fun o => o.type = assetOutputTypeIntent)) ∧
      ((∃ r, opcodeInspectGroupIntentOut (some p) (ej :: eK :: s) = .ok r) ↔
        0 ≤ j ∧ j < p.groups[K].outputs.countP fun o => o.type = assetOutputTypeIntent) ∧
      ∀ r, opcodeInspectGroupIntentOut (some p) (ej :: eK :: s) = .ok r →
        ∃ pos pushed, IntentRank AssetOutput.type assetOutputTypeIntent p.groups[K].outputs j.toNat pos ∧
          r = pushed ++ s ∧ ∀ e1 ep, Encodes e1 1 → Encodes ep pos →
            opcodeInspectAssetGroup (some p) (e1 :: ep :: eK :: s) =
              .ok (pushed ++ pushInt s assetOutputTypeIntent.toNat)) ∧
    (opcodeInspectGroupIntentInCount (some p) (eK :: s) =
        .ok (pushInt s (p.groups[K].inputs.countP fun i => i.type = assetInputTypeIntent)) ∧
      ((∃ r, opcodeInspectGroupIntentIn (some p) (ej :: eK :: s) = .ok r) ↔
        0 ≤ j ∧ j < p.groups[K].inputs.countP fun i => i.type = assetInputTypeIntent) ∧
      ∀ r, opcodeInspectGroupIntentIn (some p) (ej :: eK :: s) = .ok r →
        ∃ pos pushed, IntentRank AssetInput.type assetInputTypeIntent p.groups[K].inputs j.toNat pos ∧
          r = pushed ++ s ∧ ∀ e0 ep, Encodes e0 0 → Encodes ep pos →
            opcodeInspectAssetGroup (some p) (e0 :: ep :: eK :: s) =
              .ok (pushed ++ pushInt s assetInputTypeIntent.toNat)) := by
  refine ⟨⟨inspectGroupIntentCountSpec p s hK range _ _ _,inspectGroupIntentOk p s hK range _ _ _ _ _ hj,
    fun r h => ?_⟩,⟨inspectGroupIntentCountSpec p s hK range _ _ _,inspectGroupIntentOk p s hK range _ _ _ _ _ hj,
    fun r h => ?_⟩⟩
  · obtain ⟨pos,out,rank,at_,rfl⟩ := inspectGroupIntentRank p s hK range _ _ _ _ _ hj h
    obtain ⟨hp,tp,_⟩ := id rank
    have : p.groups[K].outputs[pos] = out := by simpa [hp] using at_
    refine ⟨pos,[putUint64LE out.amount,scriptNumBytes out.outputIndex.toNat],rank,rfl,fun e1 ep h1 hp' => ?_⟩
    rw [inspectAssetGroupOutput p s hK range h1 hp' hp,this,← tp,this]
    rfl
  · obtain ⟨pos,inp,rank,at_,rfl⟩ := inspectGroupIntentRank p s hK range _ _ _ _ _ hj h
    obtain ⟨hp,tp,_⟩ := id rank
    have : p.groups[K].inputs[pos] = inp := by simpa [hp] using at_
    refine ⟨pos,[putUint64LE inp.amount,scriptNumBytes inp.outputIndex.toNat,inp.txid.bytes],rank,rfl,
      fun e0 ep h0 hp' => ?_⟩
    rw [inspectAssetGroupInput p s hK range h0 hp' hp tp,this]
    rfl

def intentPacket : AssetPacket :=
  ⟨[⟨⟨Hash32.zero,0⟩,none,Hash32.zero,[⟨assetInputTypeIntent,0,Hash32.zero,3,7⟩],
    [⟨assetOutputTypeLocal,0,5⟩,⟨assetOutputTypeIntent,1,6⟩]⟩],fun _ => [],fun _ => []⟩

theorem intentOutFoundInSample :
    Encodes [] 0 ∧ 0 < intentPacket.groups.length ∧
      ∃ r, opcodeInspectGroupIntentOut (some intentPacket) [[],[]] = .ok r :=
  ⟨by decide,by decide,
    ((@intentOpcodesMatchGroupEntries intentPacket [] [] [] 0 0 (by decide) (by decide) (by decide)).1.2.1).2
      (by decide)⟩

theorem inspectAssetGroupSumSpec (p : AssetPacket) (s : Stack) {eK es : Bytes} {K src : Nat} (hK : Encodes eK K)
    (range : K < p.groups.length) (hs : Encodes es src) (valid : src ≤ 2) :
    ∃ vs : List UInt64, opcodeInspectAssetGroupSum (some p) (es :: eK :: s) = .ok (vs.map putUint64LE ++ s) ∧
      vs.map UInt64.toNat = (match src with
        | 0 => [amountTotal AssetInput.amount p.groups[K].inputs]
        | 1 => [amountTotal AssetOutput.amount p.groups[K].outputs]
        | _ => [amountTotal AssetOutput.amount p.groups[K].outputs,
            amountTotal AssetInput.amount p.groups[K].inputs]).map (· % 2 ^ 64) := by
  have run : opcodeInspectAssetGroupSum (some p) (es :: eK :: s) =
      match (src : Int) with
      | 0 => .ok (pushLE64 s (sumAmounts AssetInput.amount p.groups[K].inputs))
      | 1 => .ok (pushLE64 s (sumAmounts AssetOutput.amount p.groups[K].outputs))
      | 2 => .ok (pushLE64 (pushLE64 s (sumAmounts AssetInput.amount p.groups[K].inputs))
          (sumAmounts AssetOutput.amount p.groups[K].outputs))
      | _ => .error (scriptError .errInvalidIndex "invalid source for OP_INSPECTASSETGROUPSUM") := by
    simp only [opcodeInspectAssetGroupSum,checkAssetPacketSome,popIntCons hs,popIntCons hK,checkGroupIndexOk p range,
      bind,Except.bind,pure,Except.pure]
    rfl
  rw [run]
  interval_cases src
  · exact ⟨[_],rfl,by simp [sumAmountsToNat]⟩
  · exact ⟨[_],rfl,by simp [sumAmountsToNat]⟩
  · exact ⟨[_,_],rfl,by simp [sumAmountsToNat]⟩

def wrapPacket : AssetPacket :=
  ⟨[⟨⟨Hash32.zero,0⟩,none,Hash32.zero,[],[⟨assetOutputTypeLocal,0,2 ^ 63⟩,⟨assetOutputTypeLocal,1,2 ^ 63⟩]⟩],
    fun _ => [],fun _ => []⟩

theorem inspectAssetGroupSumOnWrap : Encodes [] 0 ∧ 0 < wrapPacket.groups.length ∧ Encodes [0x01] 1 ∧ 1 ≤ 2 ∧
    ∃ vs : List UInt64, opcodeInspectAssetGroupSum (some wrapPacket) [[0x01],[]] = .ok (vs.map putUint64LE ++ []) ∧
      vs.map UInt64.toNat = [amountTotal AssetOutput.amount wrapPacket.groups[0].outputs].map (· % 2 ^ 64) :=
  have hK : Encodes [] 0 := by decide
  have range : 0 < wrapPacket.groups.length := by decide
  have hs : Encodes [0x01] 1 := by decide
  ⟨hK,range,hs,by decide,inspectAssetGroupSumSpec wrapPacket [] hK range hs (by decide)⟩

theorem groupSumWrapsToZero :
    wrapPacket.groups.map (fun g => amountTotal AssetOutput.amount g.outputs) = [2 ^ 64] ∧
      opcodeInspectAssetGroupSum (some wrapPacket) [[0x01],[]] = .ok [putUint64LE 0] := by
  decide

end Arkade.Asset
