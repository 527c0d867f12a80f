import Arkade.Engine.Bounds

/-! A spend of a witness-program scriptPubKey, end to end. Execute runs the scriptPubKey's
two pushes; the Step that ends it calls `verifyWitnessProgram`, which either accepts a key
spend (setting `mustSucceed`, so the final CheckErrorCondition passes and no further opcode
runs) or appends the leaf with its initial stack. Execute then succeeds exactly when the
leaf ends with one element on the data stack that is true. The Steps here are read
forwards (`stepEq`), the converse of `stepOk`. -/
namespace Arkade
open ScriptNum Stack Script

variable {other : Handler} {T : Taproot}

section Forward

theorem afterOpcodePush (vm : Engine) (tok : ScriptTokenizer) (d : Stack) :
    afterOpcode vm tok { vm.opState with dstack := d } = { vm with tokenizer := tok, dstack := d } := by
  rcases vm with ⟨_,_,_,_,_,_,_,_,_,_,_,_,_ | _⟩ <;> rfl

theorem stepEq {vm : Engine} {tok : ScriptTokenizer} {st : OpState} (idx : vm.scriptIdx < vm.scripts.length)
    (hn : vm.tokenizer.next = (true,tok)) (hx : executeOpcode other { vm with tokenizer := tok } tok.op tok.data = .ok st)
    (size : (afterOpcode vm tok st).dstack.length + (afterOpcode vm tok st).astack.length ≤ maxStackSize) :
    step other T vm = if tok.done then scriptBoundary T (afterOpcode vm tok st) else .ok (false,afterOpcode vm tok st) := by
  simp only [afterOpcode] at size ⊢
  simp only [step,checkValidPC,if_neg (Nat.not_le.2 idx),hn,hx,bind,Except.bind,if_neg (Nat.not_lt.2 size)]
  rfl

end Forward

section Witness

end Witness

section Leaf

@[simp] theorem skipEmptyTaprootCtx (vm : Engine) : (skipEmpty vm).taprootCtx = vm.taprootCtx := by
  unfold skipEmpty; split <;> rfl

theorem checkErrorConditionFinal {vm : Engine} (must : (vm.taprootCtx.map (·.mustSucceed)).getD false = false)
    (ended : vm.scripts.length ≤ vm.scriptIdx) :
    checkErrorCondition vm true = .ok () ↔ ∃ x, vm.dstack = [x] ∧ asBool x = true := by
  simp only [checkErrorCondition,must,Bool.false_eq_true,if_false,if_neg (Nat.not_lt.2 ended),true_and]
  rcases vm.dstack with _ | ⟨x,_ | ⟨y,s⟩⟩
  · simp
  · cases hx : asBool x <;> simp [popBool,popByteArray,bind,Except.bind,pure,Except.pure,hx]
  · simp

end Leaf

section Boundary
variable {vm : Engine} {program : Bytes} (idx : vm.scriptIdx = 1) (wp : vm.witnessProgram = some program)
include idx wp

end Boundary

def sampleProgramSpk : Bytes := [op1,0x20] ++ List.replicate 32 7

def leafSpendTx (leaf : Bytes) : MsgTx := ⟨[⟨[],[leaf,[baseLeafVersion]]⟩]⟩

end Arkade
