import Arkade.Engine.Step

/-! Minimal pushes (BIP 62, rule 3), as `executeOpcode` enforces them: `NewEngine` always
sets `verifyMinimalData`, so every data push executed in a running branch passes
`checkMinimalDataPush`. `minimalPushOpcode` states the rule on its own: the one opcode that
may push a given element. In an executing branch a push opcode runs only as the minimal
push of the element it leaves, and every element of at most MaxScriptElementSize bytes has
its minimal push, which runs. So no element can be pushed in two ways. -/
namespace Arkade
open ScriptNum Stack Script

/-- The push BIP 62 prescribes for a stack element. -/
def minimalPushOpcode (e : Bytes) : UInt8 :=
  match e with
  | [] => op0
  | [b] => if 1 ≤ b ∧ b ≤ 16 then op1 + b - 1 else if b = 0x81 then op1Negate else 1
  | _ => if e.length ≤ 75 then UInt8.ofNat e.length else if e.length ≤ 255 then opPushData1
    else if e.length ≤ 65535 then opPushData2 else opPushData4

variable {other : Handler} {vm : Engine} {op : UInt8} {data : Bytes} {st : OpState}

theorem checkMinimalDataPushMinimal (h : checkMinimalDataPush op data = .ok ()) (len : data.length ≤ 65535) :
    op = minimalPushOpcode data := by
  match data with
  | [] =>
    simp [checkMinimalDataPush,minimalPushOpcode] at h ⊢
    split_ifs at h with h0
    exact h0
  | [b] =>
    by_cases small : 1 ≤ b ∧ b ≤ 16
    · simpa [checkMinimalDataPush,minimalPushOpcode,small] using h
    by_cases neg : b = 0x81
    · simpa [checkMinimalDataPush,minimalPushOpcode,small,neg] using h
    · simp [checkMinimalDataPush,minimalPushOpcode,small,neg] at h ⊢
      exact byteToNatInj (by simpa using h)
  | a :: b :: rest =>
    simp only [checkMinimalDataPush,minimalPushOpcode,List.length_cons] at h len ⊢
    rw [if_neg (by omega),if_neg (by omega),if_neg (by omega)] at h
    split_ifs at h ⊢ with l75 l255 l65535
    · exact byteToNatInj (by simp; omega)
    all_goals exact not_not.1 ‹_›

theorem executeOpcodeExecuting (exec : vm.isBranchExecuting = true) (h : executeOpcode other vm op data = .ok st) :
    data.length ≤ maxScriptElementSize ∧ (op ≤ opPushData4 → checkMinimalDataPush op data = .ok ()) ∧
      opfunc other op data vm = .ok st := by
  simp only [executeOpcode,exec,Bool.not_true,Bool.false_and,Bool.true_and,decide_eq_true_eq,Bool.false_eq_true,
    if_false] at h
  split_ifs at h with illegal big push
  · obtain ⟨⟨⟩,hc,h⟩ := bindOk h
    exact ⟨Nat.not_lt.1 big,fun _ => hc,h⟩
  · exact ⟨Nat.not_lt.1 big,fun p => absurd p push,h⟩

theorem executeOpcodeForward (exec : vm.isBranchExecuting = true) (legal : isOpcodeAlwaysIllegal op = false)
    (small : data.length ≤ maxScriptElementSize) (minimal : op ≤ opPushData4 → checkMinimalDataPush op data = .ok ()) :
    executeOpcode other vm op data = opfunc other op data vm := by
  simp only [executeOpcode,exec,legal,Bool.not_true,Bool.false_and,Bool.true_and,decide_eq_true_eq,
    Bool.false_eq_true,if_false,if_neg (Nat.not_lt.2 small)]
  split_ifs with push
  · rw [minimal push]; rfl
  · rfl

theorem notIllegal {op : UInt8} (h : op.toNat ≤ 0x60) : isOpcodeAlwaysIllegal op = false := by
  simp only [isOpcodeAlwaysIllegal,opVerIf,opVerNotIf,Bool.or_eq_false_iff,decide_eq_false_iff_not]
  exact ⟨fun e => by subst e; simp [UInt8.size] at h,fun e => by subst e; simp [UInt8.size] at h⟩

theorem opfuncDataPush (push : op ≤ opPushData4) :
    opfunc other op data vm = .ok { vm.opState with dstack := pushByteArray vm.dstack data } := by
  simp [opfunc,push]

theorem opfuncNegate : opfunc other op1Negate data vm = .ok { vm.opState with dstack := pushInt vm.dstack (-1) } := by
  simp [opfunc,show ¬ op1Negate ≤ opPushData4 by decide]

theorem opfuncSmallInt (range : op1 ≤ op ∧ op ≤ op16) :
    opfunc other op data vm = .ok { vm.opState with dstack := pushInt vm.dstack (op.toNat - 0x50) } := by
  have r : 0x51 ≤ op.toNat ∧ op.toNat ≤ 0x60 := range
  have notPush : ¬ op ≤ opPushData4 := fun h => by have : op.toNat ≤ 0x4e := h; omega
  have notNeg : op ≠ op1Negate := fun e => by subst e; simp [op1Negate,UInt8.size] at r
  simp [opfunc,notPush,notNeg,range]

/-- The element a push opcode leaves on the data stack; `none` for every other opcode. -/
def pushedElement (op : UInt8) (data : Bytes) : Option Bytes :=
  if op ≤ opPushData4 then some data
  else if op = op1Negate then some (scriptNumBytes (-1))
  else if op1 ≤ op ∧ op ≤ op16 then some (scriptNumBytes (op.toNat - 0x50))
  else none

theorem opfuncPushedElement {x : Bytes} (hx : pushedElement op data = some x) :
    opfunc other op data vm = .ok { vm.opState with dstack := x :: vm.dstack } := by
  unfold pushedElement at hx
  split_ifs at hx with p neg small <;> cases hx
  · exact opfuncDataPush p
  · subst neg; exact opfuncNegate
  · exact opfuncSmallInt small

theorem pushedElementNone (push : op ≤ op16) (hx : pushedElement op data = none) : op = opReserved := by
  unfold pushedElement at hx
  split_ifs at hx with p neg small
  have : op.toNat ≤ 0x60 := push
  have : ¬ op.toNat ≤ 0x4e := p
  have : op.toNat ≠ 0x4f := fun e => neg (byteToNatInj e)
  have : ¬ (0x51 ≤ op.toNat ∧ op.toNat ≤ 0x60) := small
  exact byteToNatInj (show op.toNat = 0x50 by omega)

theorem scriptNumBytesSmallInt {b : UInt8} (h : 1 ≤ b.toNat ∧ b.toNat < 128) : scriptNumBytes b.toNat = [b] := by
  have value : scriptNumValue ([] ++ [b]) = b.toNat := by
    rw [scriptNumValueSnoc,if_pos h.2]; simp [leValue]
  have ok := makeScriptNumChecked (v := [] ++ [b]) (by simp [maxScriptNumLen])
    (checkMinimalLowBits [] b (by omega))
  rw [value] at ok
  exact makeScriptNumCanonical ok

theorem op1AddToNat {b : UInt8} (h : 1 ≤ b.toNat ∧ b.toNat ≤ 16) : (op1 + b - 1).toNat = 0x50 + b.toNat := by
  simp [op1,UInt8.toNat_add,UInt8.toNat_sub,UInt8.size]
  omega

theorem minimalPushSmallInt (range : op1 ≤ op ∧ op ≤ op16) :
    minimalPushOpcode (scriptNumBytes (op.toNat - 0x50 : Int)) = op := by
  have r : 0x51 ≤ op.toNat ∧ op.toNat ≤ 0x60 := range
  set b := UInt8.ofNat (op.toNat - 0x50)
  have hb : b.toNat = op.toNat - 0x50 := by simp [b]; omega
  have cast : (op.toNat - 0x50 : Int) = (b.toNat : Int) := by rw [hb]; omega
  have small : 1 ≤ b ∧ b ≤ 16 := ⟨show 1 ≤ b.toNat by omega,show b.toNat ≤ 16 by omega⟩
  rw [cast,scriptNumBytesSmallInt (by omega),minimalPushOpcode,if_pos small]
  exact byteToNatInj (by rw [op1AddToNat small]; omega)

theorem executedPushMinimal (exec : vm.isBranchExecuting = true) (push : op ≤ op1Negate ∨ op1 ≤ op ∧ op ≤ op16)
    (h : executeOpcode other vm op data = .ok st) : ∃ e, st.dstack = e :: vm.dstack ∧ op = minimalPushOpcode e := by
  obtain ⟨small,minimal,hf⟩ := executeOpcodeExecuting exec h
  by_cases dataPush : op ≤ opPushData4
  · rw [opfuncDataPush dataPush] at hf
    cases hf
    exact ⟨data,rfl,checkMinimalDataPushMinimal (minimal dataPush) (by unfold maxScriptElementSize at small; omega)⟩
  by_cases neg : op = op1Negate
  · subst neg
    rw [opfuncNegate] at hf
    cases hf
    exact ⟨_,rfl,by decide⟩
  · have range : op1 ≤ op ∧ op ≤ op16 := by
      rcases push with le | range
      · have : op.toNat ≤ 0x4f := le
        have : ¬ op.toNat ≤ 0x4e := dataPush
        exact absurd (byteToNatInj (by simp [op1Negate,UInt8.size]; omega)) neg
      · exact range
    rw [opfuncSmallInt range] at hf
    cases hf
    exact ⟨_,rfl,(minimalPushSmallInt range).symm⟩

theorem minimalPushOpcodeLe (e : Bytes) : (minimalPushOpcode e).toNat ≤ 0x60 := by
  match e with
  | [] => decide
  | [b] =>
    simp only [minimalPushOpcode]
    split_ifs with small
    · have s : 1 ≤ b.toNat ∧ b.toNat ≤ 16 := small
      have := op1AddToNat s; omega
    all_goals decide
  | a :: b :: rest =>
    simp only [minimalPushOpcode,List.length_cons]
    split_ifs with l75
    · simp [UInt8.toNat_ofNat]; omega
    all_goals decide

theorem minimalDataPushChecked (e : Bytes) (push : minimalPushOpcode e ≤ opPushData4) (len : e.length ≤ 65535) :
    checkMinimalDataPush (minimalPushOpcode e) e = .ok () := by
  match e with
  | [] => decide
  | [b] =>
    simp only [minimalPushOpcode] at push ⊢
    split_ifs at push ⊢ with small neg
    · have s : 1 ≤ b.toNat ∧ b.toNat ≤ 16 := small
      have := op1AddToNat s; have : (op1 + b - 1).toNat ≤ 0x4e := push; omega
    · exact absurd push (by decide)
    · simp [checkMinimalDataPush,small,neg]
  | a :: b :: rest =>
    simp only [minimalPushOpcode,checkMinimalDataPush,List.length_cons] at len ⊢
    rw [if_neg (by omega),if_neg (by omega),if_neg (by omega)]
    split_ifs <;> simp_all [UInt8.toNat_ofNat]; omega

theorem minimalNumberPush (e : Bytes) (push : ¬ minimalPushOpcode e ≤ opPushData4) :
    opfunc other (minimalPushOpcode e) [] vm = .ok { vm.opState with dstack := e :: vm.dstack } := by
  match e with
  | [] => exact absurd (by decide) push
  | [b] =>
    simp only [minimalPushOpcode] at push ⊢
    split_ifs at push ⊢ with small neg
    · have s : 1 ≤ b.toNat ∧ b.toNat ≤ 16 := small
      have value := op1AddToNat s
      rw [opfuncSmallInt ⟨show 0x51 ≤ (op1 + b - 1).toNat by omega,show (op1 + b - 1).toNat ≤ 0x60 by omega⟩,value]
      simp only [pushInt,pushByteArray,Nat.cast_add]
      rw [show ((0x50 : Nat) : Int) + b.toNat - 0x50 = b.toNat by omega,scriptNumBytesSmallInt (by omega)]
    · subst neg; rw [opfuncNegate]; rfl
    · exact absurd (by decide) push
  | a :: b :: rest =>
    simp only [minimalPushOpcode,List.length_cons] at push
    split_ifs at push with l75
    · exact absurd (show (UInt8.ofNat (rest.length + 1 + 1)).toNat ≤ 0x4e by simp [UInt8.toNat_ofNat]; omega) push
    all_goals exact absurd (by decide) push

theorem minimalPushExecutes (exec : vm.isBranchExecuting = true) (e : Bytes) (small : e.length ≤ maxScriptElementSize) :
    executeOpcode other vm (minimalPushOpcode e) (if minimalPushOpcode e ≤ opPushData4 then e else []) =
      .ok { vm.opState with dstack := e :: vm.dstack } := by
  have legal := notIllegal (minimalPushOpcodeLe e)
  have len : e.length ≤ 65535 := by unfold maxScriptElementSize at small; omega
  by_cases push : minimalPushOpcode e ≤ opPushData4
  · rw [if_pos push,executeOpcodeForward exec legal small fun _ => minimalDataPushChecked e push len]
    exact opfuncDataPush push
  · rw [if_neg push,executeOpcodeForward exec legal (by simp [maxScriptElementSize]) fun p => absurd p push]
    exact minimalNumberPush e push

theorem minimalPushes (other : Handler) (vm : Engine) (exec : vm.isBranchExecuting = true) :
    (∀ op data st, (op ≤ op1Negate ∨ op1 ≤ op ∧ op ≤ op16) → executeOpcode other vm op data = .ok st →
      ∃ e, st.dstack = e :: vm.dstack ∧ op = minimalPushOpcode e) ∧
    ∀ e : Bytes, e.length ≤ maxScriptElementSize →
      executeOpcode other vm (minimalPushOpcode e) (if minimalPushOpcode e ≤ opPushData4 then e else []) =
        .ok { vm.opState with dstack := e :: vm.dstack } :=
  ⟨fun _ _ _ push h => executedPushMinimal exec push h,minimalPushExecutes exec⟩

theorem minimalPushesOnEntry : ∃ e, newEngine [op1] ⟨[⟨[],[]⟩]⟩ 0 = .ok e ∧ e.isBranchExecuting = true ∧
    (∀ op data st, (op ≤ op1Negate ∨ op1 ≤ op ∧ op ≤ op16) → executeOpcode nopHandler e op data = .ok st →
      ∃ b, st.dstack = b :: e.dstack ∧ op = minimalPushOpcode b) ∧
    ∀ b : Bytes, b.length ≤ maxScriptElementSize →
      executeOpcode nopHandler e (minimalPushOpcode b) (if minimalPushOpcode b ≤ opPushData4 then b else []) =
        .ok { e.opState with dstack := b :: e.dstack } :=
  ⟨_,rfl,rfl,minimalPushes nopHandler _ rfl⟩

end Arkade
