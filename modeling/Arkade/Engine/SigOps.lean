import Arkade.Engine.Spend

/-! The sig-ops budget of the taproot context (`sigOpsDelta`, `tallysigOp` and
`newTaprootExecutionCtx` of part_002). The budget is a Go int32, so each result wraps
(`toInt32`). verifyWitnessProgram starts it at `int32(50 + int32(S))` for the witness's
serialized size `S`, and each sig op subtracts 50 and fails once the budget is negative.
For every witness at most `(50 + S)/50` sig ops succeed. The arithmetic is exact while
`S < 2^31 - 50`, and it wraps from there on. -/
namespace Arkade
open ScriptNum Script

/-- `tallysigOp`: the budget is lowered before the check. -/
def tallysigOp (t : TaprootExecutionCtx) : TaprootExecutionCtx × Except ScriptError Unit :=
  let t := { t with sigOpsBudget := toInt32 (t.sigOpsBudget - sigOpsDelta) }
  (t,if t.sigOpsBudget < 0 then .error (scriptError .errTaprootMaxSigOps "") else .ok ())

/-- `n` sig ops in a row, each returning its first error. -/
def tallysigOps : Nat → TaprootExecutionCtx → Except ScriptError TaprootExecutionCtx
  | 0, t => .ok t
  | n+1, t => (tallysigOp t).2 >>= fun _ => tallysigOps n (tallysigOp t).1

section Int32

theorem toInt32Of {a : Int} (lo : -2 ^ 31 ≤ a) (hi : a < 2 ^ 31) : toInt32 a = a := by
  unfold toInt32; omega

theorem toInt32SubToInt32 (a c : Int) : toInt32 (toInt32 a - c) = toInt32 (a - c) := by
  unfold toInt32; omega

theorem toInt32Idem (a : Int) : toInt32 (toInt32 a) = toInt32 a := by
  unfold toInt32; omega

end Int32

theorem tallysigOpExact {t : TaprootExecutionCtx} (lo : -2 ^ 31 + 50 ≤ t.sigOpsBudget) (hi : t.sigOpsBudget < 2 ^ 31 + 50) :
    tallysigOp t = ({ t with sigOpsBudget := t.sigOpsBudget - 50 },
      if t.sigOpsBudget - 50 < 0 then .error (scriptError .errTaprootMaxSigOps "") else .ok ()) := by
  simp only [tallysigOp,sigOpsDelta,toInt32Of (a := t.sigOpsBudget - 50) (by omega) (by omega)]

theorem tallysigOpsExact (n : Nat) (t t' : TaprootExecutionCtx) (lo : 0 ≤ t.sigOpsBudget) (hi : t.sigOpsBudget < 2 ^ 31) :
    tallysigOps n t = .ok t' ↔ 50 * n ≤ t.sigOpsBudget ∧ t' = { t with sigOpsBudget := t.sigOpsBudget - 50 * n } := by
  induction n generalizing t with
  | zero => simp [tallysigOps,eq_comm,lo]
  | succ n ih =>
    rw [tallysigOps,tallysigOpExact (by omega) (by omega)]
    by_cases neg : t.sigOpsBudget - 50 < 0
    · simp only [if_pos neg]
      exact ⟨fun h => (by cases h),fun ⟨le,_⟩ => by omega⟩
    · simp only [if_neg neg,bind,Except.bind]
      rw [ih _ (by simpa using not_lt.1 neg) (by simp; omega)]
      have budget : t.sigOpsBudget - 50 - 50 * n = t.sigOpsBudget - 50 * (n + 1 : Nat) := by push_cast; ring
      dsimp only
      rw [budget]
      exact and_congr_left fun _ => by omega

theorem tallysigOpFromStart {t : TaprootExecutionCtx} {x : Int} (hb : t.sigOpsBudget = toInt32 (sigOpsDelta + toInt32 x)) :
    tallysigOp t = ({ t with sigOpsBudget := toInt32 x },
      if toInt32 x < 0 then .error (scriptError .errTaprootMaxSigOps "") else .ok ()) := by
  have first : toInt32 (t.sigOpsBudget - sigOpsDelta) = toInt32 x := by
    rw [hb,toInt32SubToInt32,add_sub_cancel_left,toInt32Idem]
  simp only [tallysigOp,first]

theorem tallysigOpsFromStart (n : Nat) {t t' : TaprootExecutionCtx} {S : Nat}
    (hb : t.sigOpsBudget = toInt32 (sigOpsDelta + toInt32 S)) (h : tallysigOps n t = .ok t') : n ≤ (50 + S) / 50 := by
  cases n with
  | zero => exact Nat.zero_le _
  | succ n =>
    rw [tallysigOps,tallysigOpFromStart hb] at h
    dsimp only at h
    split at h
    · cases h
    rename_i nonneg
    have below : toInt32 S < 2 ^ 31 ∧ toInt32 S ≤ S := by unfold toInt32 at nonneg ⊢; omega
    have := ((tallysigOpsExact n _ t' (by simpa using nonneg) (by simpa using below.1)).1 h).1
    simp only at this
    omega

theorem verifyWitnessProgramBudget {T : Taproot} {vm vm' : Engine} {w : List Bytes}
    (h : verifyWitnessProgram T vm w = .ok vm') :
    ∃ ctx, vm'.taprootCtx = some ctx ∧ ctx.sigOpsBudget = toInt32 (sigOpsDelta + toInt32 (witnessSerializeSize w)) := by
  obtain ⟨_,spend,-,-,-,-,h⟩ := verifyWitnessProgramOk h
  cases spend with
  | keySpend => cases h; exact ⟨_,rfl,rfl⟩
  | scriptPath =>
    simp only [applyWitnessSpend] at h
    split_ifs at h
    cases h
    exact ⟨_,rfl,rfl⟩

theorem witnessSerializeSizeSingle (b : Bytes) :
    witnessSerializeSize [b] = 1 + (varIntSerializeSize b.length + b.length) := by
  simp [witnessSerializeSize,varIntSerializeSize]

theorem sigOpsBudgetBound {T : Taproot} {vm vm' : Engine} {w : List Bytes} (h : verifyWitnessProgram T vm w = .ok vm') :
    ∃ ctx, vm'.taprootCtx = some ctx ∧ ctx.sigOpsBudget = toInt32 (sigOpsDelta + toInt32 (witnessSerializeSize w)) ∧
      (∀ n ctx', tallysigOps n ctx = .ok ctx' → n ≤ (50 + witnessSerializeSize w) / 50) ∧
      (ctx.sigOpsBudget = 50 + witnessSerializeSize w ↔ witnessSerializeSize w < 2 ^ 31 - 50) ∧
      (witnessSerializeSize w < 2 ^ 31 - 50 → ∀ n ctx', tallysigOps n ctx = .ok ctx' ↔
        n ≤ (50 + witnessSerializeSize w) / 50 ∧ ctx' = { ctx with sigOpsBudget := 50 + witnessSerializeSize w - 50 * n }) := by
  obtain ⟨ctx,hc,hb⟩ := verifyWitnessProgramBudget h
  have exact : ctx.sigOpsBudget = 50 + witnessSerializeSize w ↔ witnessSerializeSize w < 2 ^ 31 - 50 := by
    rw [hb]; unfold toInt32 sigOpsDelta; omega
  refine ⟨ctx,hc,hb,fun n _ => tallysigOpsFromStart n hb,exact,fun small n ctx' => ?_⟩
  have start := exact.2 small
  rw [tallysigOpsExact n ctx ctx' (by omega) (by omega),start]
  constructor <;> rintro ⟨le,rfl⟩ <;> exact ⟨by omega,rfl⟩

theorem keySpendSigOpsBudget : ∃ e vm', newEngine sampleProgramSpk (leafSpendTx [op1]) 0 = .ok e ∧
    verifyWitnessProgram acceptAllTaproot e [[0x01]] = .ok vm' ∧
    ∃ ctx, vm'.taprootCtx = some ctx ∧ ctx.sigOpsBudget = toInt32 (sigOpsDelta + toInt32 (witnessSerializeSize [[0x01]])) ∧
      (∀ n ctx', tallysigOps n ctx = .ok ctx' → n ≤ (50 + witnessSerializeSize [[0x01]]) / 50) ∧
      (ctx.sigOpsBudget = 50 + witnessSerializeSize [[0x01]] ↔ witnessSerializeSize [[0x01]] < 2 ^ 31 - 50) ∧
      (witnessSerializeSize [[0x01]] < 2 ^ 31 - 50 → ∀ n ctx', tallysigOps n ctx = .ok ctx' ↔
        n ≤ (50 + witnessSerializeSize [[0x01]]) / 50 ∧
          ctx' = { ctx with sigOpsBudget := 50 + witnessSerializeSize [[0x01]] - 50 * n }) := by
  obtain ⟨e,vm',he,hv⟩ : ∃ e vm', newEngine sampleProgramSpk (leafSpendTx [op1]) 0 = .ok e ∧
      verifyWitnessProgram acceptAllTaproot e [[0x01]] = .ok vm' := ⟨_,_,rfl,rfl⟩
  exact ⟨e,vm',he,hv,sigOpsBudgetBound hv⟩

theorem sigOpsBudgetWraps : ∃ e vm' ctx, newEngine sampleProgramSpk (leafSpendTx [op1]) 0 = .ok e ∧
    verifyWitnessProgram acceptAllTaproot e [List.replicate (2 ^ 31 - 56) 0] = .ok vm' ∧ vm'.taprootCtx = some ctx ∧
    witnessSerializeSize [List.replicate (2 ^ 31 - 56) 0] = 2 ^ 31 - 50 ∧ ctx.sigOpsBudget = -2 ^ 31 ∧
    tallysigOp ctx = ({ ctx with sigOpsBudget := 2 ^ 31 - 50 },.ok ()) := by
  have size : witnessSerializeSize [List.replicate (2 ^ 31 - 56) 0] = 2 ^ 31 - 50 := by
    rw [witnessSerializeSizeSingle,List.length_replicate]; simp [varIntSerializeSize]
  have keySpend : ∀ sig, ∃ e vm', newEngine sampleProgramSpk (leafSpendTx [op1]) 0 = .ok e ∧
      verifyWitnessProgram acceptAllTaproot e [sig] = .ok vm' := fun _ => ⟨_,_,rfl,rfl⟩
  obtain ⟨e,vm',he,hv⟩ := keySpend (List.replicate (2 ^ 31 - 56) 0)
  obtain ⟨ctx,hc,hb⟩ := verifyWitnessProgramBudget hv
  rw [size] at hb
  refine ⟨e,vm',ctx,he,hv,hc,size,by rw [hb]; unfold toInt32 sigOpsDelta; omega,?_⟩
  rw [tallysigOpFromStart hb,toInt32Of (by omega) (by omega)]
  norm_num

end Arkade
