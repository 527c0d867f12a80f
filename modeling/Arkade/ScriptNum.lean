import Mathlib.Tactic.Ring
import Mathlib.Tactic.IntervalCases
import Mathlib.Tactic.NormNum
import Mathlib.Tactic.Set
import Mathlib.Tactic.SplitIfs
import Mathlib.Data.List.Basic
import Mathlib.Data.String.Basic
import Mathlib.Data.UInt

/-! Byte strings, script errors and the two integer encodings the engine pushes.
Script numbers are the minimal little-endian sign-magnitude numbers of btcd's
scriptnum.go (not under src/, modelled from the spec, §3.3: `scriptNum.Bytes`,
`checkMinimalDataEncoding`, `makeScriptNum`); amounts are the fixed 8-byte
little-endian words of `pushLE64`. The decoder reads back every value of the
4-byte range from its encoding. Nothing is claimed outside int64. -/
namespace Arkade.ScriptNum

abbrev Bytes := List UInt8

/-- The txscript error codes the modelled functions raise; `errUnsupported` is a plain `fmt.Errorf`. -/
inductive ErrorCode where
  | errInvalidIndex | errInvalidStackOperation | errMinimalData | errNumberTooBig
  | errMalformedPush | errReservedOpcode | errElementTooBig | errStackOverflow
  | errInvalidProgramCounter | errUnbalancedConditional | errScriptUnfinished
  | errCleanStack | errEmptyStack | errEvalFalse | errNotPushOnly | errScriptTooBig
  | errWitnessMalleated | errWitnessUnexpected | errWitnessProgramEmpty
  | errDiscourageUpgradeableTaprootVersion | errTaprootMaxSigOps | errWitnessHasNoAnnex
  | errTaprootPubkeyIsEmpty | errDiscourageUpgradeablePubKeyType | errInvalidTaprootSigLen
  | errUnsupported
  deriving DecidableEq, Repr

structure ScriptError where
  code : ErrorCode
  desc : String
  deriving DecidableEq, Repr

/-- Results compare by constructor and payload, so tests of the model run by `decide`. -/
instance instDecidableEqExcept {ε α : Type} [DecidableEq ε] [DecidableEq α] : DecidableEq (Except ε α)
  | .error a, .error b => decidable_of_iff (a = b) ⟨congrArg _,Except.error.inj⟩
  | .ok a, .ok b => decidable_of_iff (a = b) ⟨congrArg _,Except.ok.inj⟩
  | .error _, .ok _ => isFalse nofun
  | .ok _, .error _ => isFalse nofun

def scriptError (code : ErrorCode) (desc : String) : ScriptError := ⟨code,desc⟩

theorem bindOk {ε α β : Type} {x : Except ε α} {f : α → Except ε β} {b : β} (h : (x >>= f) = .ok b) :
    ∃ a, x = .ok a ∧ f a = .ok b := by
  cases x with
  | error e => cases h
  | ok a => exact ⟨a,rfl,h⟩

/-- A fixed 32-byte array (`[32]byte`, `chainhash.Hash`): the length is part of the value. -/
structure Hash32 where
  bytes : Bytes
  size : bytes.length = 32
  deriving DecidableEq

def Hash32.zero : Hash32 := ⟨List.replicate 32 0,rfl⟩

/- Facts about single bytes, checked over all 256 values. -/
set_option maxRecDepth 4000 in
theorem natAnd128 : ∀ k < 256, (k &&& 128 = 0 ↔ k < 128) := by decide

set_option maxRecDepth 4000 in
theorem natOr128 : ∀ k < 128, k ||| 128 = k + 128 := by decide

@[simp] theorem byteOfNat (n : Nat) : (UInt8.ofNat n).toNat = n % 256 := by
  simp [UInt8.ofNat,UInt8.toNat,BitVec.toNat_ofNat]

theorem byteAnd7f (x : UInt8) : (x &&& 0x7f).toNat = x.toNat % 128 := by
  simpa [UInt8.toNat,BitVec.toNat_and] using Nat.and_pow_two_sub_one_eq_mod x.toNat 7

theorem byteAnd80 (x : UInt8) : x &&& 0x80 = 0 ↔ x.toNat < 128 := by
  rw [← natAnd128 x.toNat x.toNat_lt]
  constructor
  · intro e; simpa [UInt8.toNat,BitVec.toNat_and] using congrArg UInt8.toNat e
  · intro e; apply UInt8.eq_of_toBitVec_eq; apply BitVec.eq_of_toNat_eq
    simpa [UInt8.toNat,BitVec.toNat_and] using e

theorem byteOr80 (x : UInt8) (h : x.toNat < 128) : (x ||| 0x80).toNat = x.toNat + 128 := by
  simpa [UInt8.toNat,BitVec.toNat_or] using natOr128 x.toNat h

@[simp] theorem byte80 : (0x80 : UInt8).toNat = 128 := rfl

@[simp] theorem byte00 : (0x00 : UInt8).toNat = 0 := rfl

theorem byteEqZero (x : UInt8) : x = 0 ↔ x.toNat = 0 :=
  ⟨fun h => by simp [h],fun h => UInt8.eq_of_toBitVec_eq (BitVec.eq_of_toNat_eq h)⟩

/-- The little-endian value of a byte string (the `result |= int64(val) << 8*i` loop). -/
def leValue : Bytes → Nat
  | [] => 0
  | b :: bs => b.toNat + 256 * leValue bs

@[simp] theorem leValueNil : leValue [] = 0 := rfl

@[simp] theorem leValueCons (b : UInt8) (bs : Bytes) : leValue (b :: bs) = b.toNat + 256 * leValue bs := rfl

theorem leValueAppend (xs ys : Bytes) : leValue (xs ++ ys) = leValue xs + 256 ^ xs.length * leValue ys := by
  induction xs with
  | nil => simp
  | cons x xs ih => simp [ih,pow_succ]; ring

theorem leValueLt (xs : Bytes) : leValue xs < 256 ^ xs.length := by
  induction xs with
  | nil => simp
  | cons x xs ih => simp [pow_succ]; have := x.toNat_lt; omega

/-- `k` little-endian bytes of `n` modulo `256^k` (`binary.LittleEndian.PutUint*`). -/
def leBytes : Nat → Nat → Bytes
  | 0, _ => []
  | k+1, n => UInt8.ofNat (n % 256) :: leBytes k (n / 256)

theorem leValueLeBytes (k n : Nat) : leValue (leBytes k n) = n % 256 ^ k := by
  induction k generalizing n with
  | zero => simp [leBytes,Nat.mod_one]
  | succ k ih =>
    simp only [leBytes,leValueCons,byteOfNat,ih,Nat.mod_mod,pow_succ]
    rw [mul_comm (256 ^ k) 256,Nat.mod_mul]

theorem leBytesLength (k n : Nat) : (leBytes k n).length = k := by
  induction k generalizing n with
  | zero => rfl
  | succ k ih => simp [leBytes,ih]

/-- `pushLE64`: `binary.LittleEndian.PutUint64` of an amount. -/
def putUint64LE (v : UInt64) : Bytes := leBytes 8 v.toNat

/-- The `for n > 0` loop of `scriptNum.Bytes`; eight rounds cover every int64 magnitude. -/
def magnitudeBytes : Nat → Nat → Bytes
  | 0, _ => []
  | rounds+1, n => if n = 0 then [] else UInt8.ofNat (n % 256) :: magnitudeBytes rounds (n / 256)

/-- `scriptNum.Bytes`. -/
def scriptNumBytes (n : Int) : Bytes :=
  if n = 0 then [] else
  let result := magnitudeBytes 8 n.natAbs
  let last := result.getLast?.getD 0
  if last &&& 0x80 ≠ 0 then result ++ [if n < 0 then 0x80 else 0x00]
  else if n < 0 then result.dropLast ++ [last ||| 0x80]
  else result

/-- `checkMinimalDataEncoding`. -/
def checkMinimalDataEncoding (v : Bytes) : Except ScriptError Unit :=
  match v.reverse with
  | last :: prev :: _ =>
    if last &&& 0x7f = 0 ∧ prev &&& 0x80 = 0 then
      .error (scriptError .errMinimalData "numeric value is not minimally encoded")
    else .ok ()
  | [last] =>
    if last &&& 0x7f = 0 then .error (scriptError .errMinimalData "numeric value is not minimally encoded")
    else .ok ()
  | [] => .ok ()

def maxScriptNumLen : Nat := 4

/-- The value `makeScriptNum` reads once length and minimality are checked. -/
def scriptNumValue (v : Bytes) : Int :=
  match v.getLast? with
  | none => 0
  | some last =>
    if last &&& 0x80 ≠ 0 then -((leValue v - 128 * 256 ^ (v.length - 1) : Nat) : Int)
    else (leValue v : Int)

/-- `makeScriptNum`: length bound, then optional minimality, then the value. -/
def makeScriptNum (v : Bytes) (requireMinimal : Bool) (scriptNumLen : Nat) : Except ScriptError Int := do
  if v.length > scriptNumLen then
    throw (scriptError .errNumberTooBig "numeric value exceeds the max allowed length")
  if requireMinimal then checkMinimalDataEncoding v
  pure (scriptNumValue v)

/-- `asBool`: any non-zero byte is true, except a lone sign bit in the top byte. -/
def asBool : Bytes → Bool
  | [] => false
  | b :: rest => if b ≠ 0 then !(rest = [] ∧ b = 0x80) else asBool rest

/- The magnitude loop splits into lower bytes and a non-zero top byte. -/
theorem magnitudeBytesSplit (rounds n : Nat) (pos : 0 < n) (bound : n < 256 ^ rounds) :
    ∃ init top, magnitudeBytes rounds n = init ++ [top] ∧ 0 < top.toNat ∧
      n = leValue init + 256 ^ init.length * top.toNat := by
  induction rounds generalizing n with
  | zero => simp at bound; omega
  | succ rounds ih =>
    have hn : n ≠ 0 := by omega
    by_cases small : n / 256 = 0
    · have : n < 256 := by omega
      refine ⟨[],UInt8.ofNat n,?_,by simp [Nat.mod_eq_of_lt this]; omega,by simp [Nat.mod_eq_of_lt this]⟩
      cases rounds <;> simp [magnitudeBytes,hn,small,Nat.mod_eq_of_lt this]
    · obtain ⟨init,top,eq,nz,value⟩ :=
        ih (n / 256) (by omega) (by rw [pow_succ] at bound; omega)
      refine ⟨UInt8.ofNat (n % 256) :: init,top,by simp [magnitudeBytes,hn,eq],nz,?_⟩
      simp only [leValueCons,byteOfNat,List.length_cons,pow_succ]
      have := Nat.mod_add_div n 256
      rw [Nat.mod_mod,Nat.mul_right_comm]; omega

theorem makeScriptNumChecked {v : Bytes} (len : v.length ≤ maxScriptNumLen)
    (minimal : checkMinimalDataEncoding v = .ok ()) :
    makeScriptNum v true maxScriptNumLen = .ok (scriptNumValue v) := by
  simp [makeScriptNum,Nat.not_lt.mpr len,minimal]

@[simp] theorem leValueSnoc (xs : Bytes) (b : UInt8) :
    leValue (xs ++ [b]) = leValue xs + 256 ^ xs.length * b.toNat := by
  simp [leValueAppend]

theorem scriptNumValueSnoc (xs : Bytes) (b : UInt8) : scriptNumValue (xs ++ [b]) =
    if b.toNat < 128 then ((leValue xs + 256 ^ xs.length * b.toNat : Nat) : Int)
    else -((leValue xs + 256 ^ xs.length * (b.toNat - 128) : Nat) : Int) := by
  simp only [scriptNumValue,List.getLast?_concat,ne_eq,byteAnd80,leValueSnoc,
    List.length_append,List.length_singleton,Nat.add_sub_cancel]
  by_cases h : b.toNat < 128
  · simp [h]
  · have := Nat.mul_le_mul_left (256 ^ xs.length) (Nat.le_of_not_lt h)
    simp only [h,not_false_eq_true,if_true,if_false,Nat.mul_sub]
    congr 3; omega

theorem checkMinimalLowBits (xs : Bytes) (b : UInt8) (h : b.toNat % 128 ≠ 0) :
    checkMinimalDataEncoding (xs ++ [b]) = .ok () := by
  have low : ¬ (b &&& 0x7f = 0) := by rw [byteEqZero,byteAnd7f]; exact h
  unfold checkMinimalDataEncoding
  split <;> simp_all [List.reverse_append]

theorem checkMinimalSignByte (xs : Bytes) (a b : UInt8) (h : 128 ≤ a.toNat) :
    checkMinimalDataEncoding (xs ++ [a,b]) = .ok () := by
  have high : ¬ (a &&& 0x80 = 0) := by rw [byteAnd80]; omega
  simp [checkMinimalDataEncoding,List.reverse_append,high]

theorem pow256Lt {k : Nat} (h : 256 ^ k < 2 ^ 31) : k ≤ 3 := by
  by_contra hk
  have : 256 ^ 4 ≤ 256 ^ k := Nat.pow_le_pow_right (by decide) (by omega)
  omega

theorem pow256LtTop {k : Nat} (h : 128 * 256 ^ k < 2 ^ 31) : k ≤ 2 := by
  by_contra hk
  have : 256 ^ 3 ≤ 256 ^ k := Nat.pow_le_pow_right (by decide) (by omega)
  omega

theorem makeScriptNumBytes (n : Int) (range : n.natAbs < 2 ^ 31) :
    makeScriptNum (scriptNumBytes n) true maxScriptNumLen = .ok n := by
  by_cases zero : n = 0
  · subst n; rfl
  obtain ⟨init,top,eq,topPos,value⟩ :=
    magnitudeBytesSplit 8 n.natAbs (by omega) (by norm_num; omega)
  have lt := leValueLt init
  have len : 256 ^ init.length < 2 ^ 31 := by
    have := Nat.le_mul_of_pos_right (256 ^ init.length) topPos; omega
  have bytes : scriptNumBytes n = if top &&& 0x80 ≠ 0 then init ++ [top,if n < 0 then 0x80 else 0x00]
      else if n < 0 then init ++ [top ||| 0x80] else init ++ [top] := by
    simp [scriptNumBytes,zero,eq]
  by_cases high : top.toNat < 128
  · have hl := pow256Lt len
    have sign := (byteAnd80 top).2 high
    by_cases neg : n < 0
    · have or80 := byteOr80 top high
      rw [bytes,if_neg (by simpa using sign),if_pos neg,
        makeScriptNumChecked (by simp [maxScriptNumLen]; omega) (checkMinimalLowBits _ _ (by omega)),
        scriptNumValueSnoc,if_neg (by omega)]
      rw [or80,Nat.add_sub_cancel]; exact congrArg _ (by omega)
    · rw [bytes,if_neg (by simpa using sign),if_neg neg,
        makeScriptNumChecked (by simp [maxScriptNumLen]; omega) (checkMinimalLowBits _ _ (by omega)),
        scriptNumValueSnoc,if_pos high]
      exact congrArg _ (by omega)
  · have hl : init.length ≤ 2 := pow256LtTop <| by
      have := Nat.mul_le_mul_left (256 ^ init.length) (Nat.le_of_not_lt high); omega
    have sign : top &&& 0x80 ≠ 0 := by rw [Ne,byteAnd80]; exact high
    have split : init ++ [top,if n < 0 then 0x80 else 0x00] = (init ++ [top]) ++ [if n < 0 then 0x80 else 0x00] := by simp
    have whole : leValue (init ++ [top]) = n.natAbs := by rw [leValueSnoc,value]
    rw [bytes,if_pos sign,makeScriptNumChecked (by simp [maxScriptNumLen]; omega)
      (checkMinimalSignByte _ _ _ (by omega)),split,scriptNumValueSnoc,whole]
    by_cases neg : n < 0
    · simp only [neg,if_true,byte80,lt_irrefl,if_false,Nat.sub_self,mul_zero,add_zero]
      exact congrArg _ (by omega)
    · simp only [neg,if_false,byte00,Nat.zero_lt_succ,if_true,mul_zero,add_zero]
      exact congrArg _ (by omega)

theorem makeScriptNumValue {v : Bytes} {x : Int} (h : makeScriptNum v true maxScriptNumLen = .ok x) :
    v.length ≤ maxScriptNumLen ∧ x = scriptNumValue v := by
  by_cases len : v.length > maxScriptNumLen
  · simp [makeScriptNum,len] at h; cases h
  cases hm : checkMinimalDataEncoding v with
  | error e => simp [makeScriptNum,len,hm] at h
  | ok u =>
    simp [makeScriptNum,len,hm] at h
    exact ⟨by omega,h.symm⟩

theorem scriptNumValueRange (v : Bytes) (len : v.length ≤ maxScriptNumLen) :
    (scriptNumValue v).natAbs < 2 ^ 31 := by
  rcases List.eq_nil_or_concat v with rfl | ⟨init,last,rfl⟩
  · simp [scriptNumValue]
  rw [List.concat_eq_append] at *
  have pow : 128 * 256 ^ init.length ≤ 2 ^ 31 := by
    have : 256 ^ init.length ≤ 256 ^ 3 :=
      Nat.pow_le_pow_right (by norm_num) (by simp [maxScriptNumLen] at len; omega)
    omega
  have lt := leValueLt init
  have lastLt := last.toNat_lt
  rw [scriptNumValueSnoc]
  split_ifs with h
  · have := Nat.mul_le_mul_left (256 ^ init.length) (show last.toNat ≤ 127 by omega)
    simp only [Int.natAbs_ofNat]; omega
  · have := Nat.mul_le_mul_left (256 ^ init.length) (show last.toNat - 128 ≤ 127 by omega)
    simp only [Int.natAbs_neg,Int.natAbs_ofNat]; omega

theorem byteToNatInj {x y : UInt8} (h : x.toNat = y.toNat) : x = y :=
  UInt8.eq_of_toBitVec_eq (BitVec.eq_of_toNat_eq h)

theorem magnitudeBytesZero (rounds : Nat) : magnitudeBytes rounds 0 = [] := by
  cases rounds <;> rfl

theorem leValueSnocPos (xs : Bytes) {b : UInt8} (nz : b ≠ 0) : 0 < leValue (xs ++ [b]) := by
  have : 0 < b.toNat := Nat.pos_of_ne_zero fun h => nz ((byteEqZero b).2 h)
  rw [leValueSnoc]; exact Nat.add_pos_right _ (Nat.mul_pos (Nat.pos_pow_of_pos _ (by decide)) this)

theorem magnitudeBytesLeValue (init : Bytes) {top : UInt8} (nz : top ≠ 0) (rounds : Nat)
    (len : init.length < rounds) : magnitudeBytes rounds (leValue (init ++ [top])) = init ++ [top] := by
  induction init generalizing rounds with
  | nil =>
    obtain ⟨r,rfl⟩ := Nat.exists_eq_add_of_lt len
    have lt := top.toNat_lt
    have value : leValue ([] ++ [top]) = top.toNat := by simp [leValue]
    have pos := leValueSnocPos [] nz
    rw [value] at pos ⊢
    simp only [magnitudeBytes,if_neg (Nat.pos_iff_ne_zero.1 pos),Nat.div_eq_of_lt lt,magnitudeBytesZero]
    exact congrArg (· :: []) (byteToNatInj (by simp [Nat.mod_eq_of_lt lt]))
  | cons x init ih =>
    obtain ⟨r,rfl⟩ := Nat.exists_eq_add_of_lt len
    have pos := leValueSnocPos init nz
    have lt := x.toNat_lt
    have low : (x.toNat + 256 * leValue (init ++ [top])) % 256 = x.toNat := by omega
    have high : (x.toNat + 256 * leValue (init ++ [top])) / 256 = leValue (init ++ [top]) := by omega
    have nz' : x.toNat + 256 * leValue (init ++ [top]) ≠ 0 := by omega
    simp only [List.cons_append,leValueCons,magnitudeBytes,low,high,if_neg nz']
    rw [ih _ (by simp only [List.length_cons]; omega)]
    exact congrArg (· :: _) (byteToNatInj (by simp [Nat.mod_eq_of_lt lt]))

theorem scriptNumBytesOf {n : Int} (nz : n ≠ 0) {init : Bytes} {top : UInt8}
    (mag : magnitudeBytes 8 n.natAbs = init ++ [top]) :
    scriptNumBytes n = if top &&& 0x80 ≠ 0 then init ++ [top,if n < 0 then 0x80 else 0x00]
      else if n < 0 then init ++ [top ||| 0x80] else init ++ [top] := by
  simp [scriptNumBytes,nz,mag]

theorem makeScriptNumMinimal {v : Bytes} {x : Int} (h : makeScriptNum v true maxScriptNumLen = .ok x) :
    checkMinimalDataEncoding v = .ok () := by
  by_cases len : v.length > maxScriptNumLen
  · simp [makeScriptNum,len] at h; cases h
  cases hm : checkMinimalDataEncoding v with
  | error e => simp [makeScriptNum,len,hm] at h
  | ok u => rfl

theorem minimalSignByte {init : Bytes} {last : UInt8} (minimal : checkMinimalDataEncoding (init ++ [last]) = .ok ())
    (bare : last.toNat % 128 = 0) : ∃ init' prev, init = init' ++ [prev] ∧ 128 ≤ prev.toNat := by
  have low : last &&& 0x7f = 0 := by rw [byteEqZero,byteAnd7f]; exact bare
  rcases List.eq_nil_or_concat init with rfl | ⟨init',prev,rfl⟩
  · simp [checkMinimalDataEncoding,low] at minimal
  · rw [List.concat_eq_append] at minimal ⊢
    refine ⟨init',prev,rfl,?_⟩
    by_contra small
    simp [checkMinimalDataEncoding,List.reverse_append,low,(byteAnd80 prev).2 (by omega)] at minimal

theorem makeScriptNumCanonical {v : Bytes} {x : Int} (h : makeScriptNum v true maxScriptNumLen = .ok x) :
    scriptNumBytes x = v := by
  obtain ⟨len,rfl⟩ := makeScriptNumValue h
  have minimal := makeScriptNumMinimal h
  rcases List.eq_nil_or_concat v with rfl | ⟨init,last,rfl⟩
  · rfl
  rw [List.concat_eq_append] at *
  have short : init.length < 8 := by simp [maxScriptNumLen] at len; omega
  have lastLt := last.toNat_lt
  rw [scriptNumValueSnoc]
  by_cases bare : last.toNat % 128 = 0
  · -- a bare sign byte (00 or 80) above a byte with bit 7 set
    obtain ⟨init',prev,rfl,prevHigh⟩ := minimalSignByte minimal bare
    have prevNz : prev ≠ 0 := fun e => by simp [e] at prevHigh
    have mag := magnitudeBytesLeValue init' prevNz 8 (by simp at short; omega)
    have pos := leValueSnocPos init' prevNz
    have signed : prev &&& 0x80 ≠ 0 := by rw [Ne,byteAnd80]; omega
    by_cases sign : last.toNat < 128
    · have zero : last.toNat = 0 := by omega
      rw [if_pos sign,zero,mul_zero,add_zero,scriptNumBytesOf (by omega) (by rw [Int.natAbs_ofNat]; exact mag),
        if_pos signed,if_neg (by omega)]
      simp only [List.append_assoc,List.singleton_append]
      exact congrArg (init' ++ [prev,·]) (byteToNatInj (by simp [zero]))
    · have sign80 : last.toNat = 128 := by omega
      rw [if_neg sign,sign80,Nat.sub_self,mul_zero,add_zero,
        scriptNumBytesOf (by omega) (by rw [Int.natAbs_neg,Int.natAbs_ofNat]; exact mag),if_pos signed,if_pos (by omega)]
      simp only [List.append_assoc,List.singleton_append]
      exact congrArg (init' ++ [prev,·]) (byteToNatInj (by simp [sign80]))
  · -- the top byte carries magnitude bits: bit 7 is the sign
    by_cases sign : last.toNat < 128
    · have lastNz : last ≠ 0 := fun e => by simp [e] at bare
      have pos := leValueSnocPos init lastNz
      rw [if_pos sign,← leValueSnoc,scriptNumBytesOf (by omega)
          (by rw [Int.natAbs_ofNat]; exact magnitudeBytesLeValue init lastNz 8 short),
        if_neg (by rw [not_not,byteAnd80]; exact sign),if_neg (by omega)]
    · set m := UInt8.ofNat (last.toNat - 128)
      have mVal : m.toNat = last.toNat - 128 := by simp [m]; omega
      have mNz : m ≠ 0 := fun e => by rw [e] at mVal; simp at mVal; omega
      have pos := leValueSnocPos init mNz
      rw [if_neg sign,← mVal,← leValueSnoc,scriptNumBytesOf (by omega)
          (by rw [Int.natAbs_neg,Int.natAbs_ofNat]; exact magnitudeBytesLeValue init mNz 8 short),
        if_neg (by rw [not_not,byteAnd80]; omega),if_pos (by omega)]
      exact congrArg (init ++ [·]) (byteToNatInj (by rw [byteOr80 m (by omega),mVal]; omega))

example : scriptNumBytes 65535 = [0xff,0xff,0x00] := by decide
example : scriptNumBytes (-1) = [0x81] := by decide

theorem magnitudeBytesLength (rounds n : Nat) : (magnitudeBytes rounds n).length ≤ rounds := by
  induction rounds generalizing n with
  | zero => simp [magnitudeBytes]
  | succ r ih => by_cases h : n = 0 <;> simp [magnitudeBytes,h]; exact ih _

theorem scriptNumBytesLength (n : Int) : (scriptNumBytes n).length ≤ 9 := by
  have := magnitudeBytesLength 8 n.natAbs
  dsimp only [scriptNumBytes]
  split_ifs <;> simp only [List.length_append,List.length_singleton,List.length_dropLast,
    List.length_nil] at * <;> omega

end Arkade.ScriptNum
