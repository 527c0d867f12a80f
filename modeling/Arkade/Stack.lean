import Arkade.ScriptNum

/-! The data and alternate stacks (btcd stack.go, not under src/, modelled from the
spec §4.2), kept top first. `NewEngine` turns `verifyMinimalData` on for both stacks
and nothing turns it off, so `popInt` always checks minimal encoding. -/
namespace Arkade
open ScriptNum

abbrev Stack := List Bytes

namespace Stack

def pushByteArray (s : Stack) (so : Bytes) : Stack := so :: s

def pushInt (s : Stack) (n : Int) : Stack := pushByteArray s (scriptNumBytes n)

def popByteArray : Stack → Except ScriptError (Bytes × Stack)
  | [] => .error (scriptError .errInvalidStackOperation "index 0 is invalid for stack size 0")
  | so :: s => .ok (so,s)

def popInt (s : Stack) : Except ScriptError (Int × Stack) := do
  let (so,s) ← popByteArray s
  let n ← makeScriptNum so true maxScriptNumLen
  pure (n,s)

def popBool (s : Stack) : Except ScriptError (Bool × Stack) := do
  let (so,s) ← popByteArray s
  pure (asBool so,s)

/-- `setStack`: the last item of `data` becomes the top. -/
def setStack (data : List Bytes) : Stack := data.reverse

/-- A stack element that `popInt` reads as `n`. -/
def Encodes (e : Bytes) (n : Int) : Prop := makeScriptNum e true maxScriptNumLen = .ok n

instance (e n) : Decidable (Encodes e n) := by unfold Encodes; infer_instance

@[simp] theorem popByteArrayCons (so : Bytes) (s : Stack) : popByteArray (so :: s) = .ok (so,s) := rfl

theorem popIntCons {e : Bytes} {n : Int} (h : Encodes e n) (s : Stack) : popInt (e :: s) = .ok (n,s) := by
  simp only [popInt,popByteArrayCons,bind,Except.bind]; rw [h]; rfl

theorem encodesScriptNumBytes (n : Int) (range : n.natAbs < 2 ^ 31) : Encodes (scriptNumBytes n) n :=
  makeScriptNumBytes n range

theorem popIntPushInt (s : Stack) (n : Int) (range : n.natAbs < 2 ^ 31) : popInt (pushInt s n) = .ok (n,s) :=
  popIntCons (encodesScriptNumBytes n range) s

theorem encodesRange {e : Bytes} {n : Int} (h : Encodes e n) : n.natAbs < 2 ^ 31 := by
  obtain ⟨len,rfl⟩ := makeScriptNumValue h
  exact scriptNumValueRange e len

theorem encodesIff (e : Bytes) (n : Int) : Encodes e n ↔ e = scriptNumBytes n ∧ n.natAbs < 2 ^ 31 :=
  ⟨fun h => ⟨(makeScriptNumCanonical h).symm,encodesRange h⟩,fun ⟨he,range⟩ => he ▸ encodesScriptNumBytes n range⟩

theorem popIntIffPushInt (s s' : Stack) (n : Int) :
    popInt s = .ok (n,s') ↔ s = pushInt s' n ∧ n.natAbs < 2 ^ 31 := by
  constructor
  · intro h
    cases s with
    | nil => cases h
    | cons e s =>
      obtain ⟨_,⟨⟩,h⟩ := bindOk h
      obtain ⟨m,hm,⟨⟩⟩ := bindOk h
      exact (encodesIff e n).1 hm |>.imp (congrArg (· :: _)) id
  · rintro ⟨rfl,range⟩
    exact popIntPushInt s' n range

end Stack

end Arkade
