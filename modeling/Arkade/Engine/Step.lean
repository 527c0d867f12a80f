import Arkade.Engine.Witness

/-! `Step` and `Execute`. `step` is split where the Go code changes subject:
`scriptBoundary` is the `if vm.tokenizer.Done()` block, run after the last opcode of a
script. `run` is Execute's `for !done` loop with fuel (`none` when the fuel runs out), and
`execute` adds the final `CheckErrorCondition(true)`. A failing `Step` ends Execute, so
the error carries no engine and Step's `done` flag on errors is dropped. -/
namespace Arkade
open ScriptNum Stack Script

def checkValidPC (vm : Engine) : Except ScriptError Unit :=
  if vm.scripts.length ≤ vm.scriptIdx then
    .error (scriptError .errInvalidProgramCounter "script index beyond total scripts")
  else .ok ()

/-- The `Skip empty scripts` check: one empty script at the new index is stepped over. -/
def skipEmpty (vm : Engine) : Engine :=
  if vm.scriptIdx < vm.scripts.length ∧ vm.scripts.getD vm.scriptIdx [] = [] then
    { vm with scriptIdx := vm.scriptIdx + 1 }
  else vm

/-- The `Advance to the next script as needed` switch of Step. -/
def advanceScript (T : Taproot) (vm : Engine) : Except ScriptError Engine :=
  if vm.scriptIdx = 1 ∧ vm.witnessProgram.isSome then
    verifyWitnessProgram T { vm with scriptIdx := vm.scriptIdx + 1 } vm.witness
  else .ok { vm with scriptIdx := vm.scriptIdx + 1 }

/-- The end-of-script block of `Step`. -/
def scriptBoundary (T : Taproot) (vm : Engine) : Except ScriptError (Bool × Engine) :=
  if vm.condStack ≠ [] then
    .error (scriptError .errUnbalancedConditional "end of script reached in conditional execution")
  else
    advanceScript T { vm with astack := [] } >>= fun vm =>
    let vm := { skipEmpty vm with lastCodeSep := 0 }
    if vm.scripts.length ≤ vm.scriptIdx then .ok (true,vm)
    else .ok (false,{ vm with tokenizer := makeScriptTokenizer (vm.scripts.getD vm.scriptIdx []) })

def step (other : Handler) (T : Taproot) (vm : Engine) : Except ScriptError (Bool × Engine) :=
  checkValidPC vm >>= fun _ =>
  match vm.tokenizer.next with
  | (false,tok) => .error (tok.err.getD (scriptError .errInvalidProgramCounter "attempt to step beyond script index"))
  | (true,tok) =>
    let vm := { vm with tokenizer := tok }
    executeOpcode other vm tok.op tok.data >>= fun st =>
    let vm := vm.applyOpState st
    if maxStackSize < vm.dstack.length + vm.astack.length then
      .error (scriptError .errStackOverflow "combined stack size > max allowed")
    else if vm.tokenizer.done then scriptBoundary T vm
    else .ok (false,vm)

/-- Execute's loop: one `Step` per unit of fuel. -/
def run (other : Handler) (T : Taproot) : Nat → Engine → Option (Except ScriptError Engine)
  | 0, _ => none
  | fuel+1, vm =>
    match step other T vm with
    | .error e => some (.error e)
    | .ok (true,vm') => some (.ok vm')
    | .ok (false,vm') => run other T fuel vm'

def execute (other : Handler) (T : Taproot) (fuel : Nat) (vm : Engine) : Option (Except ScriptError Unit) :=
  (run other T fuel vm).map fun r => r >>= fun vm => checkErrorCondition vm true

def nopHandler : Handler := fun _ _ vm => .ok vm.opState

/-- Taproot primitives that accept every key spend and every leaf. -/
def acceptAllTaproot : Taproot :=
  ⟨fun _ _ _ _ => .ok (),fun cb => .ok ⟨[],false,baseLeafVersion,cb⟩,fun _ _ _ => .ok (),fun _ => Hash32.zero⟩

end Arkade
