import Arkade.Engine.Step

/-! Runs of Execute from an engine NewEngine built. Each successful `step` is described once
(`stepOk`, `scriptBoundaryOk`, `verifyWitnessProgramOk`); the invariants below are derived
from those descriptions. -/
namespace Arkade
open ScriptNum Stack Script

variable {other : Handler} {T : Taproot}

/-- The engine after the opcode of a Step ran, before the end-of-script block. -/
def afterOpcode (vm : Engine) (tok : ScriptTokenizer) (st : OpState) : Engine :=
  { vm with tokenizer := tok }.applyOpState st

theorem stepOk {vm vm' : Engine} {d : Bool} (h : step other T vm = .ok (d,vm')) :
    vm.scriptIdx < vm.scripts.length ∧ ∃ tok st, vm.tokenizer.next = (true,tok) ∧
      executeOpcode other { vm with tokenizer := tok } tok.op tok.data = .ok st ∧
      (afterOpcode vm tok st).dstack.length + (afterOpcode vm tok st).astack.length ≤ maxStackSize ∧
      if tok.done then scriptBoundary T (afterOpcode vm tok st) = .ok (d,vm')
      else d = false ∧ vm' = afterOpcode vm tok st := by
  obtain ⟨_,pc,h⟩ := bindOk h
  refine ⟨by simp only [checkValidPC] at pc; split at pc <;> simp_all,?_⟩
  rcases hn : vm.tokenizer.next with ⟨more,tok⟩
  rw [hn] at h
  cases more
  · cases h
  obtain ⟨st,hx,h⟩ := bindOk h
  refine ⟨tok,st,rfl,hx,?_⟩
  simp only [afterOpcode] at h ⊢
  split at h
  · cases h
  refine ⟨by omega,?_⟩
  have : ({ vm with tokenizer := tok }.applyOpState st).tokenizer = tok := rfl
  split at h <;> simp_all

theorem scriptBoundaryOk {vm vm' : Engine} {d : Bool} (h : scriptBoundary T vm = .ok (d,vm')) :
    vm.condStack = [] ∧ ∃ vm1, advanceScript T { vm with astack := [] } = .ok vm1 ∧
      if ({ skipEmpty vm1 with lastCodeSep := 0 } : Engine).scripts.length ≤ (skipEmpty vm1).scriptIdx then
        d = true ∧ vm' = { skipEmpty vm1 with lastCodeSep := 0 }
      else d = false ∧ vm' = { skipEmpty vm1 with
        lastCodeSep := 0, tokenizer := makeScriptTokenizer ((skipEmpty vm1).scripts.getD (skipEmpty vm1).scriptIdx []) } := by
  simp only [scriptBoundary] at h
  split at h
  · cases h
  rename_i clear
  obtain ⟨vm1,adv,h⟩ := bindOk h
  refine ⟨not_not.1 clear,vm1,adv,?_⟩
  split at h <;> cases h <;> simp_all

theorem verifyWitnessProgramOk {vm vm' : Engine} {w : List Bytes} (h : verifyWitnessProgram T vm w = .ok vm') :
    ∃ program spend, vm.witnessProgram = some program ∧ vm.witnessVersion = 1 ∧
      program.length = payToTaprootDataSize ∧ witnessSpend T vm.tx vm.txIdx program w = .ok spend ∧
      applyWitnessSpend vm (newTaprootExecutionCtx (toInt32 (witnessSerializeSize w))) spend = .ok vm' := by
  simp only [verifyWitnessProgram] at h
  split at h
  · cases h
  split at h
  · cases h
  obtain ⟨spend,hs,h⟩ := bindOk h
  exact ⟨_,spend,‹_›,by omega,by omega,hs,h⟩

theorem witnessSpendLeafParses {tx : MsgTx} {i : Nat} {program : Bytes} {w : List Bytes} {annex : Option Bytes}
    {leaf : Bytes} {hash : Hash32} {stack : List Bytes}
    (h : witnessSpend T tx i program w = .ok (.scriptPath annex leaf hash stack)) : checkScriptParses leaf = .ok () := by
  simp only [witnessSpend] at h
  split at h
  · cases h
  split at h
  · obtain ⟨_,_,h⟩ := bindOk h; cases h
  · obtain ⟨_,_,h⟩ := bindOk h
    obtain ⟨_,_,h⟩ := bindOk h
    split at h
    · cases h
    obtain ⟨u,hp,h⟩ := bindOk h
    cases h
    exact hp
  · cases h

/-- The leaf `verifyWitnessProgram` appends when the scriptPubKey of `vm` ends. -/
def appendedLeaf (T : Taproot) (vm : Engine) : Option Bytes :=
  match vm.witnessProgram with
  | some program =>
    if vm.witnessVersion = 1 ∧ program.length = payToTaprootDataSize then
      match witnessSpend T vm.tx vm.txIdx program vm.witness with
      | .ok (.scriptPath _ leaf _ _) => some leaf
      | _ => none
    else none
  | none => none

theorem appendedLeafCongr {vm e : Engine} (tx : vm.tx = e.tx) (txIdx : vm.txIdx = e.txIdx)
    (wp : vm.witnessProgram = e.witnessProgram) (wv : vm.witnessVersion = e.witnessVersion) :
    appendedLeaf T vm = appendedLeaf T e := by
  simp [appendedLeaf,Engine.witness,tx,txIdx,wp,wv]

theorem advanceScriptOk {vm vm1 : Engine} (h : advanceScript T vm = .ok vm1) :
    vm1.tx = vm.tx ∧ vm1.txIdx = vm.txIdx ∧ vm1.witnessProgram = vm.witnessProgram ∧
      vm1.witnessVersion = vm.witnessVersion ∧ vm1.scriptIdx = vm.scriptIdx + 1 ∧
      (vm1.scripts = vm.scripts ∨ vm.scriptIdx = 1 ∧ ∃ leaf, appendedLeaf T vm = some leaf ∧
        vm1.scripts = vm.scripts ++ [leaf]) := by
  simp only [advanceScript] at h
  split at h
  · obtain ⟨program,spend,wp,wv,len,hs,ha⟩ := verifyWitnessProgramOk h
    cases spend with
    | keySpend annex => cases ha; simp_all
    | scriptPath annex leaf hash stack =>
      simp only [applyWitnessSpend] at ha
      split at ha
      · cases ha
      split at ha
      · cases ha
      cases ha
      refine ⟨rfl,rfl,rfl,rfl,rfl,.inr ⟨by omega,leaf,?_,rfl⟩⟩
      simp_all [appendedLeaf,Engine.witness]
  · cases h; simp

section Frame
variable (vm : Engine) (tok : ScriptTokenizer) (st : OpState)

@[simp] theorem afterOpcodeTx : (afterOpcode vm tok st).tx = vm.tx := rfl
@[simp] theorem afterOpcodeTxIdx : (afterOpcode vm tok st).txIdx = vm.txIdx := rfl
@[simp] theorem afterOpcodeScripts : (afterOpcode vm tok st).scripts = vm.scripts := rfl
@[simp] theorem afterOpcodeScriptIdx : (afterOpcode vm tok st).scriptIdx = vm.scriptIdx := rfl
@[simp] theorem afterOpcodeWitnessProgram : (afterOpcode vm tok st).witnessProgram = vm.witnessProgram := rfl
@[simp] theorem afterOpcodeWitnessVersion : (afterOpcode vm tok st).witnessVersion = vm.witnessVersion := rfl
@[simp] theorem afterOpcodeTokenizer : (afterOpcode vm tok st).tokenizer = tok := rfl

@[simp] theorem skipEmptyTx : (skipEmpty vm).tx = vm.tx := by unfold skipEmpty; split <;> rfl
@[simp] theorem skipEmptyTxIdx : (skipEmpty vm).txIdx = vm.txIdx := by unfold skipEmpty; split <;> rfl
@[simp] theorem skipEmptyScripts : (skipEmpty vm).scripts = vm.scripts := by unfold skipEmpty; split <;> rfl
@[simp] theorem skipEmptyWitnessProgram : (skipEmpty vm).witnessProgram = vm.witnessProgram := by
  unfold skipEmpty; split <;> rfl
@[simp] theorem skipEmptyWitnessVersion : (skipEmpty vm).witnessVersion = vm.witnessVersion := by
  unfold skipEmpty; split <;> rfl

theorem skipEmptyScriptIdx : (skipEmpty vm).scriptIdx =
    if vm.scriptIdx < vm.scripts.length ∧ vm.scripts.getD vm.scriptIdx [] = [] then vm.scriptIdx + 1
    else vm.scriptIdx := by
  unfold skipEmpty; split <;> rfl

end Frame

/-- The engines at which Execute calls Step in a run from `e`. -/
structure Entered (T : Taproot) (e vm : Engine) : Prop where
  tx : vm.tx = e.tx
  txIdx : vm.txIdx = e.txIdx
  witnessProgram : vm.witnessProgram = e.witnessProgram
  witnessVersion : vm.witnessVersion = e.witnessVersion
  twoScripts : e.scripts.length = 2
  startParses : ∀ s ∈ e.scripts, Parses s
  scripts : vm.scriptIdx ≤ 1 ∧ vm.scripts = e.scripts ∨
    vm.scriptIdx = 2 ∧ ∃ leaf, appendedLeaf T e = some leaf ∧ vm.scripts = e.scripts ++ [leaf]
  sigFirst : vm.scriptIdx = 0 → vm.witnessProgram = none
  current : vm.tokenizer.script = vm.scripts.getD vm.scriptIdx []
  clean : vm.tokenizer.err = none
  rest : Parses vm.tokenizer.rest
  notDone : vm.tokenizer.rest ≠ []

/-- The bytes Execute can still step through, the leaf still to be appended included. -/
def remaining (T : Taproot) (vm : Engine) : Nat :=
  vm.tokenizer.rest.length + ((vm.scripts.drop (vm.scriptIdx + 1)).map List.length).sum +
    if vm.scriptIdx ≤ 1 then ((appendedLeaf T vm).map List.length).getD 0 else 0

/-- How one Step moves through the scripts. -/
def ScriptAdvance (T : Taproot) (e vm vm' : Engine) : Prop :=
  vm.scriptIdx ≤ vm'.scriptIdx ∧ vm'.scriptIdx ≤ vm.scriptIdx + 2 ∧
    (vm'.scriptIdx = vm.scriptIdx + 2 → vm'.scripts.getD (vm.scriptIdx + 1) [] = []) ∧
    (vm'.scripts = vm.scripts ∨ vm.scriptIdx = 1 ∧ ∃ leaf, appendedLeaf T e = some leaf ∧ vm'.scripts = vm.scripts ++ [leaf])

theorem appendedLeafParses {e : Engine} {leaf : Bytes} (h : appendedLeaf T e = some leaf) : Parses leaf := by
  simp only [appendedLeaf] at h
  split at h
  · split at h
    · split at h
      · cases h; exact (checkScriptParsesIff _).1 (witnessSpendLeafParses ‹_›)
      · cases h
    · cases h
  · cases h

theorem afterOpcodeLeaf {vm : Engine} {tok : ScriptTokenizer} {st : OpState} :
    appendedLeaf T { afterOpcode vm tok st with astack := [] } = appendedLeaf T vm :=
  appendedLeafCongr rfl rfl rfl rfl

theorem scriptsParse {e vm : Engine} (start : ∀ s ∈ e.scripts, Parses s)
    (scripts : vm.scriptIdx ≤ 1 ∧ vm.scripts = e.scripts ∨
      vm.scriptIdx = 2 ∧ ∃ leaf, appendedLeaf T e = some leaf ∧ vm.scripts = e.scripts ++ [leaf]) :
    ∀ s ∈ vm.scripts, Parses s := by
  rcases scripts with ⟨_,hs⟩ | ⟨_,leaf,hl,hs⟩ <;> rw [hs]
  · exact start
  · simpa [or_imp,forall_and] using ⟨start,appendedLeafParses hl⟩

theorem scriptAdvanceSkip {e vm vm1 : Engine} (idx : vm1.scriptIdx = vm.scriptIdx + 1)
    (scripts : vm1.scripts = vm.scripts ∨
      vm.scriptIdx = 1 ∧ ∃ leaf, appendedLeaf T e = some leaf ∧ vm1.scripts = vm.scripts ++ [leaf]) :
    ScriptAdvance T e vm { skipEmpty vm1 with lastCodeSep := 0 } := by
  have sk := skipEmptyScriptIdx vm1
  unfold ScriptAdvance; dsimp only; rw [skipEmptyScripts]
  split_ifs at sk with c <;> rw [sk]
  · rw [idx] at c ⊢; exact ⟨by omega,by omega,fun _ => c.2,scripts⟩
  · exact ⟨by omega,by omega,fun h => by omega,scripts⟩

theorem skipEmptyLast {vm1 : Engine} (last : vm1.scripts.length ≤ vm1.scriptIdx + 1)
    (lt : (skipEmpty vm1).scriptIdx < vm1.scripts.length) :
    skipEmpty vm1 = vm1 ∧ vm1.scripts.getD vm1.scriptIdx [] ≠ [] := by
  unfold skipEmpty at lt ⊢
  split_ifs at lt ⊢ with c
  · simp only at lt; omega
  · exact ⟨rfl,fun h => c ⟨lt,h⟩⟩

namespace Entered
variable {e vm : Engine} (inv : Entered T e vm)
include inv

theorem parses : ∀ s ∈ vm.scripts, Parses s := scriptsParse inv.startParses inv.scripts

theorem inRange : vm.scriptIdx < vm.scripts.length := by
  by_contra out
  apply inv.notDone
  simp [ScriptTokenizer.rest,inv.current,List.getD_eq_getElem?_getD,List.getElem?_eq_none (by omega : vm.scripts.length ≤ vm.scriptIdx)]

theorem currentNonEmpty : vm.scripts.getD vm.scriptIdx [] ≠ [] := by
  intro h; apply inv.notDone; rw [ScriptTokenizer.rest,inv.current,h,List.drop_nil]

theorem currentParses : Parses (vm.scripts.getD vm.scriptIdx []) := by
  apply inv.parses
  simp [List.getD_eq_getElem?_getD,List.getElem?_eq_getElem inv.inRange,List.getElem_mem]

theorem within {op : UInt8} {data : Bytes} {n : Nat} (read : readToken vm.tokenizer.rest = .ok (op,data,n))
    (st : OpState) (more : ({ vm.tokenizer with offset := vm.tokenizer.offset + n, op := op, data := data } :
      ScriptTokenizer).done = false) :
    Entered T e (afterOpcode vm { vm.tokenizer with offset := vm.tokenizer.offset + n, op := op, data := data } st) ∧
      remaining T (afterOpcode vm { vm.tokenizer with offset := vm.tokenizer.offset + n, op := op, data := data } st) <
        remaining T vm := by
  have ⟨pos,_⟩ := readTokenConsumes read
  have rest : ¬ (vm.tokenizer.rest.drop n = []) := fun h => by
    have clean : ({ vm.tokenizer with offset := vm.tokenizer.offset + n, op := op, data := data } :
      ScriptTokenizer).err = none := inv.clean
    simp [(ScriptTokenizer.doneIff clean).2 (by simpa using h)] at more
  refine ⟨⟨inv.tx,inv.txIdx,inv.witnessProgram,inv.witnessVersion,inv.twoScripts,inv.startParses,inv.scripts,
    inv.sigFirst,inv.current,inv.clean,by simpa using parsesTail read inv.rest,by simpa using rest⟩,?_⟩
  simp only [remaining,afterOpcodeScripts,afterOpcodeScriptIdx,afterOpcodeTokenizer,ScriptTokenizer.restAdvance,
    List.length_drop,appendedLeafCongr (afterOpcodeTx vm _ st) (afterOpcodeTxIdx vm _ st)
      (afterOpcodeWitnessProgram vm _ st) (afterOpcodeWitnessVersion vm _ st)]
  omega

theorem enter (vm' : Engine) (tx : vm'.tx = vm.tx) (txIdx : vm'.txIdx = vm.txIdx)
    (wp : vm'.witnessProgram = vm.witnessProgram) (wv : vm'.witnessVersion = vm.witnessVersion)
    (scripts : vm'.scriptIdx ≤ 1 ∧ vm'.scripts = e.scripts ∨
      vm'.scriptIdx = 2 ∧ ∃ leaf, appendedLeaf T e = some leaf ∧ vm'.scripts = e.scripts ++ [leaf])
    (pos : 0 < vm'.scriptIdx) (inRange : vm'.scriptIdx < vm'.scripts.length)
    (ne : vm'.scripts.getD vm'.scriptIdx [] ≠ []) :
    Entered T e { vm' with tokenizer := makeScriptTokenizer (vm'.scripts.getD vm'.scriptIdx []) } := by
  refine ⟨tx.trans inv.tx,txIdx.trans inv.txIdx,wp.trans inv.witnessProgram,wv.trans inv.witnessVersion,
    inv.twoScripts,inv.startParses,scripts,fun h => absurd h (Nat.pos_iff_ne_zero.1 pos),rfl,rfl,?_,
    by simpa using ne⟩
  rw [ScriptTokenizer.makeRest]
  exact scriptsParse inv.startParses scripts _ (by simp [List.getD_eq_getElem?_getD,List.getElem?_eq_getElem inRange,List.getElem_mem])

theorem boundary {tok : ScriptTokenizer} (st : OpState) {vm1 : Engine}
    (adv : advanceScript T { afterOpcode vm tok st with astack := [] } = .ok vm1) :
    ScriptAdvance T e vm { skipEmpty vm1 with lastCodeSep := 0 } ∧
      ((skipEmpty vm1).scriptIdx < (skipEmpty vm1).scripts.length →
        Entered T e { skipEmpty vm1 with
          lastCodeSep := 0, tokenizer := makeScriptTokenizer ((skipEmpty vm1).scripts.getD (skipEmpty vm1).scriptIdx []) } ∧
        remaining T { skipEmpty vm1 with
          lastCodeSep := 0, tokenizer := makeScriptTokenizer ((skipEmpty vm1).scripts.getD (skipEmpty vm1).scriptIdx []) } <
          remaining T vm) := by
  have leafV : appendedLeaf T vm = appendedLeaf T e :=
    appendedLeafCongr inv.tx inv.txIdx inv.witnessProgram inv.witnessVersion
  obtain ⟨tx1,txIdx1,wp1,wv1,idx1,scr1⟩ := advanceScriptOk adv
  rw [afterOpcodeLeaf,leafV] at scr1
  simp only [afterOpcodeTx,afterOpcodeTxIdx,afterOpcodeScripts,afterOpcodeScriptIdx,afterOpcodeWitnessProgram,
    afterOpcodeWitnessVersion] at tx1 txIdx1 wp1 wv1 idx1 scr1
  refine ⟨scriptAdvanceSkip idx1 scr1,fun lt => ?_⟩
  have restPos : 0 < vm.tokenizer.rest.length := List.length_pos.2 inv.notDone
  obtain ⟨sig,spk,he⟩ := List.length_eq_two.1 inv.twoScripts
  have last : vm1.scripts.length ≤ vm1.scriptIdx + 1 := by
    rcases inv.scripts with ⟨_,hs⟩ | ⟨_,_,_,hs⟩ <;> rcases scr1 with h1 | ⟨_,_,_,h1⟩ <;>
      simp only [h1,hs,he,List.length_append,List.length_cons,List.length_nil] <;> omega
  simp only [skipEmptyScripts] at lt
  obtain ⟨same,ne⟩ := skipEmptyLast last lt
  rw [same] at lt ⊢
  have leafE : appendedLeaf T { vm1 with
      lastCodeSep := 0, tokenizer := makeScriptTokenizer (vm1.scripts.getD vm1.scriptIdx []) } = appendedLeaf T e :=
    appendedLeafCongr (tx1.trans inv.tx) (txIdx1.trans inv.txIdx) (wp1.trans inv.witnessProgram)
      (wv1.trans inv.witnessVersion)
  rcases inv.scripts with ⟨hidx,hs⟩ | ⟨hidx,leaf,hl,hs⟩ <;> rcases scr1 with h1 | ⟨h1,leaf',hl',h1s⟩
  · -- the signature script ends and the scriptPubKey starts
    have h0 : vm.scriptIdx = 0 := by simp only [h1,hs,he,List.length_cons,List.length_nil] at lt; omega
    refine ⟨inv.enter { vm1 with lastCodeSep := 0 } tx1 txIdx1 wp1 wv1
      (.inl ⟨by simp only; omega,h1.trans hs⟩) (by simp only; omega) lt ne,?_⟩
    rw [remaining,remaining,leafE,leafV]
    simpa [h1,hs,he,h0,idx1] using restPos
  · -- the scriptPubKey ends and the appended leaf starts
    refine ⟨inv.enter { vm1 with lastCodeSep := 0 } tx1 txIdx1 wp1 wv1
      (.inr ⟨by simp only; omega,leaf',hl',by simp only [h1s,hs]⟩) (by simp only; omega) lt ne,?_⟩
    rw [remaining,remaining,leafE,leafV]
    simpa [h1s,hs,he,h1,idx1,hl'] using restPos
  · simp only [h1,hs,List.length_append,List.length_singleton,inv.twoScripts] at lt; omega
  · omega

theorem advance {vm' : Engine} {d : Bool} (h : step other T vm = .ok (d,vm')) :
    ScriptAdvance T e vm vm' ∧ (d = false → Entered T e vm' ∧ remaining T vm' < remaining T vm) := by
  obtain ⟨-,tok,st,hn,-,-,hb⟩ := stepOk h
  obtain ⟨op,data,n,read⟩ := parsesRead inv.rest inv.notDone
  rw [ScriptTokenizer.nextOk inv.clean read] at hn
  cases hn
  split at hb
  · obtain ⟨-,vm1,adv,hb⟩ := scriptBoundaryOk hb
    obtain ⟨moved,cont⟩ := inv.boundary st adv
    by_cases fin : (skipEmpty vm1).scripts.length ≤ (skipEmpty vm1).scriptIdx
    · rw [if_pos fin] at hb
      obtain ⟨rfl,rfl⟩ := hb
      exact ⟨moved,fun h => by cases h⟩
    · rw [if_neg fin] at hb
      obtain ⟨rfl,rfl⟩ := hb
      exact ⟨moved,fun _ => cont (by omega)⟩
  · rename_i more
    obtain ⟨rfl,rfl⟩ := hb
    exact ⟨⟨le_refl _,by simp,fun h => by simp at h,.inl rfl⟩,fun _ => inv.within read st (by simpa using more)⟩

end Entered

/-- What NewEngine guarantees of the engine it returns. -/
structure Built (scriptPubKey : Bytes) (tx : MsgTx) (e : Engine) : Prop where
  inputInRange : e.txIdx < tx.txIn.length
  sameTx : e.tx = tx
  scripts : e.scripts = [(tx.txInAt e.txIdx).signatureScript,scriptPubKey]
  notBothEmpty : ¬ ((tx.txInAt e.txIdx).signatureScript = [] ∧ scriptPubKey = [])
  checked : ∀ s ∈ e.scripts, checkScript s = .ok ()
  scriptIdx : e.scriptIdx = if (tx.txInAt e.txIdx).signatureScript = [] then 1 else 0
  tokenizer : e.tokenizer = makeScriptTokenizer (e.scripts.getD e.scriptIdx [])
  dstack : e.dstack = []
  astack : e.astack = []
  condStack : e.condStack = []
  taprootCtx : e.taprootCtx = none
  witnessInfo : witnessProgramInfo (tx.txInAt e.txIdx).signatureScript scriptPubKey (tx.txInAt e.txIdx).witness =
    .ok (e.witnessVersion,e.witnessProgram)

theorem newEngineBuilt {spk : Bytes} {tx : MsgTx} {i : Int} {e : Engine} (h : newEngine spk tx i = .ok e) :
    Built spk tx e ∧ e.txIdx = i.toNat := by
  simp only [newEngine] at h
  split at h
  · cases h
  rename_i range
  split at h
  · cases h
  rename_i both
  split at h
  · cases h
  obtain ⟨_,sig,h⟩ := bindOk h
  obtain ⟨_,pk,h⟩ := bindOk h
  obtain ⟨⟨v,p⟩,info,h⟩ := bindOk h
  cases h
  exact ⟨⟨by simp; omega,rfl,rfl,both,by simp [sig,pk],rfl,rfl,rfl,rfl,rfl,rfl,info⟩,rfl⟩

theorem checkScriptParses' {s : Bytes} (h : checkScript s = .ok ()) : Parses s := by
  simp only [checkScript] at h
  split at h
  · cases h
  · exact (checkScriptParsesIff s).1 h

namespace Built
variable {spk : Bytes} {tx : MsgTx} {e : Engine} (b : Built spk tx e)
include b

theorem setAssetPacket (pkt : Option Asset.AssetPacket) : Built spk tx (e.setAssetPacket pkt) :=
  ⟨b.inputInRange,b.sameTx,b.scripts,b.notBothEmpty,b.checked,b.scriptIdx,b.tokenizer,b.dstack,b.astack,
    b.condStack,b.taprootCtx,b.witnessInfo⟩

theorem sigNoProgram (sig : (tx.txInAt e.txIdx).signatureScript ≠ []) : e.witnessProgram = none := by
  have := b.witnessInfo
  simp only [witnessProgramInfo,sig,ne_eq,not_false_eq_true,if_true] at this
  split at this
  · cases this
  · split at this
    · cases this
    · exact (Prod.mk.inj (Except.ok.inj this)).2.symm

theorem entered : Entered T e e := by
  have parses : ∀ s ∈ e.scripts, Parses s := fun s hs => checkScriptParses' (b.checked s hs)
  have cur : e.scripts.getD e.scriptIdx [] ≠ [] := by
    have := b.notBothEmpty
    rw [b.scriptIdx,b.scripts]; split <;> simp_all
  refine ⟨rfl,rfl,rfl,rfl,by simp [b.scripts],parses,.inl ⟨by rw [b.scriptIdx]; split <;> simp,rfl⟩,
    fun h => b.sigNoProgram (by rw [b.scriptIdx] at h; split at h <;> simp_all),by rw [b.tokenizer]; rfl,
    by rw [b.tokenizer]; rfl,?_,by rw [b.tokenizer]; simpa using cur⟩
  rw [b.tokenizer,ScriptTokenizer.makeRest]
  apply parses
  rw [b.scriptIdx,b.scripts]; split <;> simp

end Built

theorem runEnds {e vm : Engine} (inv : Entered T e vm) (n : Nat) (enough : remaining T vm ≤ n) :
    (run other T n vm).isSome := by
  induction n generalizing vm with
  | zero => have := List.length_pos.2 inv.notDone; simp only [remaining] at enough; omega
  | succ n ih =>
    simp only [run]
    rcases h : step other T vm with err | ⟨_ | _,vm'⟩
    · rfl
    · obtain ⟨inv',lt⟩ := (inv.advance h).2 rfl
      exact ih inv' (by omega)
    · rfl

inductive Reaches (other : Handler) (T : Taproot) (e : Engine) : Engine → Prop
  | start : Reaches other T e e
  | step {vm vm' : Engine} (prev : Reaches other T e vm) (h : step other T vm = .ok (false,vm')) :
      Reaches other T e vm'

theorem Reaches.entered {e vm : Engine} (start : Entered T e e) (r : Reaches other T e vm) : Entered T e vm := by
  induction r with
  | start => exact start
  | step _ h ih => exact ((ih.advance h).2 rfl).1

theorem stepEntrySafe (other : Handler) (T : Taproot) {spk : Bytes} {tx : MsgTx} {i : Int} {e : Engine}
    (h : newEngine spk tx i = .ok e) (pkt : Option Asset.AssetPacket) :
    (e.setAssetPacket pkt).scripts = [(tx.txInAt i.toNat).signatureScript,spk] ∧
    (e.setAssetPacket pkt).scriptIdx = (if (tx.txInAt i.toNat).signatureScript = [] then 1 else 0) ∧
    ∀ vm, Reaches other T (e.setAssetPacket pkt) vm →
      (vm.scriptIdx < vm.scripts.length ∧ vm.scripts.getD vm.scriptIdx [] ≠ [] ∧
        checkScriptParses (vm.scripts.getD vm.scriptIdx []) = .ok () ∧
        checkValidPC vm = .ok () ∧ vm.tokenizer.next.1 = true) ∧
      (vm.scripts = [(tx.txInAt i.toNat).signatureScript,spk] ∨
        ∃ leaf, appendedLeaf T e = some leaf ∧ vm.scripts = [(tx.txInAt i.toNat).signatureScript,spk,leaf]) ∧
      ∀ d vm', step other T vm = .ok (d,vm') → ScriptAdvance T (e.setAssetPacket pkt) vm vm' := by
  obtain ⟨b,idx⟩ := newEngineBuilt h
  have start := (b.setAssetPacket pkt).entered (T := T)
  refine ⟨by rw [← idx]; exact b.scripts,by rw [← idx]; exact b.scriptIdx,fun vm r => ?_⟩
  have inv := r.entered start
  obtain ⟨op,data,n,read⟩ := parsesRead inv.rest inv.notDone
  refine ⟨⟨inv.inRange,inv.currentNonEmpty,(checkScriptParsesIff _).2 inv.currentParses,
    by simp [checkValidPC,inv.inRange],by rw [ScriptTokenizer.nextOk inv.clean read]⟩,?_,fun d vm' h => (inv.advance h).1⟩
  have leafEq : appendedLeaf T (e.setAssetPacket pkt) = appendedLeaf T e := appendedLeafCongr rfl rfl rfl rfl
  have scripts : (e.setAssetPacket pkt).scripts = [(tx.txInAt i.toNat).signatureScript,spk] := by
    rw [← idx]; exact b.scripts
  rcases inv.scripts with ⟨_,hs⟩ | ⟨_,leaf,hl,hs⟩
  · exact .inl (hs.trans scripts)
  · exact .inr ⟨leaf,leafEq ▸ hl,by rw [hs,scripts]; rfl⟩

theorem stepEntrySafeOnPush : ∃ e, newEngine [op1] ⟨[⟨[],[]⟩]⟩ 0 = .ok e ∧ (e.setAssetPacket none).scripts = [[],[op1]] ∧
    ∀ vm, Reaches nopHandler acceptAllTaproot (e.setAssetPacket none) vm → checkValidPC vm = .ok () := by
  obtain ⟨e,h⟩ : ∃ e, newEngine [op1] ⟨[⟨[],[]⟩]⟩ 0 = .ok e := ⟨_,rfl⟩
  have safe := stepEntrySafe nopHandler acceptAllTaproot h none
  exact ⟨e,h,safe.1,fun vm r => (safe.2.2 vm r).1.2.2.2.1⟩

theorem executeStepBound (other : Handler) (T : Taproot) {spk : Bytes} {tx : MsgTx} {i : Int} {e : Engine}
    (h : newEngine spk tx i = .ok e) (pkt : Option Asset.AssetPacket) :
    (run other T ((tx.txInAt i.toNat).signatureScript.length + spk.length +
      ((appendedLeaf T e).map List.length).getD 0) (e.setAssetPacket pkt)).isSome := by
  obtain ⟨b,idx⟩ := newEngineBuilt h
  refine runEnds ((b.setAssetPacket pkt).entered (T := T)) _ ?_
  have leafEq : appendedLeaf T (e.setAssetPacket pkt) = appendedLeaf T e := appendedLeafCongr rfl rfl rfl rfl
  have rem : remaining T (e.setAssetPacket pkt) = (e.scripts.getD e.scriptIdx []).length +
      ((e.scripts.drop (e.scriptIdx + 1)).map List.length).sum +
      if e.scriptIdx ≤ 1 then ((appendedLeaf T e).map List.length).getD 0 else 0 := by
    rw [remaining,leafEq]
    rw [show (e.setAssetPacket pkt).tokenizer = e.tokenizer from rfl,b.tokenizer]
    rfl
  rw [rem,b.scripts,b.scriptIdx,← idx]
  by_cases sig : (tx.txInAt e.txIdx).signatureScript = []
  · simp [sig]
  · simp [sig,appendedLeaf,b.sigNoProgram sig]

theorem executeStepBoundOnPush : ∃ e, newEngine [op1] ⟨[⟨[],[]⟩]⟩ 0 = .ok e ∧ appendedLeaf acceptAllTaproot e = none ∧
    (run nopHandler acceptAllTaproot 1 (e.setAssetPacket none)).isSome := by
  obtain ⟨e,h,leaf⟩ : ∃ e, newEngine [op1] ⟨[⟨[],[]⟩]⟩ 0 = .ok e ∧ appendedLeaf acceptAllTaproot e = none :=
    ⟨_,rfl,rfl⟩
  have bound := executeStepBound nopHandler acceptAllTaproot h none
  rw [leaf] at bound
  exact ⟨e,h,leaf,bound⟩

end Arkade
