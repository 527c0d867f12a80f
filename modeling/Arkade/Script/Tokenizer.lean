import Arkade.ScriptNum

/-! The script tokenizer and the scans built on it (`checkScriptParses`,
`IsPushOnlyScript`). The tokenizer itself (btcd's `ScriptTokenizer`, opcode.go) is not
under src/: it is modelled from the spec (§4.1). `Parses` is the grammar of a script
that tokenizes to its end; `checkScriptParses` accepts exactly those scripts, and the
tokenizer of such a script never fails, each `next` consuming at least one byte. -/
namespace Arkade.Script
open ScriptNum

def op0 : UInt8 := 0x00
def opPushData1 : UInt8 := 0x4c
def opPushData2 : UInt8 := 0x4d
def opPushData4 : UInt8 := 0x4e
def op1Negate : UInt8 := 0x4f
def opReserved : UInt8 := 0x50
def op1 : UInt8 := 0x51
def op16 : UInt8 := 0x60

/-- Modelled from the spec: the length column of the opcode table (opcode.go). -/
def opcodeLength (op : UInt8) : Int :=
  if op = opPushData1 then -1 else if op = opPushData2 then -2 else if op = opPushData4 then -4
  else if 1 ≤ op.toNat ∧ op.toNat ≤ 75 then op.toNat + 1 else 1

/-- Modelled from the spec: one step of `ScriptTokenizer.Next`. -/
def readToken : Bytes → Except ScriptError (UInt8 × Bytes × Nat)
  | [] => .error (scriptError .errMalformedPush "no opcode remaining")
  | op :: rest =>
    let len := opcodeLength op
    if len = 1 then .ok (op,[],1)
    else if 1 < len then
      if rest.length + 1 < len.toNat then
        .error (scriptError .errMalformedPush "opcode requires more bytes than the script has remaining")
      else .ok (op,rest.take (len.toNat - 1),len.toNat)
    else
      let k := (-len).toNat
      if rest.length < k then
        .error (scriptError .errMalformedPush "opcode requires more bytes than the script has remaining")
      else
        let dataLen := leValue (rest.take k)
        if 2 ^ 31 ≤ dataLen ∨ (rest.drop k).length < dataLen then
          .error (scriptError .errMalformedPush "opcode pushes more bytes than the script has remaining")
        else .ok (op,(rest.drop k).take dataLen,1 + k + dataLen)

/-- Modelled from the spec: btcd's `ScriptTokenizer` (script version 0). -/
structure ScriptTokenizer where
  script : Bytes
  offset : Nat
  op : UInt8
  data : Bytes
  err : Option ScriptError
  deriving DecidableEq

def makeScriptTokenizer (script : Bytes) : ScriptTokenizer := ⟨script,0,op0,[],none⟩

namespace ScriptTokenizer

def done (t : ScriptTokenizer) : Bool := t.err.isSome || t.script.length ≤ t.offset

def next (t : ScriptTokenizer) : Bool × ScriptTokenizer :=
  if t.done then (false,t)
  else match readToken (t.script.drop t.offset) with
    | .ok (op,data,n) => (true,{t with offset := t.offset + n, op := op, data := data})
    | .error e => (false,{t with err := some e})

def rest (t : ScriptTokenizer) : Bytes := t.script.drop t.offset

end ScriptTokenizer

/-- The `for t.Next() { ... }` loops, with fuel: the opcodes read and the tokenizer after. -/
def scan : Nat → ScriptTokenizer → List UInt8 × ScriptTokenizer
  | 0, t => ([],t)
  | fuel+1, t =>
    match t.next with
    | (true,t') => let (ops,t'') := scan fuel t'; (t'.op :: ops,t'')
    | (false,t') => ([],t')

def checkScriptParses (script : Bytes) : Except ScriptError Unit :=
  match (scan script.length (makeScriptTokenizer script)).2.err with
  | none => .ok ()
  | some e => .error e

/-- txscript.IsPushOnlyScript: every opcode is at most OP_16 and the script parses. -/
def isPushOnlyScript (script : Bytes) : Bool :=
  let (ops,t) := scan script.length (makeScriptTokenizer script)
  ops.all (· ≤ op16) && t.err.isNone

/-- The scripts that tokenize to their end. -/
inductive Parses : Bytes → Prop
  | nil : Parses []
  | token {rest : Bytes} {op : UInt8} {data : Bytes} {n : Nat}
      (read : readToken rest = .ok (op,data,n)) (tail : Parses (rest.drop n)) : Parses rest

theorem readTokenConsumes {rest : Bytes} {op : UInt8} {data : Bytes} {n : Nat}
    (h : readToken rest = .ok (op,data,n)) : 1 ≤ n ∧ n ≤ rest.length := by
  match rest with
  | [] => simp [readToken] at h
  | b :: bs =>
    simp only [readToken] at h
    split_ifs at h with h1 h2 h3 _ h5 <;> cases h <;> simp at * <;> omega

theorem parsesTail {rest : Bytes} {op : UInt8} {data : Bytes} {n : Nat}
    (read : readToken rest = .ok (op,data,n)) (h : Parses rest) : Parses (rest.drop n) := by
  cases h with
  | nil => simp [readToken] at read
  | token read' tail => rw [read] at read'; cases read'; exact tail

theorem parsesReads {b : UInt8} {bs : Bytes} {e : ScriptError} (read : readToken (b :: bs) = .error e) :
    ¬ Parses (b :: bs) := by
  intro h
  cases h with
  | token read' _ => rw [read] at read'; cases read'

theorem parsesRead {rest : Bytes} (h : Parses rest) (ne : rest ≠ []) :
    ∃ op data n, readToken rest = .ok (op,data,n) := by
  cases h with
  | nil => exact absurd rfl ne
  | token read _ => exact ⟨_,_,_,read⟩

namespace ScriptTokenizer

@[simp] theorem makeRest (script : Bytes) : (makeScriptTokenizer script).rest = script := rfl

theorem doneIff {t : ScriptTokenizer} (clean : t.err = none) : t.done = true ↔ t.rest = [] := by
  simp [done,rest,clean]

theorem notDone {t : ScriptTokenizer} (clean : t.err = none) (ne : t.rest ≠ []) : t.done = false := by
  cases h : t.done
  · rfl
  · exact absurd ((doneIff clean).1 h) ne

theorem nextOk {t : ScriptTokenizer} (clean : t.err = none) {op : UInt8} {data : Bytes} {n : Nat}
    (read : readToken t.rest = .ok (op,data,n)) :
    t.next = (true,{t with offset := t.offset + n, op := op, data := data}) := by
  have ne : t.rest ≠ [] := fun h => by rw [h] at read; simp [readToken] at read
  simp only [next,notDone clean ne,Bool.false_eq_true,if_false]
  rw [show t.script.drop t.offset = t.rest from rfl,read]

theorem nextError {t : ScriptTokenizer} (clean : t.err = none) (ne : t.rest ≠ []) {e : ScriptError}
    (read : readToken t.rest = .error e) : t.next = (false,{t with err := some e}) := by
  simp only [next,notDone clean ne,Bool.false_eq_true,if_false]
  rw [show t.script.drop t.offset = t.rest from rfl,read]

theorem nextDone {t : ScriptTokenizer} (h : t.done = true) : t.next = (false,t) := by
  simp [next,h]

@[simp] theorem restAdvance (t : ScriptTokenizer) (n : Nat) (op : UInt8) (data : Bytes) :
    ({t with offset := t.offset + n, op := op, data := data} : ScriptTokenizer).rest = t.rest.drop n := by
  simp [rest,List.drop_drop,Nat.add_comm]

end ScriptTokenizer

theorem scanClean (fuel : Nat) (t : ScriptTokenizer) (clean : t.err = none) (enough : t.rest.length ≤ fuel) :
    (scan fuel t).2.err = none ↔ Parses t.rest := by
  induction fuel generalizing t with
  | zero =>
    have : t.rest = [] := List.eq_nil_of_length_eq_zero (by omega)
    simp [scan,clean,this,Parses.nil]
  | succ fuel ih =>
    cases hr : t.rest with
    | nil => simp [scan,ScriptTokenizer.nextDone ((ScriptTokenizer.doneIff clean).2 hr),clean,Parses.nil]
    | cons b bs =>
      rw [← hr]
      cases read : readToken t.rest with
      | error e =>
        rw [hr] at read ⊢
        simp [scan,ScriptTokenizer.nextError clean (by simp [hr]) (hr ▸ read),parsesReads read]
      | ok tok =>
        obtain ⟨op,data,n⟩ := tok
        have ⟨pos,_⟩ := readTokenConsumes read
        simp only [scan,ScriptTokenizer.nextOk clean read]
        rw [ih {t with offset := t.offset + n, op := op, data := data} clean (by simp; omega)]
        exact ⟨fun h => .token read (by simpa using h),fun h => by simpa using parsesTail read h⟩

theorem checkScriptParsesIff (script : Bytes) : checkScriptParses script = .ok () ↔ Parses script := by
  have := scanClean script.length (makeScriptTokenizer script) rfl (by simp)
  simp only [ScriptTokenizer.makeRest] at this
  rw [← this, checkScriptParses]
  split <;> simp [*]

/-- The scripts `IsPushOnlyScript` accepts. -/
inductive PushOnly : Bytes → Prop
  | nil : PushOnly []
  | token {rest : Bytes} {op : UInt8} {data : Bytes} {n : Nat}
      (read : readToken rest = .ok (op,data,n)) (push : op ≤ op16) (tail : PushOnly (rest.drop n)) : PushOnly rest

theorem PushOnly.parses {s : Bytes} (h : PushOnly s) : Parses s := by
  induction h with
  | nil => exact .nil
  | token read _ _ ih => exact .token read ih

theorem PushOnly.tail {rest : Bytes} {op : UInt8} {data : Bytes} {n : Nat} (h : PushOnly rest)
    (read : readToken rest = .ok (op,data,n)) : op ≤ op16 ∧ PushOnly (rest.drop n) := by
  cases h with
  | nil => simp [readToken] at read
  | token read' push tail => rw [read] at read'; cases read'; exact ⟨push,tail⟩

theorem scanPushOnly (fuel : Nat) (t : ScriptTokenizer) (clean : t.err = none) (enough : t.rest.length ≤ fuel) :
    ((scan fuel t).1.all (· ≤ op16) && (scan fuel t).2.err.isNone) = true ↔ PushOnly t.rest := by
  induction fuel generalizing t with
  | zero =>
    have : t.rest = [] := List.eq_nil_of_length_eq_zero (by omega)
    simp [scan,clean,this,PushOnly.nil]
  | succ fuel ih =>
    cases hr : t.rest with
    | nil => simp [scan,ScriptTokenizer.nextDone ((ScriptTokenizer.doneIff clean).2 hr),clean,PushOnly.nil]
    | cons b bs =>
      rw [← hr]
      cases read : readToken t.rest with
      | error e =>
        rw [hr] at read ⊢
        simp only [scan,ScriptTokenizer.nextError clean (by simp [hr]) (hr ▸ read)]
        simpa using fun h => parsesReads read h.parses
      | ok tok =>
        obtain ⟨op,data,n⟩ := tok
        have ⟨pos,_⟩ := readTokenConsumes read
        simp only [scan,ScriptTokenizer.nextOk clean read,List.all_cons,Bool.and_assoc,Bool.and_eq_true,
          ih {t with offset := t.offset + n, op := op, data := data} clean (by simp; omega),decide_eq_true_eq,
          ScriptTokenizer.restAdvance]
        exact ⟨fun ⟨push,tail⟩ => .token read push tail,fun h => h.tail read⟩

theorem isPushOnlyScriptIff (script : Bytes) : isPushOnlyScript script = true ↔ PushOnly script := by
  have := scanPushOnly script.length (makeScriptTokenizer script) rfl (by simp)
  rwa [ScriptTokenizer.makeRest] at this

example : checkScriptParses [opPushData1] ≠ .ok () := by decide
example : checkScriptParses [0x02,0xab,0xcd,0x51] = .ok () := by decide

end Arkade.Script
