import Arkade.Asset.Group

/-! The index checks of the asset opcodes. An index popped from the stack is compared with
the length of the list it selects from before the list is read (`checkedIndex`, whose read
carries the bound), so no list is read out of range and an index out of range ends the
opcode with an error: the group index of the ten opcodes that take one, the entry index of
OP_INSPECTASSETGROUP against the count OP_INSPECTASSETGROUPNUM pushes, and the entry index of
OP_INSPECTOUTASSETAT and OP_INSPECTINASSETAT against the count of the matching COUNT opcode.
Both read the map at `uint32(o)`, which is `o` itself for every `o` in `[0, 2^32)`. -/
namespace Arkade.Asset
open ScriptNum Stack

theorem bindError {ε α β : Type} {x : Except ε α} {f : α → Except ε β}
    (h : ∀ a, x = .ok a → ∃ e, f a = .error e) : ∃ e, (x >>= f) = .error e := by
  cases x with
  | error e => exact ⟨e,rfl⟩
  | ok a => exact h a rfl

theorem popIntConsOk {a : Bytes} {s t : Stack} {n : Int} (h : popInt (a :: s) = .ok (n,t)) :
    Encodes a n ∧ t = s := by
  simp only [popInt,popByteArrayCons,bind,Except.bind] at h
  cases hm : makeScriptNum a true maxScriptNumLen with
  | error e => rw [hm] at h; cases h
  | ok m => rw [hm] at h; cases h; exact ⟨hm,rfl⟩

theorem popIntThen {a : Bytes} {s : Stack} {β : Type} {g : Int × Stack → Except ScriptError β}
    (h : ∀ n, Encodes a n → ∃ e, g (n,s) = .error e) : ∃ e, (popInt (a :: s) >>= g) = .error e :=
  bindError fun ⟨n,_⟩ h1 => by obtain ⟨hn,rfl⟩ := popIntConsOk h1; exact h n hn

theorem encodesUnique {e : Bytes} {m n : Int} (hm : Encodes e m) (hn : Encodes e n) : m = n :=
  Except.ok.inj (hm.symm.trans hn)

section Checked
variable {α : Type} (xs : List α) (i : Int) (desc : String)

theorem checkedIndexSpec (x : α) :
    checkedIndex xs i desc = .ok x ↔ 0 ≤ i ∧ i < xs.length ∧ xs[i.toNat]? = some x := by
  unfold checkedIndex
  split
  · rename_i h
    have lt : i.toNat < xs.length := by omega
    simp [h,List.getElem?_eq_getElem lt]
  · rename_i h
    exact ⟨fun e => (by cases e),fun ⟨lo,hi,_⟩ => absurd ⟨lo,hi⟩ h⟩

theorem checkedIndexFails (out : i < 0 ∨ xs.length ≤ i) :
    checkedIndex xs i desc = .error (scriptError .errInvalidIndex desc) :=
  dif_neg (by omega)

theorem checkedIndexThen {β : Type} (report : α → β) :
    ((∃ r, (checkedIndex xs i desc >>= fun x => .ok (report x)) = .ok r) ↔ 0 ≤ i ∧ i < xs.length) ∧
      ∀ r, (checkedIndex xs i desc >>= fun x => .ok (report x)) = .ok r →
        ∃ x, xs[i.toNat]? = some x ∧ r = report x := by
  refine ⟨⟨fun ⟨r,h⟩ => ?_,fun range => ?_⟩,fun r h => ?_⟩
  · obtain ⟨x,hx,-⟩ := bindOk h
    exact ((checkedIndexSpec xs i desc x).1 hx).imp_right And.left
  · have lt : i.toNat < xs.length := by omega
    exact ⟨_,by rw [(checkedIndexSpec xs i desc xs[i.toNat]).2 ⟨range.1,range.2,by simp⟩]; rfl⟩
  · obtain ⟨x,hx,h⟩ := bindOk h
    exact ⟨x,((checkedIndexSpec xs i desc x).1 hx).2.2,(Except.ok.inj h).symm⟩

end Checked

/-- The opcodes that pop a group index, each with the number of arguments it pops first. -/
def groupIndexOpcodes : List ((Option AssetPacket → Stack → Except ScriptError Stack) × Nat) :=
  [(opcodeInspectAssetGroupAssetID,0),(opcodeInspectAssetGroupCtrl,0),(opcodeInspectAssetGroupMetadataHash,0),
    (opcodeInspectAssetGroupNum,1),(opcodeInspectAssetGroup,2),(opcodeInspectAssetGroupSum,1),
    (opcodeInspectGroupIntentOutCount,0),(opcodeInspectGroupIntentOut,1),(opcodeInspectGroupIntentInCount,0),
    (opcodeInspectGroupIntentIn,1)]

theorem checkGroupIndexSpec (p : AssetPacket) (K : Int) (g : AssetGroup) :
    checkGroupIndex p K = .ok g ↔ 0 ≤ K ∧ K < p.groups.length ∧ p.groups[K.toNat]? = some g :=
  checkedIndexSpec _ _ _ g

section GroupIndex
variable (p : AssetPacket) {eK : Bytes} {K : Int} (hK : Encodes eK K) (out : K < 0 ∨ p.groups.length ≤ K)
include hK out

theorem popGroupIndexOut {k : Int} (hk : Encodes eK k) {β : Type} (f : AssetGroup → Except ScriptError β) :
    ∃ e, (checkGroupIndex p k >>= f) = .error e := by
  obtain rfl := encodesUnique hK hk
  rw [checkGroupIndex,checkedIndexFails _ _ _ out]
  exact ⟨_,rfl⟩

theorem groupIndexOutFails {f : (Option AssetPacket → Stack → Except ScriptError Stack) × Nat}
    (hf : f ∈ groupIndexOpcodes) (above : List Bytes) (len : above.length = f.2) (s : Stack) :
    ∃ e, f.1 (some p) (above ++ eK :: s) = .error e := by
  simp only [groupIndexOpcodes,List.mem_cons,List.mem_singleton,List.not_mem_nil,or_false] at hf
  rcases above with _ | ⟨a,_ | ⟨b,_ | ⟨c,rest⟩⟩⟩
  · -- the group index is on top
    rcases hf with rfl|rfl|rfl|rfl|rfl|rfl|rfl|rfl|rfl|rfl <;> cases len <;>
      exact bindError fun _ hp => by cases hp; exact popIntThen fun _ hk => popGroupIndexOut p hK out hk _
  · -- one argument above it
    rcases hf with rfl|rfl|rfl|rfl|rfl|rfl|rfl|rfl|rfl|rfl <;> cases len <;>
      exact bindError fun _ hp => by
        cases hp; exact popIntThen fun _ _ => popIntThen fun _ hk => popGroupIndexOut p hK out hk _
  · -- two arguments above it
    rcases hf with rfl|rfl|rfl|rfl|rfl|rfl|rfl|rfl|rfl|rfl <;> cases len
    exact bindError fun _ hp => by
      cases hp; exact popIntThen fun _ _ => popIntThen fun _ _ => popIntThen fun _ hk => popGroupIndexOut p hK out hk _
  · -- no opcode pops three
    rcases hf with rfl|rfl|rfl|rfl|rfl|rfl|rfl|rfl|rfl|rfl <;> simp at len

end GroupIndex

theorem groupIndexThroughCheck {f : (Option AssetPacket → Stack → Except ScriptError Stack) × Nat}
    (hf : f ∈ groupIndexOpcodes) (above : List Bytes) (len : above.length = f.2) (args : ∀ a ∈ above, ∃ n, Encodes a n)
    (s : Stack) :
    ∃ cont : AssetGroup → Except ScriptError Stack, ∀ (q : AssetPacket) (eK : Bytes) (K : Int), Encodes eK K →
      f.1 (some q) (above ++ eK :: s) = checkGroupIndex q K >>= cont := by
  simp only [groupIndexOpcodes,List.mem_cons,List.mem_singleton,List.not_mem_nil,or_false] at hf
  rcases above with _ | ⟨a,_ | ⟨b,_ | ⟨c,rest⟩⟩⟩
  · rcases hf with rfl|rfl|rfl|rfl|rfl|rfl|rfl|rfl|rfl|rfl <;> cases len <;>
      exact ⟨_,fun q eK K hK => by
        simp only [opcodeInspectAssetGroupAssetID,opcodeInspectAssetGroupCtrl,opcodeInspectAssetGroupMetadataHash,
          opcodeInspectGroupIntentOutCount,opcodeInspectGroupIntentInCount,inspectGroupIntentCount,List.nil_append,
          checkAssetPacketSome,popIntCons hK,bind,Except.bind]
        rfl⟩
  · obtain ⟨n,ha⟩ := args a (List.mem_singleton_self a)
    rcases hf with rfl|rfl|rfl|rfl|rfl|rfl|rfl|rfl|rfl|rfl <;> cases len <;>
      exact ⟨_,fun q eK K hK => by
        simp only [opcodeInspectAssetGroupNum,opcodeInspectAssetGroupSum,opcodeInspectGroupIntentOut,
          opcodeInspectGroupIntentIn,inspectGroupIntent,List.singleton_append,checkAssetPacketSome,popIntCons ha,
          popIntCons hK,bind,Except.bind]
        rfl⟩
  · obtain ⟨n,ha⟩ := args a (by simp)
    obtain ⟨m,hb⟩ := args b (by simp)
    rcases hf with rfl|rfl|rfl|rfl|rfl|rfl|rfl|rfl|rfl|rfl <;> cases len
    exact ⟨_,fun q eK K hK => by
      simp only [opcodeInspectAssetGroup,List.cons_append,List.nil_append,checkAssetPacketSome,popIntCons ha,
        popIntCons hb,popIntCons hK,bind,Except.bind]
      rfl⟩
  · rcases hf with rfl|rfl|rfl|rfl|rfl|rfl|rfl|rfl|rfl|rfl <;> simp at len

theorem toUint32Nat {o : Int} (lo : 0 ≤ o) (hi : o < 2 ^ 32) : (toUint32 o).toNat = o.toNat := by
  simp only [toUint32,UInt32.toNat,UInt32.ofNat,BitVec.toNat_ofNat,Int.emod_eq_of_lt lo hi]
  omega

section Entries
variable (p : AssetPacket) (s : Stack) {es ej eK : Bytes} {src j : Int} {K : Nat}

theorem inspectAssetGroupNumSource (hs : Encodes es src) (hK : Encodes eK K) (range : K < p.groups.length)
    (src01 : src = 0 ∨ src = 1) :
    opcodeInspectAssetGroupNum (some p) (es :: eK :: s) =
      .ok (pushInt s (if src = 0 then p.groups[K].inputs.length else p.groups[K].outputs.length)) := by
  rcases src01 with rfl | rfl <;>
    simp [opcodeInspectAssetGroupNum,popIntCons hs,popIntCons hK,checkGroupIndexOk p range,bind,Except.bind,pure,
      Except.pure]

theorem inspectAssetGroupSource (hs : Encodes es src) (hj : Encodes ej j) (hK : Encodes eK K)
    (range : K < p.groups.length) :
    opcodeInspectAssetGroup (some p) (es :: ej :: eK :: s) =
      if src = 0 then
        checkedIndex p.groups[K].inputs j "asset group input index out of range" >>= fun inp =>
          .ok (pushLE64 (if inp.type = assetInputTypeLocal then pushInt (pushInt s inp.type.toNat) inp.inputIndex.toNat
            else pushInt (pushByteArray (pushInt s inp.type.toNat) inp.txid.bytes) inp.outputIndex.toNat) inp.amount)
      else if src = 1 then
        checkedIndex p.groups[K].outputs j "asset group output index out of range" >>= fun out =>
          .ok (pushLE64 (pushInt (pushInt s out.type.toNat) out.outputIndex.toNat) out.amount)
      else .error (scriptError .errInvalidIndex "invalid source for OP_INSPECTASSETGROUP") := by
  simp only [opcodeInspectAssetGroup,checkAssetPacketSome,popIntCons hs,popIntCons hj,popIntCons hK,
    checkGroupIndexOk p range,bind,Except.bind,pure,Except.pure]
  split
  · rfl
  · rfl
  · rename_i h0 h1; rw [if_neg h0,if_neg h1]; rfl

theorem inspectAssetGroupOtherSource (hs : Encodes es src) (h0 : src ≠ 0) (h1 : src ≠ 1) :
    ∃ e, opcodeInspectAssetGroup (some p) (es :: ej :: eK :: s) = .error e := by
  refine bindError fun _ hp => ?_
  cases hp
  refine popIntThen fun n hn => ?_
  obtain rfl := encodesUnique hs hn
  refine bindError fun _ _ => bindError fun _ _ => bindError fun _ _ => ?_
  split
  · contradiction
  · contradiction
  · exact ⟨_,rfl⟩

theorem inspectAssetAtIndex (entries : UInt32 → List AssetEntry) (desc : String) {eo et : Bytes} {o t : Int}
    (ho : Encodes eo o) (ht : Encodes et t) :
    inspectAssetCount entries (eo :: s) = .ok (pushInt s (entries (toUint32 o)).length) ∧
      ((∃ r, inspectAssetAt entries desc (et :: eo :: s) = .ok r) ↔ 0 ≤ t ∧ t < (entries (toUint32 o)).length) ∧
      ∀ r, inspectAssetAt entries desc (et :: eo :: s) = .ok r →
        ∃ e, (entries (toUint32 o))[t.toNat]? = some e ∧ r = pushLE64 (pushAssetID s e.assetID) e.amount := by
  have at_ : inspectAssetAt entries desc (et :: eo :: s) = checkedIndex (entries (toUint32 o)) t desc >>= fun e =>
      .ok (pushLE64 (pushAssetID s e.assetID) e.amount) := by
    simp only [inspectAssetAt,popIntCons ht,popIntCons ho,bind,Except.bind,pure,Except.pure]
  rw [at_]
  exact ⟨by simp [inspectAssetCount,popIntCons ho,bind,Except.bind,pure,Except.pure],checkedIndexThen _ _ _ _⟩

end Entries

theorem assetIndexBoundsChecked (p : AssetPacket) :
    (∀ s, opcodeInspectNumAssetGroups (some p) s = .ok (pushInt s p.groups.length)) ∧
    (∀ (K : Int) (g : AssetGroup),
      checkGroupIndex p K = .ok g ↔ 0 ≤ K ∧ K < p.groups.length ∧ p.groups[K.toNat]? = some g) ∧
    (∀ f ∈ groupIndexOpcodes, ∀ (above : List Bytes) (eK : Bytes) (K : Int) (s : Stack), above.length = f.2 →
      Encodes eK K → K < 0 ∨ p.groups.length ≤ K → ∃ e, f.1 (some p) (above ++ eK :: s) = .error e) ∧
    (∀ f ∈ groupIndexOpcodes, ∀ (above : List Bytes) (s : Stack), above.length = f.2 → (∀ a ∈ above, ∃ n, Encodes a n) →
      ∃ cont : AssetGroup → Except ScriptError Stack, ∀ (q : AssetPacket) (eK : Bytes) (K : Int), Encodes eK K →
        f.1 (some q) (above ++ eK :: s) = checkGroupIndex q K >>= cont) ∧
    (∀ (s : Stack) (es ej eK : Bytes) (src j : Int) (K : Nat) (_ : K < p.groups.length), Encodes es src →
      Encodes ej j → Encodes eK K →
      (src = 0 → opcodeInspectAssetGroupNum (some p) (es :: eK :: s) = .ok (pushInt s p.groups[K].inputs.length) ∧
        ((∃ r, opcodeInspectAssetGroup (some p) (es :: ej :: eK :: s) = .ok r) ↔
          0 ≤ j ∧ j < p.groups[K].inputs.length) ∧
        ∀ r, opcodeInspectAssetGroup (some p) (es :: ej :: eK :: s) = .ok r →
          ∃ inp, p.groups[K].inputs[j.toNat]? = some inp ∧
            r = pushLE64 (if inp.type = assetInputTypeLocal then pushInt (pushInt s inp.type.toNat) inp.inputIndex.toNat
              else pushInt (pushByteArray (pushInt s inp.type.toNat) inp.txid.bytes) inp.outputIndex.toNat) inp.amount) ∧
      (src = 1 → opcodeInspectAssetGroupNum (some p) (es :: eK :: s) = .ok (pushInt s p.groups[K].outputs.length) ∧
        ((∃ r, opcodeInspectAssetGroup (some p) (es :: ej :: eK :: s) = .ok r) ↔
          0 ≤ j ∧ j < p.groups[K].outputs.length) ∧
        ∀ r, opcodeInspectAssetGroup (some p) (es :: ej :: eK :: s) = .ok r →
          ∃ out, p.groups[K].outputs[j.toNat]? = some out ∧
            r = pushLE64 (pushInt (pushInt s out.type.toNat) out.outputIndex.toNat) out.amount)) ∧
    (∀ (s : Stack) (es ej eK : Bytes) (src : Int), Encodes es src → src ≠ 0 → src ≠ 1 →
      ∃ e, opcodeInspectAssetGroup (some p) (es :: ej :: eK :: s) = .error e) ∧
    (∀ (s : Stack) (eo et : Bytes) (o t : Int), Encodes eo o → Encodes et t →
      opcodeInspectOutAssetCount (some p) (eo :: s) = .ok (pushInt s (p.outputAssets (toUint32 o)).length) ∧
      ((∃ r, opcodeInspectOutAssetAt (some p) (et :: eo :: s) = .ok r) ↔
        0 ≤ t ∧ t < (p.outputAssets (toUint32 o)).length) ∧
      ∀ r, opcodeInspectOutAssetAt (some p) (et :: eo :: s) = .ok r →
        ∃ e, (p.outputAssets (toUint32 o))[t.toNat]? = some e ∧ r = pushLE64 (pushAssetID s e.assetID) e.amount) ∧
    (∀ (s : Stack) (ei et : Bytes) (i t : Int), Encodes ei i → Encodes et t →
      opcodeInspectInAssetCount (some p) (ei :: s) = .ok (pushInt s (p.inputAssets (toUint32 i)).length) ∧
      ((∃ r, opcodeInspectInAssetAt (some p) (et :: ei :: s) = .ok r) ↔
        0 ≤ t ∧ t < (p.inputAssets (toUint32 i)).length) ∧
      ∀ r, opcodeInspectInAssetAt (some p) (et :: ei :: s) = .ok r →
        ∃ e, (p.inputAssets (toUint32 i))[t.toNat]? = some e ∧ r = pushLE64 (pushAssetID s e.assetID) e.amount) ∧
    (∀ o : Int, 0 ≤ o → o < 2 ^ 32 → (toUint32 o).toNat = o.toNat) := by
  refine ⟨fun s => rfl,checkGroupIndexSpec p,fun f hf above eK K s len hK out => groupIndexOutFails p hK out hf above len s,
    fun f hf above s len args => groupIndexThroughCheck hf above len args s,
    fun s es ej eK src j K range hs hj hK => ⟨fun h0 => ?_,fun h1 => ?_⟩,
    fun s es ej eK src hs h0 h1 => inspectAssetGroupOtherSource p s hs h0 h1,
    fun s eo et o t ho ht => inspectAssetAtIndex s p.outputAssets _ ho ht,
    fun s ei et i t hi ht => inspectAssetAtIndex s p.inputAssets _ hi ht,fun o lo hi => toUint32Nat lo hi⟩
  · subst h0
    rw [inspectAssetGroupNumSource p s hs hK range (.inl rfl),inspectAssetGroupSource p s hs hj hK range]
    simp only [if_pos]
    exact ⟨trivial,checkedIndexThen _ _ _ _⟩
  · subst h1
    rw [inspectAssetGroupNumSource p s hs hK range (.inr rfl),inspectAssetGroupSource p s hs hj hK range]
    simp only [one_ne_zero,if_false,if_pos]
    exact ⟨trivial,checkedIndexThen _ _ _ _⟩

end Arkade.Asset
