import Arkade.Asset.Opcodes

/-! Asset IDs through the stack: `pushAssetID` then `popAssetID` is the identity for
every txid and every u16 gidx, so an ID an opcode reported is found again by the
lookups (Find after AssetID, Lookup after At), at its first occurrence. The
converse fails: `popAssetID` narrows the popped gidx with `uint16(...)`, so a script
number outside `[0, 65535]` selects the group of its residue. -/
namespace Arkade.Asset
open ScriptNum Stack

theorem sameAssetIDIff (a b : AssetID) : sameAssetID a b = true ↔ a = b := by
  cases a; cases b; simp [sameAssetID]

theorem notSameAssetIDIff (a b : AssetID) : (!sameAssetID a b) = true ↔ a ≠ b := by
  rw [Ne,← sameAssetIDIff]; cases sameAssetID a b <;> simp

theorem toUint16Nat (g : UInt16) : toUint16 (g.toNat : Int) = g := by
  apply UInt16.eq_of_toBitVec_eq; apply BitVec.eq_of_toNat_eq
  have := g.toNat_lt
  simp [toUint16,UInt16.ofNat,BitVec.toNat_ofNat,UInt16.toNat] at this ⊢
  omega

@[simp] theorem checkAssetPacketSome (p : AssetPacket) : checkAssetPacket (some p) = .ok p := rfl

theorem checkedIndexOk {α : Type} (xs : List α) {i : Nat} (h : i < xs.length) (desc : String) :
    checkedIndex xs i desc = .ok xs[i] := by
  simp [checkedIndex,h]

theorem popAssetIDPushAssetID (s : Stack) (id : AssetID) : popAssetID (pushAssetID s id) = .ok (id,s) := by
  have range : ((id.gidx.toNat : Int)).natAbs < 2 ^ 31 := by have := id.gidx.toNat_lt; simp; omega
  simp only [popAssetID,pushAssetID,popIntPushInt _ _ range,bind,Except.bind,pushByteArray,
    popByteArrayCons,id.txid.size,dite_true,toUint16Nat]
  rfl

/- The Find loop returns the first position holding the ID, offset by the start index. -/
theorem findAssetGroupFirst (id : AssetID) (gs : List AssetGroup) (start m : Nat)
    (found : ∃ h : m < gs.length, gs[m].assetID = id) (before : ∀ j (h : j < gs.length), j < m → gs[j].assetID ≠ id) :
    findAssetGroup id start gs = some (start + m) := by
  induction gs generalizing start m with
  | nil => obtain ⟨h,_⟩ := found; simp at h
  | cons g gs ih =>
    cases m with
    | zero =>
      obtain ⟨_,hg⟩ := found
      simp only [List.getElem_cons_zero] at hg
      simp [findAssetGroup,(sameAssetIDIff _ _).2 hg]
    | succ m =>
      have ne := before 0 (by simp) (by omega)
      simp only [List.getElem_cons_zero] at ne
      have hs : sameAssetID g.assetID id = false := by
        cases h : sameAssetID g.assetID id
        · rfl
        · exact absurd ((sameAssetIDIff _ _).1 h) ne
      obtain ⟨hm,hg⟩ := found
      rw [findAssetGroup,hs,if_neg (by simp),ih (start+1) m ⟨by simpa using hm,by simpa using hg⟩
        (fun j hj hjm => by simpa using before (j+1) (by simpa using hj) (by omega))]
      congr 1; omega

/-- Position `m` is the first of `xs` whose key equals the key at position `t`. -/
def FirstOccurrence {β : Type} (key : β → AssetID) (xs : List β) (t m : Nat) : Prop :=
  ∃ hm : m < xs.length, ∃ ht : t < xs.length, m ≤ t ∧ key xs[m] = key xs[t] ∧
    ∀ j (hj : j < xs.length), j < m → key xs[j] ≠ key xs[t]

theorem firstOccurrenceExists {β : Type} (key : β → AssetID) (xs : List β) (t : Nat) (range : t < xs.length) :
    ∃ m, FirstOccurrence key xs t m := by
  classical
  have ex : ∃ m, ∃ h : m < xs.length, key xs[m] = key xs[t] := ⟨t,range,rfl⟩
  exact ⟨Nat.find ex,(Nat.find_spec ex).1,range,Nat.find_min' ex ⟨range,rfl⟩,(Nat.find_spec ex).2,
    fun j hj hlt eq => Nat.find_min ex hlt ⟨hj,eq⟩⟩

theorem inspectAssetGroupAssetIDSpec (p : AssetPacket) (s : Stack) {eK : Bytes} {K : Nat}
    (hK : Encodes eK K) (range : K < p.groups.length) :
    opcodeInspectAssetGroupAssetID (some p) (eK :: s) = .ok (pushAssetID s p.groups[K].assetID) := by
  simp [opcodeInspectAssetGroupAssetID,popIntCons hK,checkGroupIndex,checkedIndexOk _ range,bind,
    Except.bind,pure,Except.pure]

theorem findAssetGroupByAssetIDSpec (p : AssetPacket) (s : Stack) (id : AssetID) :
    opcodeFindAssetGroupByAssetID (some p) (pushAssetID s id) =
      .ok (pushInt s ((findAssetGroup id 0 p.groups).map (fun i => (i : Int)) |>.getD (-1))) := by
  simp only [opcodeFindAssetGroupByAssetID,checkAssetPacketSome,popAssetIDPushAssetID,bind,Except.bind]
  cases findAssetGroup id 0 p.groups <;> rfl

def aliasPacket : AssetPacket :=
  ⟨[⟨⟨Hash32.zero,0⟩,none,Hash32.zero,[],[]⟩],fun _ => [],fun _ => []⟩

theorem findAliasesGidx65536 :
    opcodeFindAssetGroupByAssetID (some aliasPacket) [[0x00,0x00,0x01],Hash32.zero.bytes] = .ok [[]] ∧
      ∀ g ∈ aliasPacket.groups, (g.assetID.gidx.toNat : Int) ≠ 65536 := by
  decide

theorem lookupAfterAt (entries : UInt32 → List AssetEntry) (desc : String) (s : Stack)
    {eo et : Bytes} {o t : Int} (ho : Encodes eo o) (ht : Encodes et t)
    (range : 0 ≤ t ∧ t < (entries (toUint32 o)).length) :
    ∃ x g a, inspectAssetAt entries desc (et :: eo :: s) = .ok (a :: g :: x :: s) ∧
      ∃ m e, (entries (toUint32 o))[m]? = some e ∧ FirstOccurrence AssetEntry.assetID (entries (toUint32 o)) t.toNat m ∧
        inspectAssetLookup entries (g :: x :: eo :: s) = .ok (pushLE64 s e.amount) := by
  set es := entries (toUint32 o)
  have tr : t.toNat < es.length := by omega
  have at_ : inspectAssetAt entries desc (et :: eo :: s) = .ok (pushLE64 (pushAssetID s es[t.toNat].assetID)
      es[t.toNat].amount) := by
    have : checkedIndex es t desc = .ok es[t.toNat] := by simp [checkedIndex,range]
    simp [inspectAssetAt,popIntCons ht,popIntCons ho,this,bind,Except.bind,pure,Except.pure,es]
  obtain ⟨m,first⟩ := firstOccurrenceExists AssetEntry.assetID es t.toNat tr
  have ⟨hm,_,_,same,before⟩ := first
  refine ⟨_,_,_,at_,m,es[m],by simp,first,?_⟩
  have find : es.find? (fun e => sameAssetID e.assetID es[t.toNat].assetID) = some es[m] := by
    rw [List.find?_eq_some_iff_getElem]
    exact ⟨(sameAssetIDIff _ _).2 same,m,hm,rfl,fun j hj => (notSameAssetIDIff _ _).2 (before j _ hj)⟩
  show inspectAssetLookup entries (pushAssetID (eo :: s) es[t.toNat].assetID) = _
  simp only [inspectAssetLookup,popAssetIDPushAssetID,bind,Except.bind,popIntCons ho,find]
  rfl

theorem assetIDRoundTrips (p : AssetPacket) :
    (∀ (s : Stack) (eK : Bytes) (K : Nat), Encodes eK K → K < p.groups.length →
      ∃ i, FirstOccurrence AssetGroup.assetID p.groups K i ∧
        (opcodeInspectAssetGroupAssetID (some p) (eK :: s) >>= opcodeFindAssetGroupByAssetID (some p)) =
          .ok (pushInt s i)) ∧
    (∀ (s : Stack) (eo et : Bytes) (o t : Int), Encodes eo o → Encodes et t →
      0 ≤ t ∧ t < (p.outputAssets (toUint32 o)).length →
      ∃ x g a, opcodeInspectOutAssetAt (some p) (et :: eo :: s) = .ok (a :: g :: x :: s) ∧
        ∃ m e, (p.outputAssets (toUint32 o))[m]? = some e ∧
          FirstOccurrence AssetEntry.assetID (p.outputAssets (toUint32 o)) t.toNat m ∧
          opcodeInspectOutAssetLookup (some p) (g :: x :: eo :: s) = .ok (pushLE64 s e.amount)) ∧
    (∀ (s : Stack) (ei et : Bytes) (i t : Int), Encodes ei i → Encodes et t →
      0 ≤ t ∧ t < (p.inputAssets (toUint32 i)).length →
      ∃ x g a, opcodeInspectInAssetAt (some p) (et :: ei :: s) = .ok (a :: g :: x :: s) ∧
        ∃ m e, (p.inputAssets (toUint32 i))[m]? = some e ∧
          FirstOccurrence AssetEntry.assetID (p.inputAssets (toUint32 i)) t.toNat m ∧
          opcodeInspectInAssetLookup (some p) (g :: x :: ei :: s) = .ok (pushLE64 s e.amount)) ∧
    (∀ (s : Stack) (id : AssetID), popAssetID (pushAssetID s id) = .ok (id,s)) := by
  refine ⟨fun s eK K hK range => ?_,fun s eo et o t ho ht range => lookupAfterAt _ _ s ho ht range,
    fun s ei et i t hi ht range => lookupAfterAt _ _ s hi ht range,popAssetIDPushAssetID⟩
  obtain ⟨i,first⟩ := firstOccurrenceExists AssetGroup.assetID p.groups K range
  have ⟨hi,_,_,same,before⟩ := first
  refine ⟨i,first,?_⟩
  rw [inspectAssetGroupAssetIDSpec p s hK range]
  simp only [bind,Except.bind,findAssetGroupByAssetIDSpec,
    findAssetGroupFirst _ _ 0 i ⟨hi,same⟩ before,Nat.zero_add]
  rfl

end Arkade.Asset
