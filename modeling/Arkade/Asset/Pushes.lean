import Arkade.Asset.Indices

/-! What each asset opcode leaves on the stack when it succeeds: what it did not pop, with
its pushes on top. The script numbers among the pushes are counts (lengths of the packet's
lists), the position Find reports or `-1`, the gidx of an AssetID, type bytes, and the u32
`InputIndex`/`OutputIndex` fields; the other pushes are txids, hashes and LE64 amounts.
PopInt reads a pushed number back exactly when it lies in the 4-byte range: always for
`-1`, a gidx and a type byte, for a count or position below 2^31, and for a u32 field only
below 2^31, since nothing bounds those fields before the push. -/
namespace Arkade.Asset
open ScriptNum Stack

section Pops
variable {s t : Stack}

theorem popIntSuffix {n : Int} (h : popInt s = .ok (n,t)) : t <:+ s := by
  match s with
  | [] => cases h
  | a :: s => rw [(popIntConsOk h).2]; exact List.suffix_cons a s

theorem popAssetIDSuffix {id : AssetID} (h : popAssetID s = .ok (id,t)) : t <:+ s := by
  obtain ⟨⟨_,s1⟩,h1,h⟩ := bindOk h
  obtain ⟨⟨txid,s2⟩,h2,h⟩ := bindOk h
  dsimp only at h
  split at h
  · cases h
    match s1 with
    | [] => cases h2
    | _ :: s1 => cases h2; exact (List.suffix_cons _ _).trans (popIntSuffix h1)
  · cases h

end Pops

theorem checkedIndexMem {α : Type} {xs : List α} {i : Int} {desc : String} {x : α}
    (h : checkedIndex xs i desc = .ok x) : x ∈ xs :=
  List.getElem?_mem ((checkedIndexSpec xs i desc x).1 h).2.2

theorem findAssetGroupLt {id : AssetID} {gs : List AssetGroup} {start i : Nat}
    (h : findAssetGroup id start gs = some i) : i < start + gs.length := by
  induction gs generalizing start with
  | nil => cases h
  | cons g gs ih =>
    simp only [findAssetGroup] at h
    split at h
    · cases h; simp
    · have := ih h; simp only [List.length_cons]; omega

theorem nthIntentMem {α : Type} {type : α → UInt8} {intent : UInt8} {j : Int} {idx : Nat} {xs : List α} {x : α}
    (h : nthIntent type intent j idx xs = some x) : x ∈ xs ∧ type x = intent := by
  induction xs generalizing idx with
  | nil => cases h
  | cons y xs ih =>
    simp only [nthIntent] at h
    split_ifs at h
    · cases h; exact ⟨List.mem_cons_self _ _,‹_›⟩
    all_goals exact (ih h).imp_left (List.mem_cons_of_mem y)

section Results
variable {p : AssetPacket} {s s' : Stack}

theorem inspectAssetGroupAssetIDPushes (h : opcodeInspectAssetGroupAssetID (some p) s = .ok s') :
    ∃ t, t <:+ s ∧ ∃ g ∈ p.groups, s' = pushAssetID t g.assetID := by
  obtain ⟨_,⟨⟩,h⟩ := bindOk h
  obtain ⟨⟨_,t⟩,hk,h⟩ := bindOk h
  obtain ⟨g,hg,h⟩ := bindOk h
  cases h
  exact ⟨t,popIntSuffix hk,g,checkedIndexMem hg,rfl⟩

theorem inspectAssetGroupCtrlPushes (h : opcodeInspectAssetGroupCtrl (some p) s = .ok s') :
    ∃ t, t <:+ s ∧ ∃ g ∈ p.groups, g.control = none ∧ s' = pushInt t (-1) ∨
      ∃ c, g.control = some c ∧ s' = pushAssetID t c := by
  obtain ⟨_,⟨⟩,h⟩ := bindOk h
  obtain ⟨⟨_,t⟩,hk,h⟩ := bindOk h
  obtain ⟨g,hg,h⟩ := bindOk h
  refine ⟨t,popIntSuffix hk,g,checkedIndexMem hg,?_⟩
  split at h <;> cases h
  · exact .inl ⟨‹_›,rfl⟩
  · exact .inr ⟨_,‹_›,rfl⟩

theorem findAssetGroupByAssetIDPushes (h : opcodeFindAssetGroupByAssetID (some p) s = .ok s') :
    ∃ t, t <:+ s ∧ ∃ i : Int, s' = pushInt t i ∧ (i = -1 ∨ 0 ≤ i ∧ i < p.groups.length) := by
  obtain ⟨_,⟨⟩,h⟩ := bindOk h
  obtain ⟨⟨_,t⟩,hid,h⟩ := bindOk h
  refine ⟨t,popAssetIDSuffix hid,?_⟩
  dsimp only at h
  split at h <;> cases h
  · have := findAssetGroupLt ‹_›; exact ⟨_,rfl,.inr ⟨by omega,by omega⟩⟩
  · exact ⟨_,rfl,.inl rfl⟩

theorem inspectAssetGroupMetadataHashPushes (h : opcodeInspectAssetGroupMetadataHash (some p) s = .ok s') :
    ∃ t, t <:+ s ∧ ∃ g ∈ p.groups, s' = pushByteArray t g.metadataHash.bytes := by
  obtain ⟨_,⟨⟩,h⟩ := bindOk h
  obtain ⟨⟨_,t⟩,hk,h⟩ := bindOk h
  obtain ⟨g,hg,h⟩ := bindOk h
  cases h
  exact ⟨t,popIntSuffix hk,g,checkedIndexMem hg,rfl⟩

theorem inspectAssetGroupNumPushes (h : opcodeInspectAssetGroupNum (some p) s = .ok s') :
    ∃ t, t <:+ s ∧ ∃ g ∈ p.groups, s' = pushInt t g.inputs.length ∨ s' = pushInt t g.outputs.length ∨
      s' = pushInt (pushInt t g.inputs.length) g.outputs.length := by
  obtain ⟨_,⟨⟩,h⟩ := bindOk h
  obtain ⟨⟨_,t1⟩,h1,h⟩ := bindOk h
  obtain ⟨⟨_,t⟩,hk,h⟩ := bindOk h
  obtain ⟨g,hg,h⟩ := bindOk h
  refine ⟨t,(popIntSuffix hk).trans (popIntSuffix h1),g,checkedIndexMem hg,?_⟩
  split at h <;> cases h
  · exact .inl rfl
  · exact .inr (.inl rfl)
  · exact .inr (.inr rfl)

theorem inspectAssetGroupPushes (h : opcodeInspectAssetGroup (some p) s = .ok s') :
    ∃ t, t <:+ s ∧ ∃ g ∈ p.groups,
      (∃ inp ∈ g.inputs, s' = pushLE64 (if inp.type = assetInputTypeLocal
          then pushInt (pushInt t inp.type.toNat) inp.inputIndex.toNat
          else pushInt (pushByteArray (pushInt t inp.type.toNat) inp.txid.bytes) inp.outputIndex.toNat) inp.amount) ∨
        ∃ out ∈ g.outputs, s' = pushLE64 (pushInt (pushInt t out.type.toNat) out.outputIndex.toNat) out.amount := by
  obtain ⟨_,⟨⟩,h⟩ := bindOk h
  obtain ⟨⟨_,t1⟩,h1,h⟩ := bindOk h
  obtain ⟨⟨_,t2⟩,h2,h⟩ := bindOk h
  obtain ⟨⟨_,t⟩,hk,h⟩ := bindOk h
  obtain ⟨g,hg,h⟩ := bindOk h
  refine ⟨t,(popIntSuffix hk).trans ((popIntSuffix h2).trans (popIntSuffix h1)),g,checkedIndexMem hg,?_⟩
  split at h
  · obtain ⟨inp,hi,h⟩ := bindOk h
    cases h
    exact .inl ⟨inp,checkedIndexMem hi,rfl⟩
  · obtain ⟨out,ho,h⟩ := bindOk h
    cases h
    exact .inr ⟨out,checkedIndexMem ho,rfl⟩
  · cases h

theorem inspectAssetGroupSumPushes (h : opcodeInspectAssetGroupSum (some p) s = .ok s') :
    ∃ t, t <:+ s ∧ ∃ g ∈ p.groups, s' = pushLE64 t (sumAmounts AssetInput.amount g.inputs) ∨
      s' = pushLE64 t (sumAmounts AssetOutput.amount g.outputs) ∨
      s' = pushLE64 (pushLE64 t (sumAmounts AssetInput.amount g.inputs)) (sumAmounts AssetOutput.amount g.outputs) := by
  obtain ⟨_,⟨⟩,h⟩ := bindOk h
  obtain ⟨⟨_,t1⟩,h1,h⟩ := bindOk h
  obtain ⟨⟨_,t⟩,hk,h⟩ := bindOk h
  obtain ⟨g,hg,h⟩ := bindOk h
  refine ⟨t,(popIntSuffix hk).trans (popIntSuffix h1),g,checkedIndexMem hg,?_⟩
  split at h <;> cases h
  · exact .inl rfl
  · exact .inr (.inl rfl)
  · exact .inr (.inr rfl)

theorem inspectAssetCountPushes {entries : UInt32 → List AssetEntry} (h : inspectAssetCount entries s = .ok s') :
    ∃ t, t <:+ s ∧ ∃ o, s' = pushInt t (entries o).length := by
  obtain ⟨⟨_,t⟩,ho,h⟩ := bindOk h
  cases h
  exact ⟨t,popIntSuffix ho,_,rfl⟩

theorem inspectAssetAtPushes {entries : UInt32 → List AssetEntry} {desc : String}
    (h : inspectAssetAt entries desc s = .ok s') :
    ∃ t, t <:+ s ∧ ∃ o, ∃ e ∈ entries o, s' = pushLE64 (pushAssetID t e.assetID) e.amount := by
  obtain ⟨⟨_,t1⟩,h1,h⟩ := bindOk h
  obtain ⟨⟨_,t⟩,ho,h⟩ := bindOk h
  obtain ⟨e,he,h⟩ := bindOk h
  cases h
  exact ⟨t,(popIntSuffix ho).trans (popIntSuffix h1),_,e,checkedIndexMem he,rfl⟩

theorem inspectAssetLookupPushes {entries : UInt32 → List AssetEntry} (h : inspectAssetLookup entries s = .ok s') :
    ∃ t, t <:+ s ∧ (s' = pushInt t (-1) ∨ ∃ o, ∃ e ∈ entries o, s' = pushLE64 t e.amount) := by
  obtain ⟨⟨_,t1⟩,h1,h⟩ := bindOk h
  obtain ⟨⟨_,t⟩,ho,h⟩ := bindOk h
  refine ⟨t,(popIntSuffix ho).trans (popAssetIDSuffix h1),?_⟩
  dsimp only at h
  split at h <;> cases h
  · exact .inr ⟨_,_,List.mem_of_find?_eq_some ‹_›,rfl⟩
  · exact .inl rfl

theorem inspectGroupIntentCountPushes {α : Type} {entries : AssetGroup → List α} {type : α → UInt8} {intent : UInt8}
    (h : inspectGroupIntentCount entries type intent (some p) s = .ok s') :
    ∃ t, t <:+ s ∧ ∃ g ∈ p.groups, s' = pushInt t (countIntent type intent (entries g)) := by
  obtain ⟨_,⟨⟩,h⟩ := bindOk h
  obtain ⟨⟨_,t⟩,hk,h⟩ := bindOk h
  obtain ⟨g,hg,h⟩ := bindOk h
  cases h
  exact ⟨t,popIntSuffix hk,g,checkedIndexMem hg,rfl⟩

theorem inspectGroupIntentPushes {α : Type} {entries : AssetGroup → List α} {type : α → UInt8} {intent : UInt8}
    {push : Stack → α → Stack} {desc : String} (h : inspectGroupIntent entries type intent push desc (some p) s = .ok s') :
    ∃ t, t <:+ s ∧ ∃ g ∈ p.groups, ∃ x ∈ entries g, type x = intent ∧ s' = push t x := by
  obtain ⟨_,⟨⟩,h⟩ := bindOk h
  obtain ⟨⟨_,t1⟩,h1,h⟩ := bindOk h
  obtain ⟨⟨_,t⟩,hk,h⟩ := bindOk h
  obtain ⟨g,hg,h⟩ := bindOk h
  refine ⟨t,(popIntSuffix hk).trans (popIntSuffix h1),g,checkedIndexMem hg,?_⟩
  split at h <;> cases h
  exact ⟨_,(nthIntentMem ‹_›).1,(nthIntentMem ‹_›).2,rfl⟩

end Results

end Arkade.Asset
