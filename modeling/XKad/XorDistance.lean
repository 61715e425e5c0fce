import XKad.NodeRecords

/-!
# The XOR distance and the bucket index

`closerToTarget` and `setNodeBucket` are the byte loops of `CloserToTarget` and
`SetNodeBucket`. Both are measured against one number: the exclusive or of the
first `kNodeIdSize` bytes of two words, read most significant byte first.
-/
namespace XKad

/-- `s[i]` on a `const std::string`: position `size()` reads `'\0'`. What lies
beyond is undefined in the source; the model reads zero there as well, and
`closerReads` below keeps the positions a comparison really visits. -/
def charAt (s : Bytes) (i : ℕ) : UInt8 := s.getD i 0

def promote (c : UInt8) : BitVec 32 := c.toBitVec.signExtend 32

/-- `unsigned char result = id[i] ^ target_id[i]`. -/
def xorChar (a t : UInt8) : UInt8 := ⟨(promote a ^^^ promote t).setWidth 8⟩

/-- `std::bitset<8>(static_cast<int>(c))`: the low bits of the value widened to 64 bits. -/
def bitset8 (c : UInt8) : BitVec 8 := ((promote c).signExtend 64).setWidth 8

private theorem setWidth_signExtend {w n m : ℕ} (x : BitVec w) (h : m ≤ n) :
    (x.signExtend n).setWidth m = x.signExtend m := by
  apply BitVec.eq_of_getLsbD_eq
  intro i hi
  have hn : i < n := by omega
  simp only [BitVec.getLsbD_setWidth, BitVec.getLsbD_signExtend, hi, hn, decide_true, Bool.true_and]

theorem xorChar_eq (a t : UInt8) : xorChar a t = a ^^^ t := by
  have h : (promote a ^^^ promote t).setWidth 8 = a.toBitVec ^^^ t.toBitVec := by
    rw [BitVec.setWidth_xor, promote, promote, setWidth_signExtend _ (by omega),
      setWidth_signExtend _ (by omega), BitVec.signExtend_eq, BitVec.signExtend_eq]
  rw [xorChar, h]
  rfl

theorem bitset8_eq (c : UInt8) : bitset8 c = c.toBitVec := by
  rw [bitset8, setWidth_signExtend _ (by omega), promote,
    BitVec.signExtend_eq_setWidth_of_le _ (by omega), setWidth_signExtend _ (by omega),
    BitVec.signExtend_eq]

/-- The loop of `CloserToTarget` from position `i` with `n` positions left. -/
def closerFrom (id1 id2 target : Bytes) (i : ℕ) : ℕ → Bool
  | 0 => false
  | n + 1 =>
    let result1 := xorChar (charAt id1 i) (charAt target i)
    let result2 := xorChar (charAt id2 i) (charAt target i)
    if result1 ≠ result2 then decide (result1 < result2) else closerFrom id1 id2 target (i + 1) n

def closerToTarget (id1 id2 target : Bytes) : Bool := closerFrom id1 id2 target 0 kNodeIdSize

/-- The positions the same loop indexes. -/
def closerReadsFrom (id1 id2 target : Bytes) (i : ℕ) : ℕ → List ℕ
  | 0 => []
  | n + 1 =>
    let result1 := xorChar (charAt id1 i) (charAt target i)
    let result2 := xorChar (charAt id2 i) (charAt target i)
    if result1 ≠ result2 then [i] else i :: closerReadsFrom id1 id2 target (i + 1) n

def closerReads (id1 id2 target : Bytes) : List ℕ := closerReadsFrom id1 id2 target 0 kNodeIdSize

def window (s : Bytes) (i : ℕ) : ℕ → Bytes
  | 0 => []
  | n + 1 => charAt s i :: window s (i + 1) n

@[simp] theorem length_window (s : Bytes) (i n : ℕ) : (window s i n).length = n := by
  induction n generalizing i with
  | zero => rfl
  | succ n ih => simp [window, ih]

theorem window_eq (s : Bytes) (i n : ℕ) (h : i + n ≤ s.length) :
    window s i n = (s.drop i).take n := by
  induction n generalizing i with
  | zero => simp [window]
  | succ n ih =>
    have hi : i < s.length := by omega
    rw [window, ih (i + 1) (by omega), List.drop_eq_getElem_cons hi, List.take_succ_cons]
    simp [charAt, hi]

def idValue (s : Bytes) : ℕ := bigEndian (window s 0 kNodeIdSize)

theorem idValue_eq {s : Bytes} (h : s.length = kNodeIdSize) : idValue s = bigEndian s := by
  rw [idValue, window_eq s 0 kNodeIdSize (by omega), List.drop_zero, List.take_of_length_le (by omega)]

theorem idValue_inj {a b : Bytes} (ha : a.length = kNodeIdSize) (hb : b.length = kNodeIdSize)
    (h : idValue a = idValue b) : a = b := by
  rw [idValue_eq ha, idValue_eq hb] at h
  exact bigEndian_inj (ha.trans hb.symm) h

def xorDistance (a b : Bytes) : ℕ := idValue a ^^^ idValue b

theorem xorDistance_comm (a b : Bytes) : xorDistance a b = xorDistance b a := Nat.xor_comm _ _

@[simp] theorem xorDistance_self (a : Bytes) : xorDistance a a = 0 := Nat.xor_self _

theorem xorDistance_inj {a b : Bytes} (t : Bytes) (ha : a.length = kNodeIdSize)
    (hb : b.length = kNodeIdSize) (h : xorDistance a t = xorDistance b t) : a = b :=
  idValue_inj ha hb (Nat.xor_left_injective h)

theorem xorDistance_pos {a b : Bytes} (ha : a.length = kNodeIdSize) (hb : b.length = kNodeIdSize)
    (h : a ≠ b) : 0 < xorDistance a b := by
  refine Nat.pos_of_ne_zero (fun h0 => h ?_)
  exact xorDistance_inj b ha hb (h0.trans (xorDistance_self b).symm)

private theorem closerFrom_iff (a b t : Bytes) (i n : ℕ) :
    closerFrom a b t i n = true ↔
      bigEndian (List.zipWith (· ^^^ ·) (window a i n) (window t i n)) <
        bigEndian (List.zipWith (· ^^^ ·) (window b i n) (window t i n)) := by
  induction n generalizing i with
  | zero => simp [closerFrom, window]
  | succ n ih =>
    simp only [closerFrom, window, List.zipWith_cons_cons, xorChar_eq]
    rw [bigEndian_cons_lt_iff _ _ (by simp)]
    by_cases h : charAt a i ^^^ charAt t i = charAt b i ^^^ charAt t i
    · simp [h, ih]
    · simp [h]

/-- The byte loop compares XOR distances. -/
theorem closerToTarget_iff (a b t : Bytes) :
    closerToTarget a b t = true ↔ xorDistance a t < xorDistance b t := by
  rw [closerToTarget, closerFrom_iff, bigEndian_xor (by simp), bigEndian_xor (by simp)]
  rfl

theorem closerToTarget_eq (a b t : Bytes) :
    closerToTarget a b t = decide (xorDistance a t < xorDistance b t) := by
  rw [Bool.eq_iff_iff, closerToTarget_iff, decide_eq_true_iff]

/-- The inner loop of `SetNodeBucket`: `bit_index` from `b` on, `k` steps left. -/
def firstDifferentBit (holder node : BitVec 8) (b : ℕ) : ℕ → ℕ
  | 0 => b
  | k + 1 =>
    if holder.getLsbD (7 - b) ≠ node.getLsbD (7 - b) then b
    else firstDifferentBit holder node (b + 1) k

/-- The outer loop from `id_bit_index = i` with `n` bytes left. -/
def bucketFrom (localId nodeId : Bytes) (i : ℕ) : ℕ → Option ℤ
  | 0 => none
  | n + 1 =>
    if charAt localId i ≠ charAt nodeId i then
      some (8 * ((kNodeIdSize : ℤ) - i) -
        firstDifferentBit (bitset8 (charAt localId i)) (bitset8 (charAt nodeId i)) 0 8)
    else bucketFrom localId nodeId (i + 1) n

/-- `SetNodeBucket`: the return code and the node with its `bucket_index`. -/
def setNodeBucket (localId : Bytes) (node : NodeInfo) : KadCode × NodeInfo :=
  match bucketFrom localId node.nodeId 0 kNodeIdSize with
  | some b => (.kadSuccess, { node with bucketIndex := b })
  | none => (.kadFailed, { node with bucketIndex := kSelfBucketIndex })

private theorem firstDifferentBit_xor (h n : BitVec 8) (b k : ℕ) :
    firstDifferentBit h n b k = firstDifferentBit (h ^^^ n) 0 b k := by
  induction k generalizing b with
  | zero => rfl
  | succ k ih =>
    have hz : (0 : BitVec 8).getLsbD (7 - b) = false := BitVec.getLsbD_zero
    simp only [firstDifferentBit, BitVec.getLsbD_xor, hz, ih]
    cases h.getLsbD (7 - b) <;> cases n.getLsbD (7 - b) <;> rfl

private theorem firstDifferentBit_bounds : ∀ x : Fin 256, x ≠ 0 →
    firstDifferentBit (BitVec.ofFin x) 0 0 8 < 8 ∧
      2 ^ (7 - firstDifferentBit (BitVec.ofFin x) 0 0 8) ≤ x.val ∧
      x.val < 2 ^ (8 - firstDifferentBit (BitVec.ofFin x) 0 0 8) := by
  decide +kernel

/-- The bit scan finds the bit length of the exclusive or of two different bytes. -/
private theorem firstDifferentBit_eq {x y : UInt8} (hxy : x ≠ y) :
    (8 : ℤ) - firstDifferentBit x.toBitVec y.toBitVec 0 8 = (x ^^^ y).toNat.size := by
  have hx : (x ^^^ y).toBitVec.toFin ≠ 0 := by
    intro h
    apply hxy
    have h0 : (x ^^^ y).toNat = 0 := congrArg Fin.val h
    rw [UInt8.toNat_xor, Nat.xor_eq_zero_iff] at h0
    exact UInt8.toNat_inj.mp h0
  obtain ⟨hlt, hlow, hhigh⟩ := firstDifferentBit_bounds _ hx
  rw [firstDifferentBit_xor]
  change (8 : ℤ) - firstDifferentBit (BitVec.ofFin (x ^^^ y).toBitVec.toFin) 0 0 8 = _
  set k := firstDifferentBit (BitVec.ofFin (x ^^^ y).toBitVec.toFin) 0 0 8
  have hs : (x ^^^ y).toNat.size = 8 - k := by
    refine le_antisymm (Nat.size_le.mpr hhigh) ?_
    have h := Nat.lt_size.mpr hlow
    change 7 - k < (x ^^^ y).toNat.size at h
    omega
  rw [hs]
  omega

private theorem bucketFrom_eq (l s : Bytes) (i n : ℕ) (hin : i + n = kNodeIdSize) :
    bucketFrom l s i n = if window l i n = window s i n then none else
      some ((bigEndian (List.zipWith (· ^^^ ·) (window l i n) (window s i n))).size : ℤ) := by
  induction n generalizing i with
  | zero => simp [bucketFrom, window]
  | succ n ih =>
    simp only [bucketFrom, window, List.zipWith_cons_cons, List.cons.injEq]
    by_cases h : charAt l i = charAt s i
    · rw [ih (i + 1) (by omega)]
      simp [h, bigEndian_zero_cons]
    · have hx : charAt l i ^^^ charAt s i ≠ 0 := fun h0 => h (UInt8.xor_eq_zero_iff.mp h0)
      rw [if_pos h, if_neg (fun hc => h hc.1), size_bigEndian_cons hx, bitset8_eq, bitset8_eq]
      have hb := firstDifferentBit_eq h
      simp only [List.length_zipWith, length_window, min_self, Option.some.injEq]
      push_cast
      omega

/-- `SetNodeBucket` in one equation: the bucket is the bit length of the distance. -/
theorem setNodeBucket_eq {l : Bytes} (hl : l.length = kNodeIdSize) {node : NodeInfo}
    (hn : node.nodeId.length = kNodeIdSize) :
    setNodeBucket l node = if l = node.nodeId then
        (.kadFailed, { node with bucketIndex := kSelfBucketIndex })
      else (.kadSuccess, { node with bucketIndex := (xorDistance l node.nodeId).size }) := by
  have hw : window l 0 kNodeIdSize = window node.nodeId 0 kNodeIdSize ↔ l = node.nodeId := by
    rw [window_eq l 0 _ (by omega), window_eq node.nodeId 0 _ (by omega), List.drop_zero, List.drop_zero,
      List.take_of_length_le (by omega), List.take_of_length_le (by omega)]
  rw [setNodeBucket, bucketFrom_eq l node.nodeId 0 kNodeIdSize (by omega), bigEndian_xor (by simp)]
  by_cases h : l = node.nodeId
  · simp [h]
  · rw [if_neg (fun hc => h (hw.mp hc)), if_neg h]
    rfl

theorem size_xorDistance_bounds {a b : Bytes} (ha : a.length = kNodeIdSize)
    (hb : b.length = kNodeIdSize) (h : a ≠ b) :
    1 ≤ (xorDistance a b).size ∧ (xorDistance a b).size ≤ 8 * kNodeIdSize := by
  refine ⟨Nat.size_pos.mpr (xorDistance_pos ha hb h), Nat.size_le.mpr ?_⟩
  have hbound (s : Bytes) : idValue s < 2 ^ (8 * kNodeIdSize) := by
    have hs := bigEndian_lt (window s 0 kNodeIdSize)
    rw [length_window] at hs
    rw [pow_mul]
    exact hs
  exact Nat.xor_lt_two_pow (hbound a) (hbound b)

theorem xorDistance_lt_of_size {a b t : Bytes} (h : (xorDistance a t).size < (xorDistance b t).size) :
    xorDistance a t < xorDistance b t := by
  by_contra hle
  exact absurd (Nat.size_le_size (not_lt.mp hle)) (not_le.mpr h)

theorem setNodeBucket_bucketIndex {l : Bytes} (hl : l.length = kNodeIdSize) {node : NodeInfo}
    (hn : node.nodeId.length = kNodeIdSize) :
    (setNodeBucket l node).2.bucketIndex = (xorDistance node.nodeId l).size := by
  rw [setNodeBucket_eq hl hn, xorDistance_comm]
  split
  · rename_i h
    simp [h, kSelfBucketIndex]
  · rfl

/-- `SetNodeBucket` fails on the local id alone, finds the bit length of the
exclusive or of all others, and its buckets are ordered as `CloserToTarget` orders
the ids by their distance from the local id. -/
theorem setNodeBucket_bitLength {l : Bytes} (hl : l.length = kNodeIdSize) :
    (∀ node : NodeInfo, node.nodeId.length = kNodeIdSize →
      ((setNodeBucket l node).1 = .kadFailed ∧ (setNodeBucket l node).2.bucketIndex = kSelfBucketIndex ↔
          node.nodeId = l) ∧
        (node.nodeId ≠ l → setNodeBucket l node = (.kadSuccess,
          { node with bucketIndex := ((bigEndian l ^^^ bigEndian node.nodeId).size : ℕ) }))) ∧
      ∀ x y : NodeInfo, x.nodeId.length = kNodeIdSize → y.nodeId.length = kNodeIdSize →
        (setNodeBucket l x).2.bucketIndex < (setNodeBucket l y).2.bucketIndex →
        closerToTarget x.nodeId y.nodeId l = true := by
  constructor
  · intro node hn
    have heq := setNodeBucket_eq hl hn
    by_cases h : l = node.nodeId
    · rw [if_pos h] at heq
      exact ⟨iff_of_true (by simp [heq]) h.symm, fun hne => absurd h.symm hne⟩
    · rw [if_neg h] at heq
      refine ⟨iff_of_false (by simp [heq]) (fun hc => h hc.symm), fun _ => ?_⟩
      rw [heq, xorDistance, idValue_eq hl, idValue_eq hn]
  · intro x y hx hy hlt
    rw [setNodeBucket_bucketIndex hl hx, setNodeBucket_bucketIndex hl hy] at hlt
    rw [closerToTarget_iff]
    exact xorDistance_lt_of_size (by exact_mod_cast hlt)

theorem setNodeBucket_bitLength_zeros :
    (setNodeBucket (List.replicate 36 0) { nodeId := List.replicate 35 0 ++ [0x80] }).2.bucketIndex = 8 ∧
      closerToTarget (List.replicate 36 0) (List.replicate 35 0 ++ [0x80]) (List.replicate 36 0) = true :=
  ⟨by decide +kernel, (setNodeBucket_bitLength (l := List.replicate 36 0) rfl).2
    { nodeId := List.replicate 36 0 } { nodeId := List.replicate 35 0 ++ [0x80] } rfl rfl (by decide +kernel)⟩

end XKad
