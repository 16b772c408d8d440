import DurableQueue.Key

/-!
# The order of keys

Byte strings of one length, most significant byte first, are ordered as the numbers they stand for
(`Bytes.bigEndian_lt_iff`). Hence the key of an id determines it (`decode_encode`), what can be read as a
key is one (`eq_encode_of_decode`), and the order of keys is the order of ids (`encode_lt_iff`).
-/

namespace DurableQueue

/-! ## Numbers as bytes, most significant first -/

namespace Bytes

theorem weight_pos (k : Nat) : 0 < weight k := by
  induction k with
  | zero => exact Nat.one_pos
  | succ k ih => exact Nat.mul_pos (by decide) ih

theorem toNat_leadingByte {k n : Nat} (h : n < weight (k + 1)) :
    (UInt8.ofNat (n / weight k)).toNat = n / weight k := by
  rw [UInt8.toNat_ofNat']
  apply Nat.mod_eq_of_lt
  rw [Nat.div_lt_iff_lt_mul (weight_pos k)]
  exact h

/-- Bytes are read on top of what has been read before. -/
theorem foldl_bigEndian (k : Nat) : ∀ n acc : Nat, n < weight k →
    (bigEndian k n).foldl (fun n b => 256 * n + b.toNat) acc = acc * weight k + n := by
  induction k with
  | zero =>
    intro n acc h
    rw [weight] at h
    rw [bigEndian, List.foldl_nil, weight]
    omega
  | succ k ih =>
    intro n acc h
    have rest : n % weight k < weight k := Nat.mod_lt _ (weight_pos k)
    rw [bigEndian, List.foldl_cons, toNat_leadingByte h, ih _ _ rest]
    calc (256 * acc + n / weight k) * weight k + n % weight k
        = acc * (256 * weight k) + (weight k * (n / weight k) + n % weight k) := by grind
      _ = acc * weight (k + 1) + n := by rw [Nat.div_add_mod, weight]

theorem ofBigEndian_bigEndian {k n : Nat} (h : n < weight k) : ofBigEndian (bigEndian k n) = n := by
  rw [ofBigEndian, foldl_bigEndian k n 0 h, Nat.zero_mul, Nat.zero_add]

/-- What has been read before counts above all the bytes to come. -/
theorem foldl_eq (bs : Bytes) (acc : Nat) :
    bs.foldl (fun n b => 256 * n + b.toNat) acc = acc * weight bs.length + ofBigEndian bs := by
  unfold ofBigEndian
  induction bs generalizing acc with
  | nil => simp [weight]
  | cons b bs ih =>
    rw [List.foldl_cons, List.foldl_cons, ih, ih (256 * 0 + b.toNat), List.length_cons, weight]
    grind

theorem ofBigEndian_cons (b : UInt8) (bs : Bytes) :
    ofBigEndian (b :: bs) = b.toNat * weight bs.length + ofBigEndian bs := by
  rw [ofBigEndian, List.foldl_cons, foldl_eq, Nat.mul_zero, Nat.zero_add]

theorem ofBigEndian_lt (bs : Bytes) : ofBigEndian bs < weight bs.length := by
  induction bs with
  | nil => exact Nat.one_pos
  | cons b bs ih =>
    have small : (b.toNat + 1) * weight bs.length ≤ 256 * weight bs.length :=
      Nat.mul_le_mul_right _ b.toNat_lt
    rw [Nat.add_mul, Nat.one_mul] at small
    rw [ofBigEndian_cons, List.length_cons, weight]
    omega

/-- Every byte string is the writing of a number. -/
theorem bigEndian_ofBigEndian (bs : Bytes) : bigEndian bs.length (ofBigEndian bs) = bs := by
  induction bs with
  | nil => rfl
  | cons b bs ih =>
    have small := ofBigEndian_lt bs
    have leading : ofBigEndian (b :: bs) / weight bs.length = b.toNat := by
      rw [ofBigEndian_cons, Nat.mul_comm, Nat.mul_add_div (weight_pos _), Nat.div_eq_of_lt small,
        Nat.add_zero]
    have rest : ofBigEndian (b :: bs) % weight bs.length = ofBigEndian bs := by
      rw [ofBigEndian_cons, Nat.mul_comm, Nat.mul_add_mod, Nat.mod_eq_of_lt small]
    rw [List.length_cons, bigEndian, leading, rest, ih, UInt8.ofNat_toNat]

/-- Comparing byte by byte from the most significant one compares the numbers. -/
theorem bigEndian_lt_iff (k : Nat) : ∀ m n : Nat, m < weight k → n < weight k →
    (bigEndian k m < bigEndian k n ↔ m < n) := by
  induction k with
  | zero =>
    intro m n hm hn
    have : ¬ m < n := by rw [weight] at hm hn; omega
    simp [bigEndian, this]
  | succ k ih =>
    intro m n hm hn
    have hm' : m % weight k < weight k := Nat.mod_lt _ (weight_pos k)
    have hn' : n % weight k < weight k := Nat.mod_lt _ (weight_pos k)
    rw [bigEndian, bigEndian, List.cons_lt_cons_iff, ih _ _ hm' hn', UInt8.lt_iff_toNat_lt,
      ← UInt8.toNat_inj, toNat_leadingByte hm, toNat_leadingByte hn]
    have em := Nat.div_add_mod m (weight k)
    have en := Nat.div_add_mod n (weight k)
    constructor
    · rintro (lt | ⟨eq, lt⟩)
      · -- a smaller leading byte outweighs all the bytes after it
        have : weight k * (m / weight k + 1) ≤ weight k * (n / weight k) := Nat.mul_le_mul_left _ lt
        rw [Nat.mul_add] at this
        omega
      · rw [eq] at em
        omega
    · intro lt
      rcases Nat.lt_or_ge (m / weight k) (n / weight k) with h | h
      · exact Or.inl h
      · have eq : m / weight k = n / weight k :=
          Nat.le_antisymm (Nat.div_le_div_right (Nat.le_of_lt lt)) h
        rw [eq] at em
        exact Or.inr ⟨eq, by omega⟩

end Bytes

/-! ## Keys -/

namespace Key

theorem toNat_lt (id : UInt64) : id.toNat < Bytes.weight length := id.toNat_lt

@[simp] theorem decode_encode (id : UInt64) : decode (encode id) = .ok id := by
  have long : (encode id).length = length := length_encode id
  rw [decode, if_pos long, encode, Bytes.ofBigEndian_bigEndian (toNat_lt id), UInt64.ofNat_toNat]

/-- What can be read as a key is the key of the id read. -/
theorem eq_encode_of_decode {key : Bytes} {id : UInt64} (h : decode key = .ok id) : key = encode id := by
  unfold decode at h
  split at h
  · next long =>
    obtain rfl := Except.ok.inj h
    have small := Bytes.ofBigEndian_lt key
    rw [long] at small
    rw [encode, UInt64.toNat_ofNat_of_lt' small, ← long, Bytes.bigEndian_ofBigEndian]
  · cases h

theorem eq_length_of_decode {key : Bytes} {n : Nat} (h : decode key = .error n) :
    n = key.length ∧ key.length ≠ 8 := by
  unfold decode at h
  split at h
  · cases h
  · next short => exact ⟨(Except.error.inj h).symm, short⟩

theorem encode_injective {a b : UInt64} (h : encode a = encode b) : a = b := by
  have : (Except.ok a : Except Nat UInt64) = .ok b := by rw [← decode_encode a, h, decode_encode b]
  exact Except.ok.inj this

/-- The order of keys is the order of ids. -/
theorem encode_lt_iff {a b : UInt64} : encode a < encode b ↔ a < b := by
  rw [encode, encode, Bytes.bigEndian_lt_iff _ _ _ (toNat_lt a) (toNat_lt b), UInt64.lt_iff_toNat_lt]

theorem encode_le_iff {a b : UInt64} : encode a ≤ encode b ↔ a ≤ b := by
  rw [← List.not_lt, encode_lt_iff, UInt64.not_lt]

end Key

end DurableQueue
