/-!
# Integers of fixed width

Taking an integer as one of fewer bits succeeds exactly when it is one, so nothing wraps.
-/

namespace RecordQuery.Width

/-- The integer of 32 bits with sign that an integer is. -/
def int32? (n : Int) : Option Int32 :=
  if Int32.minValue.toInt ≤ n ∧ n ≤ Int32.maxValue.toInt then some (Int32.ofInt n) else none

/-- The integer of 64 bits with sign that an integer is. -/
def int64? (n : Int) : Option Int64 :=
  if Int64.minValue.toInt ≤ n ∧ n ≤ Int64.maxValue.toInt then some (Int64.ofInt n) else none

/-- The integer of 64 bits without sign that an integer is. -/
def uint64? (n : Int) : Option UInt64 :=
  if 0 ≤ n ∧ n.toNat < UInt64.size then some (UInt64.ofNat n.toNat) else none

/-- The integer of 8 bits without sign that an integer is. -/
def uint8? (n : Int) : Option UInt8 :=
  if 0 ≤ n ∧ n.toNat < UInt8.size then some (UInt8.ofNat n.toNat) else none

theorem int32?_toInt (n : Int32) : int32? n.toInt = some n := by
  rw [int32?, if_pos ⟨Int32.minValue_le_toInt n, Int32.toInt_le n⟩, Int32.ofInt_toInt]

theorem int64?_toInt (n : Int64) : int64? n.toInt = some n := by
  rw [int64?, if_pos ⟨Int64.minValue_le_toInt n, Int64.toInt_le n⟩, Int64.ofInt_toInt]

theorem uint64?_toNat (n : UInt64) : uint64? n.toNat = some n := by
  rw [uint64?, if_pos ⟨Int.natCast_nonneg _, n.toNat_lt⟩, Int.toNat_natCast, UInt64.ofNat_toNat]

theorem toInt_of_int32? {n : Int} {narrow : Int32} (found : int32? n = some narrow) :
    narrow.toInt = n := by
  unfold int32? at found
  split at found
  next bounds =>
    cases found
    exact Int32.toInt_ofInt_of_le bounds.1 (Int.lt_of_le_of_lt bounds.2 (by decide))
  next => cases found

theorem toInt_of_int64? {n : Int} {narrow : Int64} (found : int64? n = some narrow) :
    narrow.toInt = n := by
  unfold int64? at found
  split at found
  next bounds =>
    cases found
    exact Int64.toInt_ofInt_of_le bounds.1 (Int.lt_of_le_of_lt bounds.2 (by decide))
  next => cases found

end RecordQuery.Width
