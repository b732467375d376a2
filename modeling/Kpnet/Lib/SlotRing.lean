import Kpnet.Lib.Counter

/-!
# Rings shared through two indices

A producer and a consumer share an array of `2 ^ k` slots. Each side owns one 32-bit index
that is never reset and wraps modulo 2^32; the slot of an index is its low `k` bits. What
the producer has published and the consumer has not released is the window of the ring,
and the slots right behind it are the producer's to write.
-/

structure SlotRing (α : Type) where
  producer : UInt32
  consumer : UInt32
  slots : Nat → α

namespace SlotRing

variable {α : Type}

/-- The slot of an index, `index & (2 ^ k - 1)`. -/
def slot (k : Nat) (index : UInt32) : Nat := (index &&& UInt32.ofNat (2 ^ k - 1)).toNat

/-- How many entries are published and not released. -/
def used (r : SlotRing α) : Nat := (r.producer - r.consumer).toNat

/-- The `n` entries from an index on. -/
def entries (k : Nat) (r : SlotRing α) (index : UInt32) (n : Nat) : List α :=
  (List.range n).map fun i => r.slots (slot k (index + UInt32.ofNat i))

/-- The published entries, oldest first. -/
def window (k : Nat) (r : SlotRing α) : List α := r.entries k r.consumer r.used

/-- A store into the `i`-th slot behind the window. -/
def write (k : Nat) (r : SlotRing α) (i : Nat) (v : α) : SlotRing α :=
  { r with slots := Function.update r.slots (slot k (r.producer + UInt32.ofNat i)) v }

/-- Stores into the first `n` slots behind the window. -/
def writeAll (k : Nat) (r : SlotRing α) (f : Nat → α) (n : Nat) : SlotRing α :=
  (List.range n).foldl (fun r i => r.write k i (f i)) r

/-- A store of the producer's index. -/
def publish (r : SlotRing α) (n : UInt32) : SlotRing α := { r with producer := r.producer + n }

/-- A store of the consumer's index. -/
def release (r : SlotRing α) (n : UInt32) : SlotRing α := { r with consumer := r.consumer + n }

@[simp] theorem write_producer (k : Nat) (r : SlotRing α) (i : Nat) (v : α) :
    (r.write k i v).producer = r.producer := rfl

@[simp] theorem write_consumer (k : Nat) (r : SlotRing α) (i : Nat) (v : α) :
    (r.write k i v).consumer = r.consumer := rfl

@[simp] theorem used_write (k : Nat) (r : SlotRing α) (i : Nat) (v : α) :
    (r.write k i v).used = r.used := rfl

@[simp] theorem length_entries (k : Nat) (r : SlotRing α) (index : UInt32) (n : Nat) :
    (r.entries k index n).length = n := by
  simp [entries]

@[simp] theorem length_window (k : Nat) (r : SlotRing α) : (r.window k).length = r.used :=
  length_entries k r r.consumer r.used

/-- A ring whose indices are equal is empty. -/
theorem used_eq_zero {r : SlotRing α} (empty : r.producer = r.consumer) : r.used = 0 := by
  rw [used, empty, UInt32.sub_self]
  rfl

theorem window_eq_nil (k : Nat) {r : SlotRing α} (empty : r.producer = r.consumer) :
    r.window k = [] := by
  apply List.eq_nil_of_length_eq_zero
  rw [length_window, used_eq_zero empty]

/-- The slot of an index that has advanced by `i`. -/
theorem slot_add (k : Nat) (bounded : k ≤ 32) (index : UInt32) (i : Nat) :
    slot k (index + UInt32.ofNat i) = (index.toNat + i) % 2 ^ k := by
  have small : 2 ^ k ≤ 2 ^ 32 := Nat.pow_le_pow_right (by decide) bounded
  have positive : 0 < 2 ^ k := Nat.two_pow_pos k
  have divides : 2 ^ k ∣ 2 ^ 32 := Nat.pow_dvd_pow 2 bounded
  rw [slot, UInt32.toNat_and, UInt32.toNat_add, UInt32.toNat_ofNat', UInt32.toNat_ofNat',
    Nat.mod_eq_of_lt (show 2 ^ k - 1 < 2 ^ 32 by omega), Nat.and_two_pow_sub_one_eq_mod,
    Nat.mod_mod_of_dvd _ divides, Nat.add_mod, Nat.mod_mod_of_dvd _ divides, ← Nat.add_mod]

/-- The producer's index, from the consumer's side. -/
theorem producer_eq (r : SlotRing α) : r.producer = r.consumer + UInt32.ofNat r.used := by
  rw [used, UInt32.ofNat_toNat, UInt32.add_comm, UInt32.sub_add_cancel]

/-- The slots behind the window, from the consumer's side. -/
theorem slot_producer_add (k : Nat) (bounded : k ≤ 32) (r : SlotRing α) (i : Nat) :
    slot k (r.producer + UInt32.ofNat i) = (r.consumer.toNat + (r.used + i)) % 2 ^ k := by
  rw [producer_eq, UInt32.add_assoc, ← UInt32.ofNat_add, slot_add k bounded]

/-- A run of entries is cut anywhere. -/
theorem entries_add (k : Nat) (r : SlotRing α) (index : UInt32) (m n : Nat) :
    r.entries k index (m + n) =
      r.entries k index m ++ r.entries k (index + UInt32.ofNat m) n := by
  simp only [entries, List.range_add, List.map_append, List.map_map]
  congr 1
  refine List.map_congr_left fun i _ => ?_
  simp only [Function.comp_apply, UInt32.ofNat_add, UInt32.add_assoc]

/-- A store behind the window leaves the entries before it alone. -/
theorem entries_write (k : Nat) (bounded : k ≤ 32) (r : SlotRing α) (i n : Nat) (v : α)
    (before : n ≤ r.used + i) (room : r.used + i < 2 ^ k) :
    (r.write k i v).entries k r.consumer n = r.entries k r.consumer n := by
  refine List.map_congr_left fun j member => ?_
  have inside := List.mem_range.mp member
  refine Function.update_of_ne ?_ v r.slots
  rw [slot_add k bounded, slot_producer_add k bounded]
  -- fewer than `2 ^ k` positions apart, two indices share no slot
  intro same
  have equal := Counter.eq_of_mod same (by omega) (by omega)
  omega

/-- The published entries and the first `i` behind them. -/
def upTo (k : Nat) (r : SlotRing α) (i : Nat) : List α := r.entries k r.consumer (r.used + i)

theorem upTo_zero (k : Nat) (r : SlotRing α) : r.upTo k 0 = r.window k := rfl

/-- The producer writes its entries one behind the other. -/
theorem upTo_write (k : Nat) (bounded : k ≤ 32) (r : SlotRing α) (i : Nat) (v : α)
    (room : r.used + i < 2 ^ k) : (r.write k i v).upTo k (i + 1) = r.upTo k i ++ [v] := by
  rw [upTo, upTo, write_consumer, used_write, ← Nat.add_assoc, entries_add,
    entries_write k bounded r i _ v (by omega) room]
  congr 1
  -- the entry right behind the ones before is the slot that was written
  have found : slot k (r.consumer + UInt32.ofNat (r.used + i) + UInt32.ofNat 0) =
      slot k (r.producer + UInt32.ofNat i) := by
    rw [slot_producer_add k bounded, UInt32.add_assoc, ← UInt32.ofNat_add, slot_add k bounded,
      Nat.add_zero]
  simp only [entries, List.range_one, List.map_singleton, found, write, Function.update_self]

theorem writeAll_succ (k : Nat) (r : SlotRing α) (f : Nat → α) (n : Nat) :
    r.writeAll k f (n + 1) = (r.writeAll k f n).write k n (f n) := by
  rw [writeAll, List.range_succ, List.foldl_append]
  rfl

theorem writeAll_congr (k : Nat) (r : SlotRing α) {f g : Nat → α} (n : Nat)
    (same : ∀ i < n, f i = g i) : r.writeAll k f n = r.writeAll k g n := by
  induction n with
  | zero => rfl
  | succ n ih =>
    rw [writeAll_succ, writeAll_succ, same n (Nat.lt_succ_self n),
      ih fun i inside => same i (Nat.lt_succ_of_lt inside)]

@[simp] theorem used_writeAll (k : Nat) (r : SlotRing α) (f : Nat → α) (n : Nat) :
    (r.writeAll k f n).used = r.used := by
  induction n with
  | zero => rfl
  | succ n ih => rw [writeAll_succ, used_write, ih]

theorem upTo_writeAll (k : Nat) (bounded : k ≤ 32) (r : SlotRing α) (f : Nat → α) (n : Nat)
    (room : r.used + n ≤ 2 ^ k) :
    (r.writeAll k f n).upTo k n = r.window k ++ (List.range n).map f := by
  induction n with
  | zero =>
    rw [List.range_zero, List.map_nil, List.append_nil]
    rfl
  | succ n ih =>
    rw [writeAll_succ, upTo_write k bounded _ n _ (by rw [used_writeAll]; omega), ih (by omega),
      List.range_succ, List.map_append, List.map_singleton, List.append_assoc]

theorem used_publish (r : SlotRing α) (n : UInt32) (room : r.used + n.toNat < 2 ^ 32) :
    (r.publish n).used = r.used + n.toNat := by
  have advanced : r.producer + n - r.consumer = (r.producer - r.consumer) + n := by
    rw [UInt32.sub_eq_add_neg, UInt32.sub_eq_add_neg, UInt32.add_assoc, UInt32.add_comm n,
      UInt32.add_assoc]
  rw [used, publish, advanced, UInt32.toNat_add, ← used, Nat.mod_eq_of_lt room]

/-- Publishing extends the window by what was written behind it. -/
theorem window_publish (k : Nat) (r : SlotRing α) (n : UInt32)
    (room : r.used + n.toNat < 2 ^ 32) : (r.publish n).window k = r.upTo k n.toNat := by
  rw [window, used_publish r n room]
  rfl

theorem used_release (r : SlotRing α) (n : UInt32) (available : n.toNat ≤ r.used) :
    (r.release n).used = r.used - n.toNat := by
  have advanced : r.producer - (r.consumer + n) = (r.producer - r.consumer) - n := by
    rw [UInt32.sub_eq_add_neg, UInt32.neg_add, UInt32.sub_eq_add_neg, UInt32.sub_eq_add_neg,
      UInt32.sub_eq_add_neg, UInt32.add_assoc]
  rw [used, release, advanced, UInt32.toNat_sub_of_le _ _ (UInt32.le_iff_toNat_le.mpr available),
    ← used]

/-- Releasing drops the oldest entries. -/
theorem window_release (k : Nat) (r : SlotRing α) (n : UInt32) (available : n.toNat ≤ r.used) :
    (r.release n).window k = (r.window k).drop n.toNat := by
  rw [window, window, used_release r n available]
  conv => rhs; rw [← Nat.add_sub_cancel' available, entries_add]
  rw [List.drop_append_of_le_length (by simp), List.drop_of_length_le (by simp),
    List.nil_append, UInt32.ofNat_toNat]
  rfl

theorem release_release (r : SlotRing α) (m n : Nat) :
    (r.release (UInt32.ofNat m)).release (UInt32.ofNat n) = r.release (UInt32.ofNat (m + n)) := by
  rw [release, release, release, UInt32.ofNat_add, UInt32.add_assoc]

/-- The first entries of the window. -/
theorem entries_consumer (k : Nat) (r : SlotRing α) (n : Nat) (available : n ≤ r.used) :
    r.entries k r.consumer n = (r.window k).take n := by
  rw [window]
  conv => rhs; rw [← Nat.add_sub_cancel' available, entries_add]
  rw [List.take_append_of_le_length (by simp), List.take_of_length_le (by simp)]

/-- A ring whose indices differ has an entry to take. -/
theorem used_pos (r : SlotRing α) (differ : r.producer ≠ r.consumer) : 1 ≤ r.used := by
  refine Nat.pos_of_ne_zero fun zero => differ ?_
  have producer := r.producer_eq
  rw [zero] at producer
  simpa using producer

/-- The consumer takes one entry, the oldest. -/
theorem window_take_one (k : Nat) (r : SlotRing α) (differ : r.producer ≠ r.consumer) :
    r.window k = r.slots (slot k r.consumer) :: (r.release 1).window k := by
  have available : (1 : UInt32).toNat ≤ r.used := r.used_pos differ
  have oldest : [r.slots (slot k r.consumer)] = (r.window k).take 1 := by
    rw [← entries_consumer k r 1 available]
    simp [entries]
  rw [window_release k r 1 available, ← List.singleton_append, oldest, UInt32.toNat_one,
    List.take_append_drop]

/-- The producer adds one entry at the end. -/
theorem window_add_one (k : Nat) (bounded : k ≤ 31) (r : SlotRing α) (v : α)
    (room : r.used < 2 ^ k) :
    ((r.write k 0 v).publish 1).window k = r.window k ++ [v] := by
  have small : 2 ^ k ≤ 2 ^ 31 := Nat.pow_le_pow_right (by decide) bounded
  rw [window_publish k _ 1 (by rw [used_write, UInt32.toNat_one]; omega), UInt32.toNat_one,
    upTo_write k (by omega) r 0 v (by omega), upTo_zero]

end SlotRing
