set_option autoImplicit false

/-!
# Big-endian byte strings

Naturals written as byte strings of a fixed width, most significant byte first,
and read back.  Digests travel in this form into the hash functions and out of
them.
-/

namespace MountainRange.Bytes

/-- The `width` least significant bytes of `n`, most significant first. -/
def ofNat : (width : Nat) → (n : Nat) → List UInt8
  | 0, _ => []
  | width + 1, n => ofNat width (n / 256) ++ [UInt8.ofNat n]

/-- The number that a byte string spells, most significant byte first. -/
def toNat (bytes : List UInt8) : Nat :=
  bytes.foldl (fun acc b => acc * 256 + b.toNat) 0

@[simp] theorem length_ofNat (width n : Nat) : (ofNat width n).length = width := by
  induction width generalizing n with
  | zero => rfl
  | succ width ih => simp [ofNat, ih]

theorem foldl_eq (bytes : List UInt8) (acc : Nat) :
    bytes.foldl (fun acc b => acc * 256 + b.toNat) acc =
      acc <<< (8 * bytes.length) + toNat bytes := by
  induction bytes generalizing acc with
  | nil => simp [toNat]
  | cons b bytes ih =>
    have hfirst : toNat (b :: bytes) = b.toNat <<< (8 * bytes.length) + toNat bytes := by
      rw [toNat, List.foldl_cons, ih, Nat.zero_mul, Nat.zero_add]
    have hbyte : acc <<< (8 * (bytes.length + 1)) = (acc * 256) <<< (8 * bytes.length) := by
      rw [Nat.mul_succ, Nat.add_comm, Nat.shiftLeft_add, Nat.shiftLeft_eq acc 8]
    rw [List.foldl_cons, ih, hfirst, List.length_cons, hbyte, Nat.shiftLeft_eq, Nat.shiftLeft_eq,
      Nat.shiftLeft_eq, Nat.add_mul, Nat.add_assoc]

/-- What two byte strings spell one after the other. -/
theorem toNat_append (front back : List UInt8) :
    toNat (front ++ back) = toNat front <<< (8 * back.length) + toNat back := by
  rw [toNat, List.foldl_append, foldl_eq]
  rfl

theorem foldl_lt (bytes : List UInt8) (acc : Nat) :
    bytes.foldl (fun acc b => acc * 256 + b.toNat) acc < (acc + 1) <<< (8 * bytes.length) := by
  induction bytes generalizing acc with
  | nil => simp
  | cons b bytes ih =>
    have hb := b.toNat_lt
    have hstep : (acc + 1) <<< (8 * (b :: bytes).length) =
        ((acc + 1) <<< 8) <<< (8 * bytes.length) := by
      rw [← Nat.shiftLeft_add, List.length_cons, Nat.mul_succ, Nat.add_comm 8]
    rw [hstep]
    refine Nat.lt_of_lt_of_le (ih (acc * 256 + b.toNat)) ?_
    rw [Nat.shiftLeft_eq, Nat.shiftLeft_eq]
    refine Nat.mul_le_mul_right _ ?_
    rw [Nat.shiftLeft_eq]
    omega

theorem toNat_lt (bytes : List UInt8) : toNat bytes < 1 <<< (8 * bytes.length) :=
  foldl_lt bytes 0

/-- A number that is put together from two parts is written as the one behind the other, if the
low part has room in its bytes. -/
theorem ofNat_append (front : Nat) {back high low : Nat} (h : low < 1 <<< (8 * back)) :
    ofNat (front + back) (high <<< (8 * back) + low) = ofNat front high ++ ofNat back low := by
  induction back generalizing low with
  | zero =>
      have hlow : low = 0 := by simpa using h
      rw [hlow, Nat.mul_zero, Nat.shiftLeft_zero]
      simp [ofNat]
  | succ back ih =>
      have hstep : ∀ n, n <<< (8 * (back + 1)) = n <<< (8 * back) * 256 := fun n => by
        rw [Nat.mul_succ, Nat.shiftLeft_add, Nat.shiftLeft_eq _ 8]
      rw [hstep] at h ⊢
      have hrest : low / 256 < 1 <<< (8 * back) := by omega
      have hdiv : (high <<< (8 * back) * 256 + low) / 256 = high <<< (8 * back) + low / 256 := by
        omega
      have hlast : UInt8.ofNat (high <<< (8 * back) * 256 + low) = UInt8.ofNat low := by
        apply UInt8.toNat_inj.mp
        rw [UInt8.toNat_ofNat', UInt8.toNat_ofNat']
        omega
      rw [← Nat.add_assoc, ofNat, hdiv, ih hrest, hlast, ofNat, List.append_assoc]

/-- A number that has room in its bytes is what they spell. -/
theorem toNat_ofNat {width n : Nat} (h : n < 1 <<< (8 * width)) : toNat (ofNat width n) = n := by
  induction width generalizing n with
  | zero =>
      have hn : n = 0 := by simpa using h
      rw [hn]
      rfl
  | succ width ih =>
      have hrest : n / 256 < 1 <<< (8 * width) := by
        rw [Nat.mul_succ, Nat.shiftLeft_add, Nat.shiftLeft_eq _ 8] at h
        omega
      have hlast : toNat [UInt8.ofNat n] = n % 256 := by
        show 0 * 256 + (UInt8.ofNat n).toNat = n % 256
        rw [Nat.zero_mul, Nat.zero_add, UInt8.toNat_ofNat']
      rw [ofNat, toNat_append, ih hrest, hlast, List.length_singleton, Nat.shiftLeft_eq]
      omega

/-- Bytes are what is written of the number that they spell. -/
theorem ofNat_toNat (bytes : List UInt8) : ofNat bytes.length (toNat bytes) = bytes := by
  induction bytes with
  | nil => rfl
  | cons b rest ih =>
      have hfirst : ofNat 1 (toNat [b]) = [b] := by
        show [UInt8.ofNat (0 * 256 + b.toNat)] = [b]
        rw [Nat.zero_mul, Nat.zero_add, UInt8.ofNat_toNat]
      calc ofNat (b :: rest).length (toNat (b :: rest))
          = ofNat (1 + rest.length) (toNat [b] <<< (8 * rest.length) + toNat rest) := by
            rw [List.length_cons, Nat.add_comm, ← toNat_append]
            rfl
        _ = b :: rest := by
            rw [ofNat_append 1 (toNat_lt rest), hfirst, ih]
            rfl

end MountainRange.Bytes
