import MultiscanDriver.Messages
import Mathlib.Tactic.DeriveFintype
import Mathlib.Data.Fintype.Prod

/-!
# Point record layout

The `POINT_FIELD_*` macros, the field list `scan_fields` the constructor declares, and the
stores the frame builder makes into each point record. The stores are made on the record's
32-bit words, laid out little-endian in `scan.data`; a reader decodes a field from those bytes.
The `& 4` level mask and the 8-byte index of the timestamp store are kept as written.
-/
namespace MultiscanDriver

def pointFieldEnableUpToXyz : Nat := 0
def pointFieldEnableUpToIntensity : Nat := 1
def pointFieldEnableUpToRange : Nat := 2
def pointFieldEnableUpToAngular : Nat := 3
def pointFieldEnableUpToPointIdx : Nat := 4
def pointFieldEnableTs : Nat := 8
def pointFieldEnableReflector : Nat := 16

def pointFieldEnableAll : Nat :=
  pointFieldEnableUpToPointIdx ||| pointFieldEnableTs ||| pointFieldEnableReflector

def pointFieldEnableXyztr : Nat :=
  pointFieldEnableUpToXyz ||| pointFieldEnableTs ||| pointFieldEnableReflector

/-- A value of `POINT_FIELD_SECTIONS_ENABLED` the flags admit: one of the mutually exclusive
`UP_TO` levels, with the timestamp and reflector bits. -/
structure Sections where
  upTo : Fin 5
  ts : Bool
  reflector : Bool
  deriving DecidableEq, Repr, Fintype

def Sections.toNat (s : Sections) : Nat :=
  s.upTo.val ||| (if s.ts then pointFieldEnableTs else 0) |||
    (if s.reflector then pointFieldEnableReflector else 0)

def numContiguousPointFields (e : Nat) : Nat :=
  3 + (decide (e &&& 4 ≥ 1)).toNat + (decide (e &&& 4 ≥ 2)).toNat
    + (decide (e &&& 4 ≥ 3)).toNat * 2 + (decide (e &&& 4 ≥ 4)).toNat * 3

def numPointFields (e : Nat) : Nat :=
  numContiguousPointFields e + (decide (e &&& pointFieldEnableTs > 0)).toNat * 2
    + (decide (e &&& pointFieldEnableReflector > 0)).toNat

def pointByteLen (e : Nat) : Nat := numPointFields e * 4

private def float32Field (name : String) (offset : Nat) : PointField :=
  ⟨name, offset, PointField.FLOAT32, 1⟩

private def uint32Field (name : String) (offset : Nat) : PointField :=
  ⟨name, offset, PointField.UINT32, 1⟩

/-- `scan_fields`, one `#if` block per group. -/
def scanFields (e : Nat) : List PointField :=
  [float32Field "x" 0, float32Field "y" 4, float32Field "z" 8] ++
  (if e &&& 4 ≥ pointFieldEnableUpToIntensity then [float32Field "intensity" 12] else []) ++
  (if e &&& 4 ≥ pointFieldEnableUpToRange then [float32Field "range" 16] else []) ++
  (if e &&& 4 ≥ pointFieldEnableUpToAngular then
    [float32Field "azimuth" 20, float32Field "elevation" 24] else []) ++
  (if e &&& 4 ≥ pointFieldEnableUpToPointIdx then
    [uint32Field "layer" 28, uint32Field "echo" 32, uint32Field "index" 36] else []) ++
  (if e &&& pointFieldEnableTs ≠ 0 then
    [uint32Field "tl" (4 * numContiguousPointFields e),
     uint32Field "th" (4 * numContiguousPointFields e + 4)] else []) ++
  (if e &&& pointFieldEnableReflector ≠ 0 then
    [float32Field "reflective" (4 * numContiguousPointFields e +
      8 * (decide (e &&& pointFieldEnableTs > 0)).toNat)] else [])

/-- The level is masked with `& 4`: every level below `UP_TO_POINT_IDX` declares and copies
x, y, z only. -/
example : ∀ s : Sections, s.upTo ≠ 4 →
    scanFields s.toNat = scanFields (Sections.toNat ⟨0, s.ts, s.reflector⟩) ∧
    numContiguousPointFields s.toNat = 3 := by
  decide

def LidarPoint.contiguousWords (p : LidarPoint) : List UInt32 :=
  [p.x, p.y, p.z, p.i, p.range, p.azimuth, p.elevation, p.groupIdx, p.echoIdx, p.pointIdx]

/-- IEEE-754 single-precision bits of `(float)b`, exact for every byte value. -/
def floatOfUInt8 (b : UInt8) : UInt32 :=
  if b.toNat = 0 then 0 else
    UInt32.ofNat ((127 + b.toNat.log2) * 2 ^ 23 +
      (b.toNat - 2 ^ b.toNat.log2) * 2 ^ (23 - b.toNat.log2))

/-- The stores into one `POINT_BYTE_LEN` record, over any word type: `resize` fills it with
`zero`, `memcpy` copies the first `POINT_CONTINUOUS_BYTE_LEN` bytes of `block`, then the
`uint64_t` store of `lo`, `hi` at index `POINT_CONTINUOUS_BYTE_LEN / 8` and the `float` store
of `refl` at index `POINT_CONTINUOUS_BYTE_LEN / 4 + 2 * ts`. -/
def writeRecord {α : Type} (e : Nat) (zero : α) (block : List α) (lo hi refl : α) : List α :=
  let nc := numContiguousPointFields e
  let r := block.take nc ++ (List.replicate (numPointFields e) zero).drop nc
  let r := if e &&& pointFieldEnableTs ≠ 0 then
      let k := 2 * (nc * 4 / 8)
      (r.set k lo).set (k + 1) hi
    else r
  if e &&& pointFieldEnableReflector ≠ 0 then
    r.set (nc * 4 / 4 + (decide (e &&& pointFieldEnableTs > 0)).toNat * 2) refl
  else r

def pointWords (e : Nat) (p : LidarPoint) : List UInt32 :=
  writeRecord e 0 p.contiguousWords p.lidarTimestampMicrosec.toUInt32
    (p.lidarTimestampMicrosec >>> 32).toUInt32 (floatOfUInt8 p.reflectorbit)

def wordBytes (w : UInt32) : List UInt8 :=
  [UInt8.ofNat w.toNat, UInt8.ofNat (w.toNat / 2 ^ 8), UInt8.ofNat (w.toNat / 2 ^ 16),
    UInt8.ofNat (w.toNat / 2 ^ 24)]

def pointRecord (e : Nat) (p : LidarPoint) : List UInt8 := (pointWords e p).flatMap wordBytes

def readLE32 : List UInt8 → Option UInt32
  | [b0, b1, b2, b3] =>
    some (UInt32.ofNat (b0.toNat + 2 ^ 8 * b1.toNat + 2 ^ 16 * b2.toNat + 2 ^ 24 * b3.toNat))
  | _ => none

/-- Decoding a declared field of a cloud with `is_bigendian = false` from a record's bytes: the
four bytes at its offset. -/
def readField (record : List UInt8) (f : PointField) : Option UInt32 :=
  readLE32 ((record.drop f.offset).take 4)

inductive Slot where
  | member (k : Nat)
  | tsLow
  | tsHigh
  | reflector
  | zero
  deriving DecidableEq, Repr

def Slot.value (p : LidarPoint) : Slot → UInt32
  | .member k => p.contiguousWords.getD k 0
  | .tsLow => p.lidarTimestampMicrosec.toUInt32
  | .tsHigh => (p.lidarTimestampMicrosec >>> 32).toUInt32
  | .reflector => floatOfUInt8 p.reflectorbit
  | .zero => 0

def recordSlots (e : Nat) : List Slot :=
  writeRecord e .zero ((List.range 10).map .member) .tsLow .tsHigh .reflector

def fieldSlot : String → Option Slot
  | "x" => some (.member 0)
  | "y" => some (.member 1)
  | "z" => some (.member 2)
  | "intensity" => some (.member 3)
  | "range" => some (.member 4)
  | "azimuth" => some (.member 5)
  | "elevation" => some (.member 6)
  | "layer" => some (.member 7)
  | "echo" => some (.member 8)
  | "index" => some (.member 9)
  | "tl" => some .tsLow
  | "th" => some .tsHigh
  | "reflective" => some .reflector
  | _ => none

def declaredValue (p : LidarPoint) (name : String) : Option UInt32 :=
  (fieldSlot name).map (Slot.value p)

theorem map_writeRecord {α β : Type} (f : α → β) (e : Nat) (z : α) (b : List α) (lo hi r : α) :
    (writeRecord e z b lo hi r).map f = writeRecord e (f z) (b.map f) (f lo) (f hi) (f r) := by
  unfold writeRecord
  split_ifs <;> simp only [List.map_set, List.map_append, List.map_take, List.map_drop,
    List.map_replicate]

theorem pointWords_eq_map_recordSlots (e : Nat) (p : LidarPoint) :
    pointWords e p = (recordSlots e).map (Slot.value p) := by
  rw [recordSlots, map_writeRecord]
  rfl

theorem uint32_ofNat_toNat (x : UInt32) : UInt32.ofNat x.toNat = x :=
  UInt32.toNat.inj (UInt32.toNat_ofNat_of_lt x.toNat_lt_size)

theorem uint8_toNat_ofNat (n : Nat) : (UInt8.ofNat n).toNat = n % 2 ^ 8 := rfl

theorem readLE32_wordBytes (w : UInt32) : readLE32 (wordBytes w) = some w := by
  have hw := w.toNat_lt_size
  simp only [wordBytes, readLE32, uint8_toNat_ofNat, UInt32.size] at hw ⊢
  rw [show w.toNat % 2 ^ 8 + 2 ^ 8 * (w.toNat / 2 ^ 8 % 2 ^ 8) +
      2 ^ 16 * (w.toNat / 2 ^ 16 % 2 ^ 8) + 2 ^ 24 * (w.toNat / 2 ^ 24 % 2 ^ 8) = w.toNat by omega,
    uint32_ofNat_toNat]

theorem readLE32_flatMap_wordBytes :
    ∀ (ws : List UInt32) (k : Nat), readLE32 (((ws.flatMap wordBytes).drop (4 * k)).take 4) = ws[k]?
  | [], _ => by simp [readLE32]
  | w :: ws, 0 => by
    rw [List.flatMap_cons, Nat.mul_zero, List.drop_zero,
      List.take_left' (show (wordBytes w).length = 4 from rfl), readLE32_wordBytes,
      List.getElem?_cons_zero]
  | w :: ws, k + 1 => by
    rw [List.flatMap_cons, show 4 * (k + 1) = (wordBytes w).length + 4 * k by simp [wordBytes]; omega,
      List.drop_append, readLE32_flatMap_wordBytes ws k, List.getElem?_cons_succ]

theorem readField_pointRecord (e : Nat) (p : LidarPoint) {f : PointField} (h : f.offset % 4 = 0) :
    readField (pointRecord e p) f = (pointWords e p)[f.offset / 4]? := by
  rw [readField, pointRecord, ← readLE32_flatMap_wordBytes, Nat.mul_div_cancel' (Nat.dvd_of_mod_eq_zero h)]

theorem readField_of_slot {e : Nat} {f : PointField} (p : LidarPoint) (h4 : f.offset % 4 = 0)
    (h : (recordSlots e)[f.offset / 4]? = fieldSlot f.name) :
    readField (pointRecord e p) f = declaredValue p f.name := by
  simp [readField_pointRecord e p h4, declaredValue, pointWords_eq_map_recordSlots, ← h]

theorem numContiguousPointFields_le (e : Nat) : numContiguousPointFields e ≤ 10 := by
  have := Bool.toNat_le (decide (e &&& 4 ≥ 1)); have := Bool.toNat_le (decide (e &&& 4 ≥ 2))
  have := Bool.toNat_le (decide (e &&& 4 ≥ 3)); have := Bool.toNat_le (decide (e &&& 4 ≥ 4))
  unfold numContiguousPointFields; omega

theorem length_writeRecord {α : Type} (e : Nat) (z : α) {b : List α} (hb : b.length = 10)
    (lo hi r : α) : (writeRecord e z b lo hi r).length = numPointFields e := by
  have := numContiguousPointFields_le e
  have : numContiguousPointFields e ≤ numPointFields e := by unfold numPointFields; omega
  unfold writeRecord
  split_ifs <;> simp only [List.length_set, List.length_append, List.length_take,
    List.length_drop, List.length_replicate, hb] <;> omega

@[simp] theorem pointRecord_length (e : Nat) (p : LidarPoint) :
    (pointRecord e p).length = pointByteLen e := by
  have h4 : (List.length ∘ wordBytes) = fun _ => 4 := rfl
  simp [pointRecord, List.length_flatMap, h4, pointByteLen, pointWords,
    length_writeRecord e 0 (rfl : p.contiguousWords.length = 10), Nat.mul_comm]

theorem scanFields_well_formed : ∀ s : Sections,
    ((scanFields s.toNat).map PointField.offset).Nodup ∧
    ∀ f ∈ scanFields s.toNat, f.offset % 4 = 0 ∧ f.offset + 4 ≤ pointByteLen s.toNat := by
  decide

theorem recordSlots_match_fields : ∀ s : Sections, (s.upTo = 4 ∨ s.ts = false) →
    ∀ f ∈ scanFields s.toNat, (recordSlots s.toNat)[f.offset / 4]? = fieldSlot f.name := by
  decide

theorem recordSlots_xyztr :
    recordSlots pointFieldEnableXyztr =
      [.member 0, .member 1, .tsLow, .tsHigh, .zero, .reflector] := by
  decide

/-- For every admitted layout at level `UP_TO_POINT_IDX`, or without the timestamp, and
every point, each declared field, read little-endian from the bytes of the point's record,
decodes to what it stands for. -/
theorem declared_fields_decode (s : Sections) (h : s.upTo = 4 ∨ s.ts = false)
    (p : LidarPoint) :
    ∀ f ∈ scanFields s.toNat, readField (pointRecord s.toNat p) f = declaredValue p f.name :=
  fun f hf => readField_of_slot p ((scanFields_well_formed s).2 f hf).1
    (recordSlots_match_fields s h f hf)

theorem declared_fields_decode_default :
    ((⟨4, true, true⟩ : Sections).upTo = 4 ∨ (⟨4, true, true⟩ : Sections).ts = false) ∧
    ∀ f ∈ scanFields (Sections.toNat ⟨4, true, true⟩),
      readField (pointRecord (Sections.toNat ⟨4, true, true⟩) ⟨1, 2, 3, 4, 5, 6, 7, 8, 9, 10, 11, 12⟩) f =
        declaredValue ⟨1, 2, 3, 4, 5, 6, 7, 8, 9, 10, 11, 12⟩ f.name :=
  ⟨Or.inl rfl, declared_fields_decode ⟨4, true, true⟩ (Or.inl rfl) _⟩

/-- With `POINT_FIELD_ENABLE_XYZTR` the 12-byte contiguous block makes the `uint64_t` store
land on bytes 8..15: the field declared as z decodes to the low half of the timestamp, tl to
its high half, and th to zero. -/
theorem xyztr_timestamp_store_misplaced (p : LidarPoint) :
    (scanFields pointFieldEnableXyztr).map
        (fun f => (f.name, readField (pointRecord pointFieldEnableXyztr p) f)) =
      [("x", some p.x), ("y", some p.y), ("z", some p.lidarTimestampMicrosec.toUInt32),
        ("tl", some (p.lidarTimestampMicrosec >>> 32).toUInt32), ("th", some 0),
        ("reflective", some (floatOfUInt8 p.reflectorbit))] := by
  have hf : scanFields pointFieldEnableXyztr =
      [float32Field "x" 0, float32Field "y" 4, float32Field "z" 8, uint32Field "tl" 12,
        uint32Field "th" 16, float32Field "reflective" 20] := by decide
  simp [hf, readField_pointRecord, pointWords_eq_map_recordSlots, recordSlots_xyztr, Slot.value,
    LidarPoint.contiguousWords, float32Field, uint32Field]

end MultiscanDriver
