import Mathlib.Algebra.Order.Ring.Rat
import Mathlib.Data.List.FinRange

/-!
# Configuration, decoded segments and published messages

The data the decode loop of `multiscan_driver.cpp` reads and writes. A sensor float is held
as its IEEE-754 bit pattern: the driver only copies floats, and widening one to a ROS double
is exact. A `double` of the configuration is a rational, a clock reading an integer count of
system-clock nanoseconds. Sensor fields no modelled function reads are left out.
-/
namespace MultiscanDriver

/-- A C++ `int`: the values of a 32-bit two's complement word. -/
abbrev CInt := { v : Int // -2147483648 ≤ v ∧ v < 2147483648 }

/-- The `config` member of `MultiscanNode`, with the defaults of its declaration; the fields
only the SOPAS connection reads are left out. -/
structure Config where
  lidarFrameId : String := "lidar_link"
  driverHostname : String := ""
  lidarUdpPort : CInt := ⟨2115, by decide⟩
  useMsgpack : Bool := false
  udpDropoutResetThresh : ℚ := 2
  udpReceiveTimeout : ℚ := 1
  errorRestartTimeout : ℚ := 3
  maxSegmentBuffering : CInt := ⟨3, by decide⟩
  deriving DecidableEq, Repr

/-- `static_cast<size_t>` of an `int`: two's complement modulo 2^64. -/
def sizeT (v : CInt) : Nat := (v.val % 2 ^ 64).toNat

/-- An unsigned value stored into a 32-bit signed field such as `Time::sec`. -/
def int32 (n : Nat) : Int := (BitVec.ofNat 32 n).toInt

theorem int32_eq (n : Nat) : int32 n =
    if n % 2 ^ 32 < 2 ^ 31 then ((n % 2 ^ 32 : Nat) : Int) else (n % 2 ^ 32 : Nat) - 2 ^ 32 := by
  rw [int32, BitVec.toInt_eq_toNat_cond, BitVec.toNat_ofNat]
  split <;> split <;> omega

theorem sizeT_of_nonneg {v : CInt} (h : 0 ≤ v.val) : sizeT v = v.val.toNat := by
  have := v.2
  unfold sizeT
  omega

theorem sizeT_pos {v : CInt} (h : v.val ≠ 0) : 0 < sizeT v := by
  have := v.2
  unfold sizeT
  omega

structure LidarPoint where
  x : UInt32
  y : UInt32
  z : UInt32
  i : UInt32
  range : UInt32
  azimuth : UInt32
  elevation : UInt32
  groupIdx : UInt32
  echoIdx : UInt32
  pointIdx : UInt32
  lidarTimestampMicrosec : UInt64
  reflectorbit : UInt8
  deriving DecidableEq, Repr

structure Scanline where
  points : List LidarPoint
  deriving DecidableEq, Repr

structure Scangroup where
  scanlines : List Scanline
  deriving DecidableEq, Repr

structure ImuData where
  valid : Bool := false
  angularVelocityX : UInt32 := 0
  angularVelocityY : UInt32 := 0
  angularVelocityZ : UInt32 := 0
  accelerationX : UInt32 := 0
  accelerationY : UInt32 := 0
  accelerationZ : UInt32 := 0
  orientationW : UInt32 := 0
  orientationX : UInt32 := 0
  orientationY : UInt32 := 0
  orientationZ : UInt32 := 0
  deriving DecidableEq, Repr

/-- What a segment decoder returns. `segmentIndex` is the decoder's `int`; nothing in the
driver checks that it lies in `0..11`. -/
structure ScanSegmentParserOutput where
  scandata : List Scangroup := []
  imudata : ImuData := {}
  timestamp : String := ""
  timestampSec : UInt32 := 0
  timestampNsec : UInt32 := 0
  segmentIndex : CInt := ⟨0, by decide⟩
  telegramCnt : CInt := ⟨0, by decide⟩
  deriving DecidableEq, Repr

def ScanSegmentParserOutput.points (s : ScanSegmentParserOutput) : List LidarPoint :=
  s.scandata.flatMap fun g => g.scanlines.flatMap Scanline.points

/-- Swaps every field but `imudata`, so a slot never holds an inertial sample. -/
def swapSegmentsNoIMU (a b : ScanSegmentParserOutput) :
    ScanSegmentParserOutput × ScanSegmentParserOutput :=
  let moved (dst src : ScanSegmentParserOutput) : ScanSegmentParserOutput :=
    { dst with
      scandata := src.scandata
      timestamp := src.timestamp
      timestampSec := src.timestampSec
      timestampNsec := src.timestampNsec
      segmentIndex := src.segmentIndex
      telegramCnt := src.telegramCnt }
  (moved a b, moved b a)

def ScanSegmentParserOutput.withoutImu (s : ScanSegmentParserOutput) : ScanSegmentParserOutput :=
  { s with imudata := {} }

theorem swapSegmentsNoIMU_fresh (s : ScanSegmentParserOutput) :
    (swapSegmentsNoIMU {} s).1 = s.withoutImu := rfl

@[simp] theorem withoutImu_points (s : ScanSegmentParserOutput) :
    s.withoutImu.points = s.points := rfl

@[simp] theorem withoutImu_timestampSec (s : ScanSegmentParserOutput) :
    s.withoutImu.timestampSec = s.timestampSec := rfl

@[simp] theorem withoutImu_timestampNsec (s : ScanSegmentParserOutput) :
    s.withoutImu.timestampNsec = s.timestampNsec := rfl

@[simp] theorem withoutImu_segmentIndex (s : ScanSegmentParserOutput) :
    s.withoutImu.segmentIndex = s.segmentIndex := rfl

structure Time where
  sec : Int
  nanosec : UInt32
  deriving DecidableEq, Repr

structure Header where
  stamp : Time
  frameId : String
  deriving DecidableEq, Repr

structure Vector3 where
  x : UInt32
  y : UInt32
  z : UInt32
  deriving DecidableEq, Repr

structure Quaternion where
  w : UInt32
  x : UInt32
  y : UInt32
  z : UInt32
  deriving DecidableEq, Repr

structure Imu where
  header : Header
  angularVelocity : Vector3
  linearAcceleration : Vector3
  orientation : Quaternion
  deriving DecidableEq, Repr

def imuMessage (cfg : Config) (s : ScanSegmentParserOutput) : Imu where
  header := ⟨⟨int32 s.timestampSec.toNat, s.timestampNsec⟩, cfg.lidarFrameId⟩
  angularVelocity :=
    ⟨s.imudata.angularVelocityX, s.imudata.angularVelocityY, s.imudata.angularVelocityZ⟩
  linearAcceleration :=
    ⟨s.imudata.accelerationX, s.imudata.accelerationY, s.imudata.accelerationZ⟩
  orientation := ⟨s.imudata.orientationW, s.imudata.orientationX, s.imudata.orientationY,
    s.imudata.orientationZ⟩

structure PointField where
  name : String
  offset : Nat
  datatype : Nat
  count : Nat
  deriving DecidableEq, Repr

def PointField.FLOAT32 : Nat := 7
def PointField.UINT32 : Nat := 6

structure PointCloud2 where
  header : Header
  height : UInt32
  width : UInt32
  fields : List PointField
  isBigendian : Bool
  pointStep : UInt32
  rowStep : UInt32
  data : List UInt8
  isDense : Bool
  deriving DecidableEq, Repr

inductive Published where
  | imu (msg : Imu)
  | scan (msg : PointCloud2)
  deriving DecidableEq, Repr

/-- What the decode loop leaves undefined, or throws out to the `catch` that tears the
connection down. -/
inductive Fault where
  /-- `samples[idx]` past the twelve slots. -/
  | slotIndexOutOfRange (idx : Nat)
  /-- `front()` of an empty deque. -/
  | frontOfEmptySlot
  /-- `Convert4Byte(udp_buffer.data() + bytes_valid - 4)` with fewer than four valid bytes. -/
  | crcReadOutOfRange (bytesValid : Nat)
  /-- A `std::vector` built from an iterator range whose end precedes its start. -/
  | payloadRangeReversed (first last : Nat)
  deriving DecidableEq, Repr

end MultiscanDriver
