import EncosDriver.Fake.Answer
import EncosDriver.Motor.Single

set_option autoImplicit false

namespace EncosDriver.Fake

open Message Motor Lib Lib.Rounding

inductive FeedbackType where
  | motion
  | position
  | speed
deriving DecidableEq, Repr

def FeedbackType.value : FeedbackType → Int
  | .motion => 1
  | .position => 2
  | .speed => 3

def Recovered (bound : ℚ) (quantity decoded : Single) : Prop :=
  |decoded.value - quantity.value| < bound ∧ (bound ≤ quantity.value → 0 < decoded.value) ∧ (quantity.value ≤ -bound → decoded.value < 0)

def temperatureStep (fwVersion : UInt32) : ℚ := if fwVersion = 0 then 1 / 2 else 1

-- A temperature that a byte can carry comes back unchanged, and any other one on
-- the step below, or on the step that rounding has brought it to.
def TemperatureRecovered (fwVersion : UInt32) (temperature decoded : Single) : Prop :=
  (∀ raw, temperature = decodeTemperature raw fwVersion → decoded = temperature) ∧
    decoded.value ≤ temperature.value + 1 / 2 ^ 15 ∧ temperature.value < decoded.value + temperatureStep fwVersion + 1 / 2 ^ 15

-- A hundredth, and what the product and the quotient round.
def currentBound : ℚ := 1 / 100 + 1 / 2 ^ 14

-- What DecodeFeedback gives back of the status: the codes within a step and a
-- sixteenth and two units in the last place of the wider limit, a float on the
-- wire within five units in the last place of the quantity.
def RoundTrip (properties : MotorProperties Single) (status : MotorStatus Single) (pack : MotorPackMsg) : FeedbackType → Prop
  | .motion => ∃ feedback, decodeFeedback1 pack properties = some feedback ∧ feedback.error = status.error ∧
      TemperatureRecovered properties.fwVersion status.motorTemperature feedback.motorTemperature ∧
        TemperatureRecovered properties.fwVersion status.mosTemperature feedback.mosTemperature ∧
          Recovered (codeBound properties.position 16) status.position feedback.position ∧
            Recovered (codeBound properties.speed 12) status.speed feedback.speed ∧
              Recovered (codeBound properties.current 12) status.current feedback.current
  | .position => ∃ feedback, decodeFeedback2 pack properties = some feedback ∧ feedback.error = status.error ∧
      TemperatureRecovered properties.fwVersion status.motorTemperature feedback.motorTemperature ∧
        Recovered (5 * spacing binary32 status.position.value) status.position feedback.position ∧
          Recovered currentBound status.current feedback.current
  | .speed => ∃ feedback, decodeFeedback3 pack properties = some feedback ∧ feedback.error = status.error ∧
      TemperatureRecovered properties.fwVersion status.motorTemperature feedback.motorTemperature ∧
        Recovered (5 * spacing binary32 status.speed.value) status.speed feedback.speed ∧
          Recovered currentBound status.current feedback.current

def Inside (range : Range Single) (quantity : Single) : Prop :=
  range.min.value < range.max.value ∧ range.min.value ≤ quantity.value ∧ quantity.value ≤ range.max.value ∧
    ((range.max - range.min) * ofInt 65535).value ≤ Binary32.largest

def TemperatureInside (fwVersion : UInt32) (temperature : Single) : Prop :=
  if fwVersion = 0 then -25 ≤ temperature.value ∧ temperature.value ≤ 205 / 2
  else -55 ≤ temperature.value ∧ temperature.value ≤ 200

def CurrentInside (current : Single) : Prop := -32769 < (current * ofInt 100).value ∧ (current * ofInt 100).value < 32768

def OnWire (properties : MotorProperties Single) (status : MotorStatus Single) (feedbackType : FeedbackType) : Prop :=
  status.error.code < 32 ∧ TemperatureInside properties.fwVersion status.motorTemperature ∧
    match feedbackType with
    | .motion => TemperatureInside properties.fwVersion status.mosTemperature ∧ Inside properties.position status.position ∧
        Inside properties.speed status.speed ∧ Inside properties.current status.current
    | .position => |(status.position * ofInt 180).value| ≤ Binary32.largest ∧ CurrentInside status.current
    | .speed => |(status.speed * ofInt 30).value| ≤ Binary32.largest ∧ CurrentInside status.current

structure Agrees (snapshot : FakeMotorSnapshot Single) (properties : MotorProperties Single) : Prop where
  position : properties.position = snapshot.ranges.position
  speed : properties.speed = snapshot.ranges.speed
  current : properties.current = snapshot.ranges.current
  version : properties.fwVersion = snapshot.fwVersion.getD 0

def FeedbackReady (fwVersion : UInt32) (status : MotorStatus Single) (feedbackType : FeedbackType) : Prop :=
  (fwVersion = 0 ∨ status.error.code ∉ ([6, 7, 8, 9, 31] : List UInt8)) ∧
    (feedbackType = .motion ∨ -1 < (status.current * ofInt 100).value)

theorem recovered_of_close (bound : ℚ) (quantity decoded : Single) (close : |decoded.value - quantity.value| < bound) :
    Recovered bound quantity decoded := by
  obtain ⟨low, high⟩ := abs_lt.mp close
  exact ⟨close, fun above => by linarith, fun below => by linarith⟩

theorem code_bounds (range : Range Single) (quantity : Single) (bits : Nat) (inside : Inside range quantity) (wide : 1 ≤ bits)
    (narrow : bits ≤ 16) :
    0 ≤ floatToUint quantity range.min range.max bits ∧ floatToUint quantity range.min range.max bits ≤ 2 ^ bits - 1 ∧
      Recovered (codeBound range bits) quantity (uintToFloat (floatToUint quantity range.min range.max bits) range.min range.max bits) := by
  obtain ⟨spread, above, below, -⟩ := inside
  obtain ⟨start, finish, -⟩ := code_place range bits wide narrow spread quantity above below
  exact ⟨start, finish, recovered_of_close _ quantity _ (code_returns range bits wide narrow spread quantity above below)⟩

theorem byte_bounds (number : Single) (positive : 0 ≤ number.value) (bounded : number.value ≤ 255) :
    ((UInt8.ofInt (truncate (clamp number (ofInt 0) (ofInt 255)))).toNat : ℚ) ≤ number.value ∧
      number.value < (UInt8.ofInt (truncate (clamp number (ofInt 0) (ofInt 255)))).toNat + 1 := by
  have zero : (ofInt 0 : Single).value = 0 := Single.int_value 0 (by norm_num)
  have last : (ofInt 255 : Single).value = 255 := Single.int_value 255 (by norm_num)
  rw [Single.clamp_inside number (ofInt 0) (ofInt 255) (by rw [zero]; exact positive) (by rw [last]; exact bounded)]
  obtain ⟨floor, next⟩ := Single.truncate_nonneg number positive
  generalize truncate number = code at floor next
  have low : (-1 : Int) < code := by
    have above : (-1 : ℚ) < code := by linarith
    exact_mod_cast above
  have high : code ≤ 255 := by
    have below : (code : ℚ) ≤ 255 := by linarith
    exact_mod_cast below
  obtain ⟨byte, rfl⟩ := Int.eq_ofNat_of_zero_le (show 0 ≤ code by omega)
  have exact : (UInt8.ofInt (byte : Int)).toNat = byte := by
    simp only [UInt8.ofInt, UInt8.toNat_ofNat']
    omega
  rw [exact]
  exact ⟨by exact_mod_cast floor, by exact_mod_cast next⟩

theorem decoded_temperature (raw : UInt8) (fwVersion : UInt32) :
    (decodeTemperature raw fwVersion : Single).value =
      if fwVersion = 0 then ((raw.toNat : ℚ) - 50) / 2 else (raw.toNat : ℚ) - 55 := by
  have bound : raw.toNat < 256 := raw.toNat_lt
  have small (offset : Int) (low : 0 ≤ offset) (high : offset ≤ 55) : |(((raw.toNat : Int) - offset : Int) : ℚ)| < 2 ^ 8 := by
    have integral : |(raw.toNat : Int) - offset| < 2 ^ 8 := abs_lt.mpr ⟨by omega, by omega⟩
    exact_mod_cast integral
  have shifted (offset : Int) (low : 0 ≤ offset) (high : offset ≤ 55) :
      (ofInt raw.toNat - ofInt offset : Single).value = ((raw.toNat : Int) - offset : Int) := by
    have byte : (ofInt raw.toNat : Single).value = raw.toNat := Single.int_value _ (by
      have inside : ((raw.toNat : Int) : ℚ) < 256 := by exact_mod_cast bound
      rw [abs_of_nonneg (by exact_mod_cast Nat.zero_le _)]
      linarith)
    have minus : (ofInt offset : Single).value = offset := Single.int_value _ (by
      have under : (offset : ℚ) ≤ 55 := by exact_mod_cast high
      rw [abs_of_nonneg (by exact_mod_cast low)]
      linarith)
    have whole := round_integer binary32 ((raw.toNat : Int) - offset) (exponent_small binary32 _ ((small offset low high).trans (by norm_num [binary32])))
    rw [Single.sub_value, byte, minus, ← whole]
    push_cast
    rfl
  rw [decodeTemperature]
  split
  · have two : (ofInt 2 : Single).value = 2 := Single.int_value 2 (by norm_num)
    have half := round_half binary32 ((raw.toNat : Int) - 50) (by decide) (by
      rw [abs_div, abs_of_pos (by norm_num : (0 : ℚ) < 2), div_lt_iff₀ (by norm_num)]
      exact (small 50 (by decide) (by decide)).trans (by norm_num [binary32]))
    rw [Single.div_value, shifted 50 (by decide) (by decide), two, half]
    push_cast
    rfl
  · rw [shifted 55 (by decide) (by decide)]
    push_cast
    rfl

theorem temperature_of_byte (temperature : Single) (fwVersion : UInt32) (scale offset : ℚ) (large : 1 ≤ scale) (computed : Single)
    (readBack : ∀ raw : UInt8, (decodeTemperature raw fwVersion : Single).value = (raw.toNat - offset) / scale)
    (stepAt : temperatureStep fwVersion = 1 / scale) (positive : 0 ≤ computed.value) (bounded : computed.value ≤ 255)
    (near : |computed.value - (temperature.value * scale + offset)| ≤ 1 / 2 ^ 15)
    (exact : ∀ number : Int, temperature.value * scale + offset = number → computed.value = number) :
    TemperatureRecovered fwVersion temperature
      (decodeTemperature (UInt8.ofInt (truncate (clamp computed (ofInt 0) (ofInt 255)))) fwVersion) := by
  have scalePos : 0 < scale := by linarith
  obtain ⟨floor, next⟩ := byte_bounds computed positive bounded
  generalize UInt8.ofInt (truncate (clamp computed (ofInt 0) (ofInt 255))) = byte at floor next
  obtain ⟨nearLow, nearHigh⟩ := abs_le.mp near
  refine ⟨?_, ?_, ?_⟩
  · intro raw representable
    have same : temperature.value * scale + offset = ((raw.toNat : Int) : ℚ) := by
      rw [representable, readBack raw, div_mul_cancel₀ _ scalePos.ne']
      push_cast
      ring
    rw [exact _ same] at floor next
    have low : byte.toNat ≤ raw.toNat := by exact_mod_cast floor
    have high : raw.toNat < byte.toNat + 1 := by exact_mod_cast next
    rw [representable, UInt8.toNat_inj.mp (by omega : byte.toNat = raw.toNat)]
  · rw [readBack byte, div_le_iff₀ scalePos]
    linarith
  · rw [readBack byte, stepAt, ← add_div, add_comm _ (1 / 2 ^ 15 : ℚ), ← sub_lt_iff_lt_add', lt_div_iff₀ scalePos]
    linarith

theorem temperature_recovered (temperature : Single) (fwVersion : UInt32) (inside : TemperatureInside fwVersion temperature) :
    TemperatureRecovered fwVersion temperature (decodeTemperature (encodeTemperature temperature (fwVersion ≠ 0)) fwVersion) := by
  by_cases legacy : fwVersion = 0
  · subst legacy
    simp only [TemperatureInside, ↓reduceIte] at inside
    obtain ⟨low, high⟩ := inside
    have two : (ofInt 2 : Single).value = 2 := Single.int_value 2 (by norm_num)
    have fifty : (ofInt 50 : Single).value = 50 := Single.int_value 50 (by norm_num)
    have small : exponent binary32 (temperature.value * 2) ≤ binary32.digits :=
      exponent_small binary32 _ (abs_lt.mpr ⟨by norm_num [binary32]; linarith, by norm_num [binary32]; linarith⟩)
    have least := integer_le_round binary32 _ (-50) small (by push_cast; linarith)
    have greatest := round_le_integer binary32 _ 205 small (by push_cast; linarith)
    have doubled := Single.single_error (temperature.value * 2) (by
      have on := grid_int_mul binary32 _ 2 temperature.grid
      push_cast at on
      rwa [mul_comm])
    have value : (temperature * ofInt 2).value = round binary32 (temperature.value * 2) := by rw [Single.mul_value, two]
    rw [← value] at least greatest doubled
    push_cast at least greatest
    have sum := Single.single_error _ (grid_add binary32 _ _ (temperature * ofInt 2).grid (ofInt 50 : Single).grid)
    rw [← Single.add_value, fifty] at sum
    obtain ⟨doubledLow, doubledHigh⟩ := abs_le.mp doubled
    obtain ⟨sumLow, sumHigh⟩ := abs_le.mp sum
    have doubledSize : |temperature.value * 2| ≤ 205 := abs_le.mpr ⟨by linarith, by linarith⟩
    have sumSize : |(temperature * ofInt 2).value + 50| ≤ 255 := abs_le.mpr ⟨by linarith, by linarith⟩
    have encoded : encodeTemperature temperature ((0 : UInt32) ≠ 0) =
        UInt8.ofInt (truncate (clamp (temperature * ofInt 2 + ofInt 50) (ofInt 0) (ofInt 255))) := by simp [encodeTemperature]
    rw [encoded]
    refine temperature_of_byte temperature 0 2 50 (by norm_num) _ (fun raw => by simp [decoded_temperature]) (by simp [temperatureStep])
      ?_ ?_ ?_ ?_
    · rw [Single.add_value, fifty]
      exact Single.round_nonneg _ (by linarith)
    · rw [Single.add_value, fifty]
      have top := round_le_integer binary32 ((temperature * ofInt 2).value + 50) 255
        (exponent_small binary32 _ (sumSize.trans_lt (by norm_num [binary32]))) (by push_cast; linarith)
      exact_mod_cast top
    · exact abs_le.mpr ⟨by linarith, by linarith⟩
    · intro number whole
      have half : temperature.value * 2 = ((number - 50 : Int) : ℚ) := by
        push_cast
        linarith
      have kept : (temperature * ofInt 2).value = ((number - 50 : Int) : ℚ) := by
        rw [value]
        rw [half] at small ⊢
        exact round_integer binary32 (number - 50) small
      have inside : |(number : ℚ)| < 2 ^ (binary32.digits + 1) := by
        norm_num [binary32]
        exact abs_lt.mpr ⟨by linarith, by linarith⟩
      rw [Single.add_value, fifty, kept]
      push_cast
      rw [sub_add_cancel]
      exact round_integer binary32 number (exponent_small binary32 _ inside)
  · simp only [TemperatureInside, if_neg legacy] at inside
    obtain ⟨low, high⟩ := inside
    have offset : (ofInt 55 : Single).value = 55 := Single.int_value 55 (by norm_num)
    have sum := Single.single_error _ (grid_add binary32 _ _ temperature.grid (ofInt 55 : Single).grid)
    rw [← Single.add_value, offset] at sum
    have sumSize : |temperature.value + 55| ≤ 255 := abs_le.mpr ⟨by linarith, by linarith⟩
    have small : exponent binary32 (temperature.value + 55) ≤ binary32.digits :=
      exponent_small binary32 _ (sumSize.trans_lt (by norm_num [binary32]))
    have encoded : encodeTemperature temperature (fwVersion ≠ 0) =
        UInt8.ofInt (truncate (clamp (temperature + ofInt 55) (ofInt 0) (ofInt 255))) := by simp [encodeTemperature, legacy]
    rw [encoded]
    refine temperature_of_byte temperature fwVersion 1 55 (by norm_num) _ (fun raw => by simp [decoded_temperature, legacy])
      (by simp [temperatureStep, legacy]) ?_ ?_ ?_ ?_
    · rw [Single.add_value, offset]
      exact Single.round_nonneg _ (by linarith)
    · rw [Single.add_value, offset]
      have top := round_le_integer binary32 (temperature.value + 55) 255 small (by push_cast; linarith)
      exact_mod_cast top
    · rw [mul_one]
      exact sum.trans (by linarith)
    · intro number whole
      rw [mul_one] at whole
      rw [Single.add_value, offset]
      rw [whole] at small ⊢
      exact round_integer binary32 number small

theorem truncated_current (current : Single) (inside : CurrentInside current) :
    -32768 ≤ truncate (current * ofInt 100) ∧ truncate (current * ofInt 100) ≤ 32767 ∧
      |(truncate (current * ofInt 100) : ℚ) - (current * ofInt 100).value| < 1 ∧
        (0 ≤ truncate (current * ofInt 100) ↔ -1 < (current * ofInt 100).value) := by
  obtain ⟨low, high⟩ := inside
  generalize current * ofInt 100 = hundredths at low high ⊢
  by_cases positive : 0 ≤ hundredths.value
  · obtain ⟨floor, next⟩ := Single.truncate_nonneg hundredths positive
    generalize truncate hundredths = code at floor next
    have start : (-1 : Int) < code := by
      have above : (-1 : ℚ) < code := by linarith
      exact_mod_cast above
    have finish : code < 32768 := by
      have below : (code : ℚ) < 32768 := by linarith
      exact_mod_cast below
    exact ⟨by omega, by omega, abs_lt.mpr ⟨by linarith, by linarith⟩, iff_of_true (by omega) (by linarith)⟩
  · obtain ⟨before, ceiling⟩ := Single.truncate_neg hundredths (not_le.mp positive)
    have negative := not_le.mp positive
    generalize truncate hundredths = code at before ceiling
    have start : -32769 < code := by
      have above : (-32769 : ℚ) < code := by linarith
      exact_mod_cast above
    have finish : code < 1 := by
      have below : (code : ℚ) < 1 := by linarith
      exact_mod_cast below
    refine ⟨by omega, by omega, abs_lt.mpr ⟨by linarith, by linarith⟩, ?_⟩
    constructor
    · intro nonneg
      have zero : (0 : ℚ) ≤ code := by exact_mod_cast nonneg
      linarith
    · intro above
      have exceeds : (-1 : ℚ) < code := by linarith
      have integral : (-1 : Int) < code := by exact_mod_cast exceeds
      omega

theorem current_recovered_iff (current decoded : Single) (inside : CurrentInside current)
    (read : decoded = ofInt (toInt16 (current * ofInt 100)).toUInt16.toNat / ofInt 100) :
    Recovered currentBound current decoded ↔ -1 < (current * ofInt 100).value := by
  obtain ⟨low, high, close, sign⟩ := truncated_current current inside
  have hundred : (ofInt 100 : Single).value = 100 := Single.int_value 100 (by norm_num)
  have word : (toInt16 (current * ofInt 100)).toUInt16.toNat = (truncate (current * ofInt 100) % 65536).toNat := BitVec.toNat_ofInt ..
  have product := Single.single_error (current.value * 100) (by
    have on := grid_int_mul binary32 _ 100 current.grid
    push_cast at on
    rwa [mul_comm])
  rw [← hundred, ← Single.mul_value, hundred] at product
  obtain ⟨insideLow, insideHigh⟩ := inside
  rw [read, word]
  generalize (current * ofInt 100).value = hundredths at product close sign insideLow insideHigh ⊢
  generalize truncate (current * ofInt 100) = code at low high close sign ⊢
  obtain ⟨closeLow, closeHigh⟩ := abs_lt.mp close
  obtain ⟨productLow, productHigh⟩ := abs_le.mp product
  have grain : unit binary32 ≤ 1 / 2 ^ 20 := by norm_num [unit, binary32]
  have number : (ofInt ((code % 65536).toNat : Int) : Single).value = ((code % 65536).toNat : Int) := Single.int_value _ (by
    have few : (((code % 65536).toNat : Int) : ℚ) < 65536 := by exact_mod_cast (by omega : (code % 65536).toNat < 65536)
    rw [abs_of_nonneg (by exact_mod_cast Nat.zero_le _)]
    linarith)
  have divided := Single.single_error_max ((((code % 65536).toNat : Int) : ℚ) / 100)
  have quotient : (ofInt ((code % 65536).toNat : Int) / ofInt 100 : Single).value =
      round binary32 ((((code % 65536).toNat : Int) : ℚ) / 100) := by rw [Single.div_value, number, hundred]
  rw [← quotient] at divided
  generalize (ofInt ((code % 65536).toNat : Int) / ofInt 100 : Single) = decoded at divided ⊢
  rw [← sign]
  have size : |current.value * 100| ≤ 32800 := by
    rw [abs_le]
    rcases abs_cases (current.value * 100) with ⟨same, -⟩ | ⟨same, -⟩
    · rw [same] at productLow productHigh
      constructor <;> linarith
    · rw [same] at productLow productHigh
      constructor <;> linarith
  constructor
  · intro recovered
    obtain ⟨near, -⟩ := recovered
    by_contra negative
    have wrapped : ((code % 65536).toNat : Int) = code + 65536 := by omega
    rw [wrapped] at divided
    have under : ¬ -1 < hundredths := fun above => negative (sign.mpr above)
    have lowCast : (-32768 : ℚ) ≤ code := by exact_mod_cast low
    have highCast : (code : ℚ) < 0 := by exact_mod_cast not_le.mp negative
    push_cast at divided
    have error : |decoded.value - (code + 65536) / 100| ≤ 1 := by
      exact rounding_within _ _ _ _ divided (by linarith) (by linarith) (by linarith)
    obtain ⟨errorLow, errorHigh⟩ := abs_le.mp error
    obtain ⟨nearLow, nearHigh⟩ := abs_lt.mp near
    rw [currentBound] at nearHigh
    linarith
  · intro nonneg
    have same : ((code % 65536).toNat : Int) = code := by omega
    rw [same] at divided
    have lowCast : (0 : ℚ) ≤ code := by exact_mod_cast nonneg
    have highCast : (code : ℚ) ≤ 32767 := by exact_mod_cast high
    have error : |decoded.value - code / 100| ≤ 1 / 2 ^ 15 := by
      exact rounding_within _ _ _ _ divided (by linarith) (by linarith) (by linarith)
    obtain ⟨errorLow, errorHigh⟩ := abs_le.mp error
    apply recovered_of_close
    rw [currentBound]
    exact abs_lt.mpr ⟨by linarith, by linarith⟩

/-- A quantity in another unit goes through the four bytes of a float. -/
theorem float_recovered (quantity : Single) (scale : Int) (large : 2 ≤ scale) (small : scale ≤ 180)
    (finite : |(quantity * ofInt scale).value| ≤ Binary32.largest) :
    Recovered (5 * spacing binary32 quantity.value) quantity
      (ofBits (Binary32.encode (quantity * ofInt scale / pi).value) / ofInt scale * pi) := by
  have lower : (2 : ℚ) ≤ scale := by exact_mod_cast large
  have upper : (scale : ℚ) ≤ 180 := by exact_mod_cast small
  have factor : (ofInt scale : Single).value = scale := Single.int_value scale (by rw [abs_of_pos (by linarith)]; linarith)
  have sent := Single.single_error (quantity.value * scale) (by rw [mul_comm]; exact grid_int_mul binary32 _ scale quantity.grid)
  rw [← factor, ← Single.mul_value, factor] at sent
  have wire := Single.single_error_max ((quantity * ofInt scale).value / Single.pi)
  rw [← Single.pi_value, ← Single.div_value, Single.pi_value] at wire
  -- The quotient is smaller than the product, and as finite.
  have finiteWire : |(quantity * ofInt scale / pi).value| ≤ Binary32.largest := by
    obtain ⟨piLow, -⟩ := Single.pi_bounds
    have piPos := Single.pi_pos
    have third : |(quantity * ofInt scale).value / Single.pi| ≤ Binary32.largest / 3 := by
      rw [abs_div, abs_of_pos piPos, div_le_div_iff₀ piPos (by norm_num)]
      have positive := abs_nonneg (quantity * ofInt scale).value
      nlinarith only [finite, piLow, positive]
    have grain : unit binary32 ≤ 1 := by norm_num [unit, binary32]
    have big : (2 : ℚ) ≤ Binary32.largest := by norm_num [Binary32.largest]
    have moved : |(quantity * ofInt scale / pi).value - (quantity * ofInt scale).value / Single.pi| ≤ Binary32.largest / 3 :=
      wire.trans (max_le (by linarith) (by linarith))
    have triangle := abs_add_le ((quantity * ofInt scale / pi).value - (quantity * ofInt scale).value / Single.pi)
      ((quantity * ofInt scale).value / Single.pi)
    rw [sub_add_cancel] at triangle
    linarith
  have read : (ofBits (Binary32.encode (quantity * ofInt scale / pi).value) : Single) = quantity * ofInt scale / pi := by
    ext
    rw [Single.bits_value, decode_encode_rounded _ (quantity * ofInt scale / pi).rounded finiteWire]
    exact (quantity * ofInt scale / pi).rounded
  rw [read]
  have unscaled := Single.single_error_max ((quantity * ofInt scale / pi).value / scale)
  rw [← factor, ← Single.div_value, factor] at unscaled
  have back := Single.single_error_max ((quantity * ofInt scale / pi / ofInt scale).value * Single.pi)
  rw [← Single.pi_value, ← Single.mul_value, Single.pi_value] at back
  exact recovered_of_close _ quantity _ (scaled_near quantity.value scale _ _ _ _ lower sent wire unscaled back)

theorem error_kept_iff (raw : UInt8) (fwVersion : UInt32) (short : raw < 32) :
    decodeMotorError raw fwVersion = ⟨raw⟩ ↔ fwVersion = 0 ∨ raw ∉ ([6, 7, 8, 9, 31] : List UInt8) := by
  by_cases legacy : fwVersion = 0
  · simp [decodeMotorError, legacy]
  · have codes : ∀ raw : Fin 32, decodeMotorError (UInt8.ofNat raw) 1 = ⟨UInt8.ofNat raw⟩ ↔ UInt8.ofNat raw ∉ ([6, 7, 8, 9, 31] : List UInt8) := by
      decide
    have known := codes ⟨raw.toNat, short⟩
    have version : decodeMotorError raw 1 = decodeMotorError raw fwVersion := by
      simp [decodeMotorError, legacy]
    rw [UInt8.ofNat_toNat, version] at known
    simpa [legacy] using known

theorem first_feedback_byte (feedbackType : FeedbackType) (code : UInt8) (short : code < 32) :
    (UInt8.ofInt (feedbackType.value * 32) ||| code) &&& 0x1F = code ∧
      (UInt8.ofInt (feedbackType.value * 32) ||| code) >>> 5 = UInt8.ofInt feedbackType.value := by
  have codes : ∀ code : Fin 32, (UInt8.ofInt (feedbackType.value * 32) ||| UInt8.ofNat code) &&& 0x1F = UInt8.ofNat code ∧
      (UInt8.ofInt (feedbackType.value * 32) ||| UInt8.ofNat code) >>> 5 = UInt8.ofInt feedbackType.value := by
    cases feedbackType <;> decide
  have found := codes ⟨code.toNat, short⟩
  rwa [UInt8.ofNat_toNat] at found

theorem code_word (code : Int) (low : 0 ≤ code) (high : code < 65536) : ((UInt16.ofInt code).toNat : Int) = code := by
  simp only [UInt16.ofInt, UInt16.toNat_ofNat']
  omega

theorem decode_motion (pack : MotorPackMsg) (properties : MotorProperties Single) (first motor mos : UInt8) (pos spd cur : UInt16)
    (received : isFeedback pack 1 = true) (spdFits : spd.toNat < 2 ^ 12) (curFits : cur.toNat < 2 ^ 12)
    (bytes : pack.data = payload [first, (pos >>> 8).toUInt8, (pos &&& 0xFF).toUInt8, (spd >>> 4).toUInt8,
      (((spd &&& 0x0F) <<< 4) ||| ((cur >>> 8) &&& 0x0F)).toUInt8, (cur &&& 0xFF).toUInt8, motor, mos]) :
    decodeFeedback1 pack properties = some {
      error := feedbackError pack properties
      position := uintToFloat pos.toNat properties.position.min properties.position.max 16
      speed := uintToFloat spd.toNat properties.speed.min properties.speed.max 12
      current := uintToFloat cur.toNat properties.current.min properties.current.max 12
      motorTemperature := decodeTemperature motor properties.fwVersion
      mosTemperature := decodeTemperature mos properties.fwVersion } := by
  have positionField : (((pos >>> 8).toUInt8.toUInt16 <<< 8) ||| (pos &&& 0xFF).toUInt8.toUInt16) = pos := word_bytes pos
  have speedField := speed_code_field spd cur spdFits
  have currentField := current_code_field spd cur curFits
  rw [decodeFeedback1, if_pos received, bytes]
  simp only [full_payload_get, positionField, speedField, currentField]

theorem float_fields (data : Vector UInt8 8) (first : UInt8) (quantity current motorTemperature : Single) (newFirmware : Bool)
    (bytes : data = payload (first :: floatBytes quantity current motorTemperature newFirmware)) :
    readU32Be (data.get 1) (data.get 2) (data.get 3) (data.get 4) = Binary32.encode quantity.value ∧
      (unsignedCurrent data : Single) = ofInt (toInt16 (current * ofInt 100)).toUInt16.toNat / ofInt 100 ∧
        data.get 7 = encodeTemperature motorTemperature newFirmware := by
  subst bytes
  have float := word32_bytes (toBits quantity)
  have word := word_bytes (toInt16 (current * ofInt 100)).toUInt16
  refine ⟨float, ?_, rfl⟩
  exact congrArg (fun code : UInt16 => (ofInt code.toNat / ofInt 100 : Single)) word

section Decoded

variable (busIdx : Int32) (id : UInt32) (snapshot : FakeMotorSnapshot Single) (properties : MotorProperties Single)
  (status : MotorStatus Single)

theorem error_recovered_iff (short : status.error.code < 32) (feedbackType : FeedbackType) :
    feedbackError (makeFeedbackMessage busIdx id (some snapshot) status feedbackType.value).data properties = status.error ↔
      properties.fwVersion = 0 ∨ status.error.code ∉ ([6, 7, 8, 9, 31] : List UInt8) := by
  have code : (makeFeedbackMessage busIdx id (some snapshot) status feedbackType.value).data.data.get 0 &&& 0x1F = status.error.code :=
    (first_feedback_byte feedbackType status.error.code short).1
  rw [feedbackError, code]
  exact error_kept_iff status.error.code properties.fwVersion short

theorem is_feedback (short : status.error.code < 32) (feedbackType : FeedbackType) :
    isFeedback (makeFeedbackMessage busIdx id (some snapshot) status feedbackType.value).data (UInt8.ofInt feedbackType.value) = true := by
  have type : (makeFeedbackMessage busIdx id (some snapshot) status feedbackType.value).data.data.get 0 >>> 5 =
      UInt8.ofInt feedbackType.value := (first_feedback_byte feedbackType status.error.code short).2
  simp only [isFeedback, type, beq_self_eq_true, Bool.and_true]
  rfl

theorem new_firmware (agrees : Agrees snapshot properties) : snapshotIsNewFirmware snapshot = (properties.fwVersion ≠ 0 : Bool) := by
  rw [agrees.version]
  rfl

variable (agrees : Agrees snapshot properties)

include agrees

theorem motion_recovered_iff (wire : OnWire properties status .motion) :
    RoundTrip properties status (makeFeedbackMessage busIdx id (some snapshot) status FeedbackType.motion.value).data .motion ↔
      FeedbackReady properties.fwVersion status .motion := by
  obtain ⟨short, motorInside, mosInside, positionInside, speedInside, currentInside⟩ := wire
  have error := error_recovered_iff busIdx id snapshot properties status short .motion
  have received : isFeedback (makeFeedbackMessage busIdx id (some snapshot) status FeedbackType.motion.value).data 1 = true :=
    is_feedback busIdx id snapshot status short .motion
  obtain ⟨positionLow, positionHigh, position⟩ := code_bounds properties.position status.position 16 positionInside (by decide) (by decide)
  obtain ⟨speedLow, speedHigh, speed⟩ := code_bounds properties.speed status.speed 12 speedInside (by decide) (by decide)
  obtain ⟨currentLow, currentHigh, current⟩ := code_bounds properties.current status.current 12 currentInside (by decide) (by decide)
  have positionCode := code_word _ positionLow (by omega)
  have speedCode := code_word _ speedLow (by omega)
  have currentCode := code_word _ currentLow (by omega)
  have bytes : (makeFeedbackMessage busIdx id (some snapshot) status FeedbackType.motion.value).data.data =
      payload ((UInt8.ofInt (FeedbackType.motion.value * 32) ||| status.error.code) ::
        motionBytes status properties.position properties.speed properties.current (properties.fwVersion ≠ 0 : Bool)) := by
    rw [← new_firmware snapshot properties agrees, agrees.position, agrees.speed, agrees.current]
    rfl
  have decoded := decode_motion _ properties _ _ _ _ _ _ received (by omega) (by omega) bytes
  rw [positionCode, speedCode, currentCode] at decoded
  rw [RoundTrip, decoded]
  simp only [Option.some.injEq, exists_eq_left', error, FeedbackReady, true_or, and_true]
  exact ⟨fun all => all.1, fun kept => ⟨kept, temperature_recovered status.motorTemperature properties.fwVersion motorInside,
    temperature_recovered status.mosTemperature properties.fwVersion mosInside, position, speed, current⟩⟩

theorem position_recovered_iff (wire : OnWire properties status .position) :
    RoundTrip properties status (makeFeedbackMessage busIdx id (some snapshot) status FeedbackType.position.value).data .position ↔
      FeedbackReady properties.fwVersion status .position := by
  obtain ⟨short, motorInside, finite, currentInside⟩ := wire
  have error := error_recovered_iff busIdx id snapshot properties status short .position
  have received : isFeedback (makeFeedbackMessage busIdx id (some snapshot) status FeedbackType.position.value).data 2 = true :=
    is_feedback busIdx id snapshot status short .position
  have bytes : (makeFeedbackMessage busIdx id (some snapshot) status FeedbackType.position.value).data.data =
      payload ((UInt8.ofInt (FeedbackType.position.value * 32) ||| status.error.code) ::
        floatBytes (status.position * ofInt 180 / pi) status.current status.motorTemperature (properties.fwVersion ≠ 0 : Bool)) := by
    rw [← new_firmware snapshot properties agrees]
    rfl
  obtain ⟨float, currentRead, temperature⟩ := float_fields _ _ _ _ _ _ bytes
  have position := float_recovered status.position 180 (by decide) (by decide) finite
  have current := current_recovered_iff status.current _ currentInside currentRead
  rw [RoundTrip, decodeFeedback2, if_pos received]
  simp only [Option.some.injEq, exists_eq_left', error, float, temperature, current, FeedbackReady, reduceCtorEq, false_or]
  exact ⟨fun all => ⟨all.1, all.2.2.2⟩,
    fun ready => ⟨ready.1, temperature_recovered status.motorTemperature properties.fwVersion motorInside, position, ready.2⟩⟩

theorem speed_recovered_iff (wire : OnWire properties status .speed) :
    RoundTrip properties status (makeFeedbackMessage busIdx id (some snapshot) status FeedbackType.speed.value).data .speed ↔
      FeedbackReady properties.fwVersion status .speed := by
  obtain ⟨short, motorInside, finite, currentInside⟩ := wire
  have error := error_recovered_iff busIdx id snapshot properties status short .speed
  have received : isFeedback (makeFeedbackMessage busIdx id (some snapshot) status FeedbackType.speed.value).data 3 = true :=
    is_feedback busIdx id snapshot status short .speed
  have bytes : (makeFeedbackMessage busIdx id (some snapshot) status FeedbackType.speed.value).data.data =
      payload ((UInt8.ofInt (FeedbackType.speed.value * 32) ||| status.error.code) ::
        floatBytes (status.speed * ofInt 30 / pi) status.current status.motorTemperature (properties.fwVersion ≠ 0 : Bool)) := by
    rw [← new_firmware snapshot properties agrees]
    rfl
  obtain ⟨float, currentRead, temperature⟩ := float_fields _ _ _ _ _ _ bytes
  have speed := float_recovered status.speed 30 (by decide) (by decide) finite
  have current := current_recovered_iff status.current _ currentInside currentRead
  rw [RoundTrip, decodeFeedback3, if_pos received]
  simp only [Option.some.injEq, exists_eq_left', error, float, temperature, current, FeedbackReady, reduceCtorEq, false_or]
  exact ⟨fun all => ⟨all.1, all.2.2.2⟩,
    fun ready => ⟨ready.1, temperature_recovered status.motorTemperature properties.fwVersion motorInside, speed, ready.2⟩⟩

/-- Feedback of every type comes back exactly where the error keeps its number and the current its sign. -/
theorem feedback_recovered_iff (feedbackType : FeedbackType) (wire : OnWire properties status feedbackType) :
    RoundTrip properties status (makeFeedbackMessage busIdx id (some snapshot) status feedbackType.value).data feedbackType ↔
      FeedbackReady properties.fwVersion status feedbackType := by
  cases feedbackType with
  | motion => exact motion_recovered_iff busIdx id snapshot properties status agrees wire
  | position => exact position_recovered_iff busIdx id snapshot properties status agrees wire
  | speed => exact speed_recovered_iff busIdx id snapshot properties status agrees wire

end Decoded

def restingStatus (Number : Type) [FloatArithmetic Number] (error : MotorError) (current : Number) : MotorStatus Number :=
  ⟨error, ofInt 0, ofInt 0, current, ofInt 25, ofInt 25⟩

def restingSnapshot (Number : Type) [FloatArithmetic Number] (fwVersion : UInt32) : FakeMotorSnapshot Number :=
  { createSnapshot (unitProperties Number) with fwVersion := some fwVersion }

theorem resting_agrees : Agrees (restingSnapshot Single 0) (unitProperties Single) := ⟨rfl, rfl, rfl, rfl⟩

theorem resting_on_wire (current : Single) (inside : CurrentInside current) :
    OnWire (unitProperties Single) (restingStatus Single .noError current) .position := by
  have short : (MotorError.noError).code < 32 := by decide
  have warm : (ofInt 25 : Single).value = 25 := Single.int_value 25 (by norm_num)
  have rest : (ofInt 0 : Single).value = 0 := Single.int_value 0 (by norm_num)
  refine ⟨short, ?_, ?_, inside⟩
  · simp only [TemperatureInside, unitProperties, restingStatus, ↓reduceIte, warm]
    norm_num
  · simp only [restingStatus, Single.mul_value, rest, zero_mul, round_zero, Binary32.largest]
    norm_num

theorem hundredths (amperes : Int) (small : |(amperes : ℚ)| ≤ 1) : (ofInt amperes * ofInt 100 : Single).value = amperes * 100 := by
  have hundred : (ofInt 100 : Single).value = 100 := Single.int_value 100 (by norm_num)
  have scaled := Single.int_value (amperes * 100) (by push_cast; rw [abs_mul]; norm_num; linarith)
  rw [Single.mul_value, Single.int_value amperes (by linarith), hundred]
  exact_mod_cast scaled

/-- Minus one ampere comes back as 654.36. -/
theorem negative_current_lost :
    ¬RoundTrip (unitProperties Single) (restingStatus Single .noError (ofInt (-1)))
        (makeFeedbackMessage 0 5 (some (restingSnapshot Single 0)) (restingStatus Single .noError (ofInt (-1))) 2).data .position ∧
      (decodeFeedback2 (makeFeedbackMessage 0 5 (some (restingSnapshot Float32 0)) (restingStatus Float32 .noError (ofInt (-1))) 2).data
        (unitProperties Float32)).map (fun feedback => toBits feedback.current) = some (toBits (ofInt 65436 / ofInt 100 : Float32)) := by
  refine ⟨fun trip => ?_, by decide +kernel⟩
  have code := hundredths (-1) (by norm_num)
  have wire := resting_on_wire (ofInt (-1)) (by rw [CurrentInside, code]; norm_num)
  have ready := (position_recovered_iff 0 5 _ _ _ resting_agrees wire).mp trip
  rcases ready.2 with motion | above
  · cases motion
  · rw [restingStatus, code] at above
    norm_num at above

theorem resting_recovered :
    RoundTrip (unitProperties Single) (restingStatus Single .noError (ofInt 1))
      (makeFeedbackMessage 0 5 (some (restingSnapshot Single 0)) (restingStatus Single .noError (ofInt 1)) 2).data .position :=
  have code := hundredths 1 (by norm_num)
  (feedback_recovered_iff 0 5 (restingSnapshot Single 0) (unitProperties Single) (restingStatus Single .noError (ofInt 1)) resting_agrees
    .position (resting_on_wire (ofInt 1) (by rw [CurrentInside, code]; norm_num))).mpr
    ⟨.inl rfl, .inr (by rw [restingStatus, code]; norm_num)⟩

end EncosDriver.Fake
