import SurfaceAggregator.CTypes

/-! The thermal sensor driver, `surface_thermal.c`.

A sensor is an SSAM client device whose instance ID `n ≥ 1` names bit `n - 1` of the
EC's bitmask of available sensors. Its probe checks that bit, registers a tripless
thermal zone and enables it, unregistering the zone when enabling fails; its remove
unregisters the zone. The zone reads temperatures through `ssam_tmp_get_temperature`,
which turns the EC's tenths of a kelvin into thousandths of a degree Celsius.

C leaves two of these operations undefined on some inputs: `int` arithmetic that
overflows, and `BIT(nr)`, that is `1UL << nr`, for `nr` not below the width of `long`.
Both are `none` here.
-/

set_option autoImplicit false

namespace SurfaceAggregator.Thermal

/-- An `int` result of C arithmetic, `none` when it overflows. -/
def checkedInt (v : Int) : Option Int := if -2 ^ 31 ≤ v ∧ v < 2 ^ 31 then some v else none

/-- `BIT(nr)`: `1UL << nr`, `none` when the shift is not below the width of `long`. -/
def bit (abi : Abi) (nr : Nat) : Option Nat := if nr < abi.bitsPerLong then some (2 ^ nr) else none

/-- `ssam_tmp_get_temperature`: `(le16_to_cpu(temp_le) - 2731) * 100` in `int`, after the
`u16` is promoted. -/
def ssamTmpGetTemperature (r : Reply UInt16) : Reply (Option Int) :=
  r.map fun raw => (checkedInt ((raw.toNat : Int) - 2731)).bind fun deci => checkedInt (deci * 100)

/-! ## Probe and remove -/

/-- The thermal zone of a sensor device, and whether a release found it already gone. -/
structure Sensor where
  tzd : Bool
  enabled : Bool
  misuse : Bool
  deriving DecidableEq, Repr

/-- The driver data as `devm_kzalloc` returns it. -/
def Sensor.zero : Sensor := ⟨false, false, false⟩

/-- The EC's and the kernel's answers during one `ssam_thermal_sensor_probe`. The probe
passes its `u16 sensors` where `ssam_tmp_get_available_sensors` takes an `s16 *`; read back
as a `u16`, the stored bytes are the EC's mask unchanged, which is what `sensors` holds. -/
structure ProbeReplies where
  sensors : Reply UInt16
  alloc : Bool
  register : Reply Unit
  enable : Reply Unit

/-- `thermal_zone_device_unregister`. -/
def thermalZoneDeviceUnregister (s : Sensor) : Sensor :=
  { s with tzd := false, enabled := false, misuse := s.misuse || !s.tzd }

/-- `ssam_thermal_sensor_probe` of the device with instance ID `inst`; `none` when it shifts
past the width of `long`. -/
def ssamThermalSensorProbe (abi : Abi) (inst : UInt8) (r : ProbeReplies) : Option (Reply Unit × Sensor) :=
  -- Instance IDs must be 1 or larger. IID=0 is the hub device.
  if inst = 0 then some (.error .nodev, .zero) else
  -- Make sure that the sensor is actually present.
  match r.sensors with
  | .error e => some (.error e, .zero)
  | .ok sensors => (bit abi (inst.toNat - 1)).map fun mask =>
    if sensors.toNat &&& mask = 0 then (.error .nodev, .zero)
    else if !r.alloc then (.error ⟨-ENOMEM, by decide⟩, .zero)
    else match r.register with
      | .error e => (.error e, .zero)
      | .ok () =>
        match r.enable with
        | .error e => (.error e, thermalZoneDeviceUnregister { Sensor.zero with tzd := true })
        | .ok () => (.ok (), { Sensor.zero with tzd := true, enabled := true })

def ssamThermalSensorRemove : Sensor → Sensor := thermalZoneDeviceUnregister

end SurfaceAggregator.Thermal
