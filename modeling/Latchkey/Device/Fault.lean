import Latchkey.Device.Condition

/-!
# Faults

A device refuses a request by reporting a fault code. Three codes mean different things on a lock and on
every other device.
-/

namespace Latchkey

/-- The faults that have a name, by ascending code. -/
inductive FaultName where
  | notPairing | badAuthenticator | pairingBadParameter | maxUser | notAuthorized | badPin
  | badNonce | badParameter | invalidAuthId | disabled | remoteNotAllowed | timeNotAllowed
  | tooManyPinAttempts | tooManyEntries | codeAlreadyExists | codeInvalid | codeInvalidTimeout1
  | codeInvalidTimeout2 | codeInvalidTimeout3 | autoUnlockTooRecent | positionUnknown | motorBlocked
  | clutchFailure | motorTimeout | busy | canceled | notCalibrated | notTrained | motorPositionLimit
  | motorLowVoltage | lowVoltage | motorPowerFailure | clutchPowerFailure | recordingTimeout
  | voltageTooLow | firmwareUpdateNeeded | operatingModeUnknown | badCrc | badLength
deriving DecidableEq, Repr

namespace FaultName

def all : List FaultName := [
  .notPairing, .badAuthenticator, .pairingBadParameter, .maxUser, .notAuthorized, .badPin,
  .badNonce, .badParameter, .invalidAuthId, .disabled, .remoteNotAllowed, .timeNotAllowed,
  .tooManyPinAttempts, .tooManyEntries, .codeAlreadyExists, .codeInvalid, .codeInvalidTimeout1,
  .codeInvalidTimeout2, .codeInvalidTimeout3, .autoUnlockTooRecent, .positionUnknown,
  .motorBlocked, .clutchFailure, .motorTimeout, .busy, .canceled, .notCalibrated, .notTrained,
  .motorPositionLimit, .motorLowVoltage, .lowVoltage, .motorPowerFailure, .clutchPowerFailure,
  .recordingTimeout, .voltageTooLow, .firmwareUpdateNeeded, .operatingModeUnknown, .badCrc,
  .badLength]

def code : FaultName → UInt8
  | .notPairing => 0x10 | .badAuthenticator => 0x11 | .pairingBadParameter => 0x12
  | .maxUser => 0x13 | .notAuthorized => 0x20 | .badPin => 0x21 | .badNonce => 0x22
  | .badParameter => 0x23 | .invalidAuthId => 0x24 | .disabled => 0x25 | .remoteNotAllowed => 0x26
  | .timeNotAllowed => 0x27 | .tooManyPinAttempts => 0x28 | .tooManyEntries => 0x29
  | .codeAlreadyExists => 0x2A | .codeInvalid => 0x2B | .codeInvalidTimeout1 => 0x2C
  | .codeInvalidTimeout2 => 0x2D | .codeInvalidTimeout3 => 0x2E | .autoUnlockTooRecent => 0x40
  | .positionUnknown => 0x41 | .motorBlocked => 0x42 | .clutchFailure => 0x43
  | .motorTimeout => 0x44 | .busy => 0x45 | .canceled => 0x46 | .notCalibrated => 0x47
  | .notTrained => 0x47 | .motorPositionLimit => 0x48 | .motorLowVoltage => 0x49
  | .lowVoltage => 0x49 | .motorPowerFailure => 0x4A | .clutchPowerFailure => 0x4B
  | .recordingTimeout => 0x4B | .voltageTooLow => 0x4C | .firmwareUpdateNeeded => 0x4D
  | .operatingModeUnknown => 0x50 | .badCrc => 0xFD | .badLength => 0xFE

def label : FaultName → String
  | .notPairing => "NotPairing" | .badAuthenticator => "BadAuthenticator"
  | .pairingBadParameter => "PairingBadParameter" | .maxUser => "MaxUser"
  | .notAuthorized => "NotAuthorized" | .badPin => "BadPin" | .badNonce => "BadNonce"
  | .badParameter => "BadParameter" | .invalidAuthId => "InvalidAuthId" | .disabled => "Disabled"
  | .remoteNotAllowed => "RemoteNotAllowed" | .timeNotAllowed => "TimeNotAllowed"
  | .tooManyPinAttempts => "TooManyPinAttempts" | .tooManyEntries => "TooManyEntries"
  | .codeAlreadyExists => "CodeAlreadyExists" | .codeInvalid => "CodeInvalid"
  | .codeInvalidTimeout1 => "CodeInvalidTimeout1" | .codeInvalidTimeout2 => "CodeInvalidTimeout2"
  | .codeInvalidTimeout3 => "CodeInvalidTimeout3" | .autoUnlockTooRecent => "AutoUnlockTooRecent"
  | .positionUnknown => "PositionUnknown" | .motorBlocked => "MotorBlocked"
  | .clutchFailure => "ClutchFailure" | .motorTimeout => "MotorTimeout" | .busy => "Busy"
  | .canceled => "Canceled" | .notCalibrated => "NotCalibrated" | .notTrained => "NotTrained"
  | .motorPositionLimit => "MotorPositionLimit" | .motorLowVoltage => "MotorLowVoltage"
  | .lowVoltage => "LowVoltage" | .motorPowerFailure => "MotorPowerFailure"
  | .clutchPowerFailure => "ClutchPowerFailure" | .recordingTimeout => "RecordingTimeout"
  | .voltageTooLow => "VoltageTooLow" | .firmwareUpdateNeeded => "FirmwareUpdateNeeded"
  | .operatingModeUnknown => "OperatingModeUnknown" | .badCrc => "BadCrc"
  | .badLength => "BadLength"

def message : FaultName → String
  | .notPairing => "public key was requested but the device is not in pairing mode"
  | .badAuthenticator => "received authenticator does not match the device's own"
  | .pairingBadParameter => "provided parameter is outside of its valid range"
  | .maxUser => "the maximum number of users has been reached"
  | .notAuthorized =>
    "authorization id is invalid or the payload could not be decrypted with its shared key"
  | .badPin => "the provided pin does not match the stored one"
  | .badNonce => "the provided nonce does not match the last one or has already been used"
  | .badParameter => "a provided parameter is outside of its valid range"
  | .invalidAuthId => "the authorization id to delete does not exist"
  | .disabled => "the authorization id is currently disabled"
  | .remoteNotAllowed => "the authorization id has not been granted remote access"
  | .timeNotAllowed => "the authorization id has not been granted access at the current time"
  | .tooManyPinAttempts => "an invalid pin has been provided too often"
  | .tooManyEntries => "no more entries can be stored"
  | .codeAlreadyExists => "the keypad code already exists"
  | .codeInvalid => "the entered keypad code is invalid"
  | .codeInvalidTimeout1 => "an invalid pin has been provided multiple times (1)"
  | .codeInvalidTimeout2 => "an invalid pin has been provided multiple times (2)"
  | .codeInvalidTimeout3 => "an invalid pin has been provided multiple times (3)"
  | .autoUnlockTooRecent => "auto unlock refused, a lock action was executed shortly before"
  | .positionUnknown => "the device is unsure about its actual lock position"
  | .motorBlocked => "the motor blocks"
  | .clutchFailure => "there is a problem with the clutch during motor movement"
  | .motorTimeout => "the motor moved for too long without blocking"
  | .busy => "there is already a lock action processing"
  | .canceled => "the user canceled the motor movement by pressing the button"
  | .notCalibrated => "the Smart Lock has not yet been calibrated"
  | .notTrained => "the Opener is not in operating mode 0x00 and has not yet been trained"
  | .motorPositionLimit => "the internal position database cannot store any more values"
  | .motorLowVoltage => "the motor blocks because of low voltage"
  | .lowVoltage => "no voltage detected on the BUS connection"
  | .motorPowerFailure => "power drain during motor movement is zero"
  | .clutchPowerFailure => "the power drain during clutch movement is zero"
  | .recordingTimeout => "BUS signal recording ran for more than 30s without a signal"
  | .voltageTooLow => "the battery voltage is too low to start a calibration"
  | .firmwareUpdateNeeded => "a firmware update is mandatory"
  | .operatingModeUnknown => "operating mode is not in the valid range of the firmware"
  | .badCrc => "CRC of received command is invalid"
  | .badLength => "length of retrieved command payload does not match expected length"

/-- Devices of this family report the fault. -/
def OccursOn (family : Family) : FaultName → Prop
  | .notCalibrated | .motorLowVoltage | .clutchPowerFailure => family = .smartLock
  | .notTrained | .lowVoltage | .recordingTimeout => family ≠ .smartLock
  | _ => True

instance (family : Family) (name : FaultName) : Decidable (name.OccursOn family) := by
  unfold OccursOn; split <;> infer_instance

/-- The fault concerns how a request was sent or when, so that sending it again may succeed. -/
def isRetriable : FaultName → Bool
  | .badCrc | .badLength | .badNonce | .busy | .autoUnlockTooRecent | .motorTimeout => true
  | _ => false

end FaultName

abbrev Fault := Coded UInt8 FaultName

namespace Fault

/-- What a code means on a device of the given family. -/
def ofCode (family : Family) (code : UInt8) : Fault :=
  match FaultName.all.find? fun name => name.code = code ∧ name.OccursOn family with
  | some name => .known name
  | none => .unknown code

def code : Fault → UInt8
  | .known name => name.code
  | .unknown code => code

def text : Fault → String
  | .known name => name.label
  | .unknown code => s!"Unknown({code})"

def message : Fault → String
  | .known name => name.message
  | .unknown code => s!"unknown error (0x{Numeral.hexUpper 2 code.toNat})"

/-- The part of the device that reports the fault, as a short name for logs. -/
def area (fault : Fault) : String :=
  let code := fault.code
  if 0x10 ≤ code ∧ code ≤ 0x13 then "DEVICE_PAIRING_ERROR"
  else if 0x20 ≤ code ∧ code ≤ 0x2E then "DEVICE_KEYTURNER_ERROR"
  else if 0x40 ≤ code ∧ code ≤ 0x50 then "DEVICE_MOTOR_ERROR"
  else "DEVICE_ERROR"

def isRetriable : Fault → Bool
  | .known name => name.isRetriable
  | .unknown _ => false

end Fault

end Latchkey
