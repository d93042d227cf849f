import Latchkey.Vocabulary

/-!
# Command ids

Every message says what it is by a 16-bit id. The ids below are those the protocol gives a meaning;
any other id is carried along unchanged.
-/

namespace Latchkey

/-- The commands the protocol knows, by ascending id. -/
inductive CommandName where
  | requestData | publicKey | challenge | authorizationAuthenticator | authorizationData
  | authorizationId | removeUserAuthorization | requestAuthorizationEntries | authorizationEntry
  | authorizationDataInvite | keyturnerStates | lockAction | status | mostRecentCommand
  | openingsClosingsSummary | batteryReport | errorReport | setConfig | requestConfig | config
  | setSecurityPin | requestCalibration | requestReboot | authorizationIdConfirmation
  | authorizationIdInvite | verifySecurityPin | updateTime | updateUserAuthorization
  | authorizationEntryCount | startBusSignalRecording | requestLogEntries | logEntry | logEntryCount
  | enableLogging | setAdvancedConfig | requestAdvancedConfig | advancedConfig | addTimeControlEntry
  | timeControlEntryId | removeTimeControlEntry | requestTimeControlEntries | timeControlEntryCount
  | timeControlEntry | updateTimeControlEntry | addKeypadCode | keypadCodeId | requestKeypadCodes
  | keypadCodeCount | keypadCode | updateKeypadCode | removeKeypadCode | keypadAction
  | continuousModeAction | simpleLockAction
deriving DecidableEq, Repr

namespace CommandName

def all : List CommandName := [
  .requestData, .publicKey, .challenge, .authorizationAuthenticator, .authorizationData,
  .authorizationId, .removeUserAuthorization, .requestAuthorizationEntries, .authorizationEntry,
  .authorizationDataInvite, .keyturnerStates, .lockAction, .status, .mostRecentCommand,
  .openingsClosingsSummary, .batteryReport, .errorReport, .setConfig, .requestConfig, .config,
  .setSecurityPin, .requestCalibration, .requestReboot, .authorizationIdConfirmation,
  .authorizationIdInvite, .verifySecurityPin, .updateTime, .updateUserAuthorization,
  .authorizationEntryCount, .startBusSignalRecording, .requestLogEntries, .logEntry, .logEntryCount,
  .enableLogging, .setAdvancedConfig, .requestAdvancedConfig, .advancedConfig, .addTimeControlEntry,
  .timeControlEntryId, .removeTimeControlEntry, .requestTimeControlEntries, .timeControlEntryCount,
  .timeControlEntry, .updateTimeControlEntry, .addKeypadCode, .keypadCodeId, .requestKeypadCodes,
  .keypadCodeCount, .keypadCode, .updateKeypadCode, .removeKeypadCode, .keypadAction,
  .continuousModeAction, .simpleLockAction]

def code : CommandName → UInt16
  | .requestData => 0x0001 | .publicKey => 0x0003 | .challenge => 0x0004
  | .authorizationAuthenticator => 0x0005 | .authorizationData => 0x0006
  | .authorizationId => 0x0007 | .removeUserAuthorization => 0x0008
  | .requestAuthorizationEntries => 0x0009 | .authorizationEntry => 0x000A
  | .authorizationDataInvite => 0x000B | .keyturnerStates => 0x000C | .lockAction => 0x000D
  | .status => 0x000E | .mostRecentCommand => 0x000F | .openingsClosingsSummary => 0x0010
  | .batteryReport => 0x0011 | .errorReport => 0x0012 | .setConfig => 0x0013
  | .requestConfig => 0x0014 | .config => 0x0015 | .setSecurityPin => 0x0019
  | .requestCalibration => 0x001A | .requestReboot => 0x001D
  | .authorizationIdConfirmation => 0x001E | .authorizationIdInvite => 0x001F
  | .verifySecurityPin => 0x0020 | .updateTime => 0x0021 | .updateUserAuthorization => 0x0025
  | .authorizationEntryCount => 0x0027 | .startBusSignalRecording => 0x002F
  | .requestLogEntries => 0x0031 | .logEntry => 0x0032 | .logEntryCount => 0x0033
  | .enableLogging => 0x0034 | .setAdvancedConfig => 0x0035 | .requestAdvancedConfig => 0x0036
  | .advancedConfig => 0x0037 | .addTimeControlEntry => 0x0039 | .timeControlEntryId => 0x003A
  | .removeTimeControlEntry => 0x003B | .requestTimeControlEntries => 0x003C
  | .timeControlEntryCount => 0x003D | .timeControlEntry => 0x003E
  | .updateTimeControlEntry => 0x003F | .addKeypadCode => 0x0041 | .keypadCodeId => 0x0042
  | .requestKeypadCodes => 0x0043 | .keypadCodeCount => 0x0044 | .keypadCode => 0x0045
  | .updateKeypadCode => 0x0046 | .removeKeypadCode => 0x0047 | .keypadAction => 0x0048
  | .continuousModeAction => 0x0057 | .simpleLockAction => 0x0100

def label : CommandName → String
  | .requestData => "RequestData" | .publicKey => "PublicKey" | .challenge => "Challenge"
  | .authorizationAuthenticator => "AuthorizationAuthenticator"
  | .authorizationData => "AuthorizationData" | .authorizationId => "AuthorizationId"
  | .removeUserAuthorization => "RemoveUserAuthorization"
  | .requestAuthorizationEntries => "RequestAuthorizationEntries"
  | .authorizationEntry => "AuthorizationEntry"
  | .authorizationDataInvite => "AuthorizationDataInvite" | .keyturnerStates => "KeyturnerStates"
  | .lockAction => "LockAction" | .status => "Status" | .mostRecentCommand => "MostRecentCommand"
  | .openingsClosingsSummary => "OpeningsClosingsSummary" | .batteryReport => "BatteryReport"
  | .errorReport => "ErrorReport" | .setConfig => "SetConfig" | .requestConfig => "RequestConfig"
  | .config => "Config" | .setSecurityPin => "SetSecurityPin"
  | .requestCalibration => "RequestCalibration" | .requestReboot => "RequestReboot"
  | .authorizationIdConfirmation => "AuthorizationIdConfirmation"
  | .authorizationIdInvite => "AuthorizationIdInvite" | .verifySecurityPin => "VerifySecurityPin"
  | .updateTime => "UpdateTime" | .updateUserAuthorization => "UpdateUserAuthorization"
  | .authorizationEntryCount => "AuthorizationEntryCount"
  | .startBusSignalRecording => "StartBusSignalRecording"
  | .requestLogEntries => "RequestLogEntries" | .logEntry => "LogEntry"
  | .logEntryCount => "LogEntryCount" | .enableLogging => "EnableLogging"
  | .setAdvancedConfig => "SetAdvancedConfig" | .requestAdvancedConfig => "RequestAdvancedConfig"
  | .advancedConfig => "AdvancedConfig" | .addTimeControlEntry => "AddTimeControlEntry"
  | .timeControlEntryId => "TimeControlEntryId"
  | .removeTimeControlEntry => "RemoveTimeControlEntry"
  | .requestTimeControlEntries => "RequestTimeControlEntries"
  | .timeControlEntryCount => "TimeControlEntryCount" | .timeControlEntry => "TimeControlEntry"
  | .updateTimeControlEntry => "UpdateTimeControlEntry" | .addKeypadCode => "AddKeypadCode"
  | .keypadCodeId => "KeypadCodeId" | .requestKeypadCodes => "RequestKeypadCodes"
  | .keypadCodeCount => "KeypadCodeCount" | .keypadCode => "KeypadCode"
  | .updateKeypadCode => "UpdateKeypadCode" | .removeKeypadCode => "RemoveKeypadCode"
  | .keypadAction => "KeypadAction" | .continuousModeAction => "ContinuousModeAction"
  | .simpleLockAction => "SimpleLockAction"

instance : Vocabulary UInt16 CommandName where
  words := all
  code := code
  label := label

end CommandName

abbrev CommandId := Coded UInt16 CommandName

namespace CommandId

/-- The name of a known id; an unknown one is shown in hexadecimal. -/
def display : CommandId → String
  | .known name => name.label
  | .unknown raw => s!"Unknown(0x{Numeral.hexUpper 4 raw.toNat})"

end CommandId

end Latchkey
