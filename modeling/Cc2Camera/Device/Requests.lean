import Cc2Camera.Backup.Json
import Cc2Camera.Device.Normal

/-!
# Requests — the normal-mode half of `commands.py`

The commands the daemon is known to implement, with the checked builders of their requests.
-/

open Bytes Exceptions

namespace Cc2Camera.Commands

open Protocol

/-! ## Configuration commands -/

inductive ConfigurationKey where
  | manufacturerLabel
  | serialLabel
  | productNumber
  | vendorId
  | productId
  | deviceBcd
  | modelLabel
  | cmeiLabel
  | appKey
  | productLabel
  | adbEnabled
  | sensorName
  | i2cAddress
  | defaultBoot
  | sensorFps
  | sensorWidth
  | sensorHeight
  | hvFlip
  | rateControlMode
  | bitrate
  | qpValue
  deriving DecidableEq, Repr

def ConfigurationKey.value : ConfigurationKey → String
  | .manufacturerLabel => "manufact_lab"
  | .serialLabel => "serial_lab"
  | .productNumber => "productnumber"
  | .vendorId => "vendor_id"
  | .productId => "product_id"
  | .deviceBcd => "device_bcd"
  | .modelLabel => "model_lab"
  | .cmeiLabel => "cmei_lab"
  | .appKey => "appkey"
  | .productLabel => "product_lab"
  | .adbEnabled => "adb_en"
  | .sensorName => "sensor_name"
  | .i2cAddress => "i2c_addr"
  | .defaultBoot => "default_boot"
  | .sensorFps => "sensor_fps"
  | .sensorWidth => "sensor_width"
  | .sensorHeight => "sensor_height"
  | .hvFlip => "hvflip"
  | .rateControlMode => "rcmode"
  | .bitrate => "bitrate"
  | .qpValue => "qp_value"

structure ConfigCommandPair where
  key : ConfigurationKey
  get : Nat
  set : Nat
  deriving DecidableEq, Repr

def CONFIGURATION_COMMANDS : List ConfigCommandPair :=
  [⟨.manufacturerLabel, 0x2000, 0x2001⟩, ⟨.serialLabel, 0x2010, 0x2011⟩, ⟨.productNumber, 0x2020, 0x2021⟩,
    ⟨.vendorId, 0x2030, 0x2031⟩, ⟨.productId, 0x2040, 0x2041⟩, ⟨.deviceBcd, 0x2050, 0x2051⟩,
    ⟨.modelLabel, 0x2F00, 0x2F01⟩, ⟨.cmeiLabel, 0x2F10, 0x2F11⟩, ⟨.appKey, 0x2F20, 0x2F21⟩,
    ⟨.productLabel, 0x2F30, 0x2F31⟩, ⟨.adbEnabled, 0x2F40, 0x2F41⟩, ⟨.sensorName, 0x2F50, 0x2F51⟩,
    ⟨.i2cAddress, 0x2F60, 0x2F61⟩, ⟨.defaultBoot, 0x2F70, 0x2F71⟩, ⟨.sensorFps, 0x2F80, 0x2F81⟩,
    ⟨.sensorWidth, 0x2F90, 0x2F91⟩, ⟨.sensorHeight, 0x2FA0, 0x2FA1⟩, ⟨.hvFlip, 0x2FB0, 0x2FB1⟩,
    ⟨.rateControlMode, 0x2FC0, 0x2FC1⟩, ⟨.bitrate, 0x2FD0, 0x2FD1⟩, ⟨.qpValue, 0x2FE0, 0x2FE1⟩]

/-- `CONFIGURATION_BY_KEY[key]`. -/
def configurationPair (key : ConfigurationKey) : Except Exc ConfigCommandPair :=
  orRaise (CONFIGURATION_COMMANDS.find? (·.key = key)) .keyError

/-! ## Upload commands -/

inductive UploadState where
  | idle
  | needTarget
  | receiving
  | readyToCommit
  | error
  deriving DecidableEq, Repr

structure UploadCommandDescriptor where
  command : Nat
  requiredState : UploadState
  normalNextState : UploadState
  acceptsPayload : Bool
  destructive : Bool
  deriving DecidableEq, Repr

-- the command, the state it is meant for and the state after it
def UPLOAD_COMMANDS : List UploadCommandDescriptor :=
  [⟨0x3000, .idle, .needTarget, false, false⟩, ⟨0x3110, .needTarget, .receiving, true, false⟩,
    ⟨0x3111, .needTarget, .receiving, true, false⟩, ⟨0x3112, .needTarget, .receiving, true, false⟩,
    ⟨0x3113, .needTarget, .receiving, true, false⟩, ⟨0x3114, .needTarget, .receiving, false, false⟩,
    ⟨0x3115, .needTarget, .receiving, false, false⟩, ⟨0x3116, .needTarget, .receiving, true, false⟩,
    ⟨0x3120, .needTarget, .receiving, true, false⟩, ⟨0x3150, .needTarget, .receiving, true, false⟩,
    ⟨0x31F0, .needTarget, .receiving, true, false⟩, ⟨0x3200, .receiving, .receiving, true, false⟩,
    ⟨0x3300, .readyToCommit, .idle, false, true⟩]

def UPLOAD_TARGET_3110 : Nat := 0x3110

def LITERAL_UPLOAD_TARGET_COMMANDS : List Nat :=
  [0x3110, 0x3111, 0x3112, 0x3113, 0x3116, 0x3120, 0x3150, 0x31F0]

def DERIVED_UPLOAD_TARGET_COMMANDS : List Nat := [0x3114, 0x3115]

/-- The values of the enumeration `NormalCommand`. -/
def NORMAL_COMMANDS : List Nat :=
  0x0001 :: CONFIGURATION_COMMANDS.flatMap (fun pair => [pair.get, pair.set]) ++
    UPLOAD_COMMANDS.map (·.command) ++ [0x4000]

def isUpgradeTriggerCommand (command : Nat) : Bool := command ≤ 0xFFFF ∧ command / 0x1000 = 4

/-! ## Builders -/

def buildConfigGetRequest (key : ConfigurationKey) : Except Exc Bytes := do
  let pair ← configurationPair key
  buildNormalReport pair.get [] 1 0

-- a text value is encoded as UTF-8 before it gets here
def buildConfigSetRequest (key : ConfigurationKey) (value : Bytes) (frameType : Nat) : Except Exc Bytes := do
  let pair ← configurationPair key
  buildNormalReport pair.set value frameType 0

def buildUploadInitializeRequest : Except Exc Bytes := buildNormalReport 0x3000 [] 1 0

-- `[A-Za-z0-9_./-]`
def isSafePathByte (b : UInt8) : Bool :=
  (65 ≤ b ∧ b ≤ 90) ∨ (97 ≤ b ∧ b ≤ 122) ∨ (48 ≤ b ∧ b ≤ 57) ∨ b ∈ [95, 46, 47, 45]

/-- `path.encode("ascii")`. -/
def encodeAscii (path : Text) : Option Bytes :=
  if path.all (· < 128) then some (path.map UInt8.ofNat) else none

def hex04 (value : Nat) : String := "0x" ++ paddedDigits 16 4 value

def buildUploadTargetRequest (command : Nat) (path : Option Text) : Except Exc Bytes := do
  raiseIf (command ∉ NORMAL_COMMANDS) (.protocolError ("unknown upload target command: " ++ toString command))
  if command ∈ DERIVED_UPLOAD_TARGET_COMMANDS then do
    raiseIf (path ≠ none) (.protocolError "sensor-derived upload target must not include a path")
    buildNormalReport command [] 1 0
  else do
    raiseIf (command ∉ LITERAL_UPLOAD_TARGET_COMMANDS)
      (.protocolError (hex04 command ++ " is not an upload target command"))
    let path ← orRaise path (.protocolError "literal upload target requires a path")
    let encoded ← orRaise (encodeAscii path) (.protocolError "upload path must be ASCII or bytes-like")
    raiseIf (encoded = [] ∨ 127 < encoded.length ∨ encoded.all isSafePathByte = false)
      (.protocolError "upload path must be 1-127 safe ASCII path bytes")
    buildNormalReport command encoded 1 0

def buildUploadDataRequest (sequence : Nat) (data : Bytes) (final : Bool) : Except Exc Bytes := do
  raiseIf (¬sequence ≤ 0xFFFFFFFF) (.protocolError "upload sequence must fit in an unsigned 32-bit integer")
  buildNormalReport 0x3200 data (if final then 2 else 1) sequence

def buildUploadCommitRequest : Except Exc Bytes := buildNormalReport 0x3300 [] 1 0

def ADB_UPLOAD_COMMAND_TARGET : Bytes := ascii "/tmp/.cc2flash-adbd-bootstrap;/bin/adbd&"

def buildAdbUploadCommandTargetRequest : Except Exc Bytes := do
  raiseIf (32 ∈ ADB_UPLOAD_COMMAND_TARGET) .assertionError
  raiseIf (¬(0 < ADB_UPLOAD_COMMAND_TARGET.length ∧ ADB_UPLOAD_COMMAND_TARGET.length ≤ 127)) .assertionError
  buildNormalReport UPLOAD_TARGET_3110 ADB_UPLOAD_COMMAND_TARGET 1 0

def UPGRADE_MODE_CDC : Nat := 0x010203A0
def UPGRADE_MODE_HID : Nat := 0x010203A1

def upgradeFlagPayload (mode : Nat) : Except Exc Bytes := do
  raiseIf (¬(mode = UPGRADE_MODE_CDC ∨ mode = UPGRADE_MODE_HID))
    (.protocolError "unknown bootloader transport flag")
  packAll [(4, UPGRADE_FLAG_0), (4, mode)]

def buildUpgradeRequest (mode command : Nat) : Except Exc Bytes := do
  raiseIf (isUpgradeTriggerCommand command = false)
    (.protocolError "upgrade trigger command must be in the 0x4xxx group")
  let payload ← upgradeFlagPayload mode
  buildNormalReport command payload 1 0

/-! ## The catalog -/

inductive NormalCommandFamily where
  | version
  | configuration
  | fileUpload
  | upgradeTrigger
  deriving DecidableEq, Repr

structure NormalCommandDescriptor where
  command : Nat
  name : String
  family : NormalCommandFamily
  deriving DecidableEq, Repr

-- `upload.command.name.lower()`
def uploadCommandName (command : Nat) : String :=
  if command = 0x3000 then "upload_initialize"
  else if command = 0x3114 then "upload_target_sensor_module"
  else if command = 0x3115 then "upload_target_sensor_configuration"
  else if command = 0x3200 then "upload_append_data"
  else if command = 0x3300 then "upload_commit"
  else "upload_target_" ++ paddedDigits 16 4 command

def NORMAL_COMMAND_CATALOG : List NormalCommandDescriptor :=
  [⟨0x0001, "version_query", .version⟩] ++
    CONFIGURATION_COMMANDS.flatMap (fun pair =>
      [⟨pair.get, "config_get_" ++ pair.key.value, .configuration⟩,
        ⟨pair.set, "config_set_" ++ pair.key.value, .configuration⟩]) ++
    UPLOAD_COMMANDS.map (fun upload => ⟨upload.command, uploadCommandName upload.command, .fileUpload⟩) ++
    [⟨0x4000, "upgrade_and_reboot", .upgradeTrigger⟩]

def describeNormalCommand (command : Nat) : Option NormalCommandDescriptor :=
  match NORMAL_COMMAND_CATALOG.find? (·.command = command) with
  | some exact => some exact
  | none =>
    if isUpgradeTriggerCommand command then
      some ⟨command, "upgrade_and_reboot_0x" ++ paddedDigits 16 4 command, .upgradeTrigger⟩
    else none

end Cc2Camera.Commands
