import Latchkey.Proofs.Places
import Latchkey.Proofs.Writing

/-!
# Configuration reports that are written and read

The two layouts of a configuration report differ in where their fields stand, but from a payload of either of them
the settings that have been written are read, each at its own place.
-/

namespace Latchkey

open Reader

namespace Identity

private theorem restores_fields {i : Identity} (hzero : '\x00' ∉ i.name.toList)
    (hfits : (Utf8.ofString i.name).length ≤ 32) : Restores fields i.encode i := by
  rw [encode, List.append_assoc, List.append_assoc]
  refine (restores_word32 i.deviceId).bind ?_
  refine (Padded.restores_field hzero hfits).bind ?_
  refine (restores_word32 i.latitude).bind ?_
  exact (restores_word32 i.longitude).make _

@[simp] theorem length_encode (i : Identity) : i.encode.length = 44 := by simp [encode]

end Identity

namespace Controls

private theorem restores_fields (c : Controls) : Restores fields c.encode c := by
  refine .flag c.pairing ?_
  refine .flag c.button ?_
  exact (restores_flag c.led).make _

@[simp] theorem length_encode (c : Controls) : c.encode.length = 3 := rfl

end Controls

namespace Clock

/-- The group with its code under its name. -/
def named (c : Clock) : Clock := { c with daylightSaving := c.daylightSaving.named }

private theorem restores_fields (c : Clock) : Restores fields c.encode c.named := by
  rw [encode, List.append_assoc]
  refine (Stamp.restores_field c.stamp).bind ?_
  refine (restores_int16 c.offset).bind ?_
  refine .byte c.daylightSaving.code ?_
  refine .flag c.hasFob ?_
  refine .byte c.fobActions.1 ?_
  refine .byte c.fobActions.2.1 ?_
  exact (restores_byte c.fobActions.2.2).make _

@[simp] theorem length_encode (c : Clock) : c.encode.length = 14 := by simp [encode, Stamp.encode]

end Clock

namespace Build

/-- The group with its code under its name. -/
def named (b : Build) : Build := { b with advertising := b.advertising.named }

private theorem restores_fields (b : Build) : Restores fields b.encode b.named := by
  have hfirmware : Restores (take 3) [b.firmware.major, b.firmware.minor, b.firmware.patch] _ := restores_take rfl
  refine .byte b.advertising.code ?_
  refine .flag b.hasKeypad ?_
  refine hfirmware.bind ?_
  refine .byte b.hardware.1 ?_
  exact (restores_byte b.hardware.2).make _

@[simp] theorem length_encode (b : Build) : b.encode.length = 7 := rfl

end Build

namespace OwnSettings

/-- The settings of one family with every code under its name. -/
def named : OwnSettings → OwnSettings
  | lock autoUnlatch brightness singleLock homeKit => lock autoUnlatch brightness singleLock homeKit.named
  | opener capabilities intercom => opener capabilities.named intercom.named

def Proper : OwnSettings → Prop
  | lock _ _ _ homeKit => homeKit.Proper
  | opener capabilities intercom => capabilities.Proper ∧ intercom.Proper

private theorem named_eq {own : OwnSettings} (h : own.Proper) : own.named = own := by
  cases own with
  | lock autoUnlatch brightness singleLock homeKit =>
    have hhomeKit : homeKit.named = homeKit := Coded.named_eq (fun word => by cases word <;> rfl) h
    rw [named, hhomeKit]
  | opener capabilities intercom =>
    have hcapabilities : capabilities.named = capabilities :=
      Coded.named_eq (fun word => by cases word <;> rfl) h.1
    have hintercom : intercom.named = intercom := Coded.named_eq (fun word => by cases word <;> rfl) h.2
    rw [named, hcapabilities, hintercom]

end OwnSettings

namespace ConfigReport

/-- The report with every code under its name. -/
def named (r : ConfigReport) : ConfigReport :=
  { r with clock := r.clock.named, build := r.build.named, own := r.own.named }

/-- Only codes without a name are left bare. -/
structure Proper (r : ConfigReport) : Prop where
  daylightSaving : r.clock.daylightSaving.Proper
  advertising : r.build.advertising.Proper
  own : r.own.Proper

variable {r : ConfigReport}

private theorem named_eq (h : r.Proper) : r.named = r := by
  have hclock : r.clock.named = r.clock := by
    rw [Clock.named, Coded.named_eq (fun word => by cases word <;> rfl) h.daylightSaving]
  have hbuild : r.build.named = r.build := by
    rw [Build.named, Coded.named_eq (fun word => by cases word <;> rfl) h.advertising]
  rw [named, hclock, hbuild, OwnSettings.named_eq h.own]

private theorem family_named (r : ConfigReport) : r.named.family = r.family := by
  rw [family, family, named]
  cases r.own <;> rfl

private theorem time_named {m : Moment} (hlow : 0 ≤ m.year) (hhigh : m.year ≤ 65535)
    (hstamp : r.clock.stamp = Stamp.ofMoment m) : r.named.time = .ok m := by
  have hmoment : r.named.clock.stamp.moment? = some m := by
    rw [← Stamp.moment?_ofMoment hlow hhigh, ← hstamp]
    rfl
  rw [time, hmoment]

section Names

variable (hzero : '\x00' ∉ r.identity.name.toList) (hfits : (Utf8.ofString r.identity.name).length ≤ 32)
include hzero hfits

private theorem restores_lock {autoUnlatch : Bool} {brightness : UInt8} {singleLock : Bool}
    {homeKit : ByteCode HomeKit}
    (hown : r.own = .lock autoUnlatch brightness singleLock homeKit) : Restores lockFields r.encode r.named := by
  rw [encode, named, hown]
  simp only [List.append_assoc]
  refine (Identity.restores_fields hzero hfits).bind ?_
  refine (restores_flag autoUnlatch).bind ?_
  refine r.controls.restores_fields.bind ?_
  refine (restores_byte brightness).bind ?_
  refine r.clock.restores_fields.bind ?_
  refine (restores_flag singleLock).bind ?_
  refine r.build.restores_fields.bind ?_
  refine (restores_byte homeKit.code).bind ?_
  exact (restores_word16 r.zone).make _

private theorem restores_opener {capabilities : ByteCode Capabilities} {intercom : ByteCode Intercom}
    (hown : r.own = .opener capabilities intercom) : Restores openerFields r.encode r.named := by
  rw [encode, named, hown]
  simp only [List.append_assoc]
  refine (Identity.restores_fields hzero hfits).bind ?_
  refine (restores_byte capabilities.code).bind ?_
  refine r.controls.restores_fields.bind ?_
  refine r.clock.restores_fields.bind ?_
  refine (restores_byte intercom.code).bind ?_
  refine r.build.restores_fields.bind ?_
  exact (restores_word16 r.zone).make _

private theorem read_encode : ConfigReport.read (.of (.known .config) r.encode) = .ok r.named := by
  have hcarries : (Command.of (.known .config) r.encode).Carries (.known .config) := rfl
  rw [read_of_carries hcarries]
  cases hown : r.own with
  | lock autoUnlatch brightness singleLock homeKit =>
    have hlength : r.encode.length = lockSize := by simp [encode, hown, lockSize]
    rw [if_pos (by exact hlength)]
    exact Command.readPayload_of_restores lockSize _ (restores_lock hzero hfits hown)
  | opener capabilities intercom =>
    have hlength : r.encode.length = openerSize := by simp [encode, hown, openerSize]
    have hother : r.encode.length ≠ lockSize := by
      rw [hlength]
      decide
    rw [if_neg (by exact hother), if_pos (by exact hlength)]
    exact Command.readPayload_of_restores openerSize _ (restores_opener hzero hfits hown)

end Names

end ConfigReport

/-- From the payload of a configuration report, of either family, whose name fits into its field and has no zero
character and whose time has a year that fits, just the settings are read that have been written: the family, the
time, and every field, each also at the place where it is looked up for itself. Codes are read under their names. -/
theorem config_restored {r : ConfigReport} (hzero : '\x00' ∉ r.identity.name.toList)
    (hfits : (Utf8.ofString r.identity.name).length ≤ 32) {m : Moment} (hlow : 0 ≤ m.year)
    (hhigh : m.year ≤ 65535) (hstamp : r.clock.stamp = Stamp.ofMoment m) :
    ConfigReport.read (.of (.known .config) r.encode) = .ok r.named ∧
      ConfigReport.at? r.encode = some r.named ∧ r.named.family = r.family ∧ r.named.time = .ok m ∧
      (r.Proper → r.named = r) := by
  have hread := ConfigReport.read_encode hzero hfits
  refine ⟨hread, ?_, r.family_named, ConfigReport.time_named hlow hhigh hstamp, ConfigReport.named_eq⟩
  exact (ConfigReport.read_iff (.of (.known .config) r.encode)).2 r.named hread

/-- A moment in autumn. -/
def Moment.inAutumn : Moment := ⟨2023, 11, 5, 8, 9, 10, by decide, by decide⟩

/-- The settings of a lock, of which the clock shows that moment. -/
def ConfigReport.ofLock : ConfigReport where
  identity := ⟨0x12345678, "Front Door", 0x42520000, 0x41540000⟩
  controls := ⟨true, false, true⟩
  clock := ⟨Stamp.ofMoment Moment.inAutumn, 60, .known .european, true, (1, 2, 3)⟩
  build := ⟨.known .slow, false, ⟨2, 14, 1⟩, (4, 2)⟩
  zone := 37
  own := .lock true 3 true (.known .enabledAndPaired)

theorem config_restored_ofLock :
    ConfigReport.read (.of (.known .config) ConfigReport.ofLock.encode) = .ok ConfigReport.ofLock ∧
      ConfigReport.ofLock.time = .ok Moment.inAutumn := by
  have hproper : ConfigReport.ofLock.Proper := ⟨trivial, trivial, trivial⟩
  obtain ⟨hread, -, -, htime, hnamed⟩ :=
    config_restored (r := ConfigReport.ofLock) (by decide) (by decide) (m := Moment.inAutumn) (by decide) (by decide) rfl
  rw [hnamed hproper] at hread htime
  exact ⟨hread, htime⟩

end Latchkey
