import Latchkey.Proofs.Layouts

/-!
# Looking up fields

The two layouts of a configuration report share their groups of fields, but not the places of these. Of all reports
there are, it is a single condition on the length of a payload that keeps the lookups of all fields within it.
-/

namespace Latchkey

open Reader

private theorem Identity.lies_fields {need : Nat} (h : 44 ≤ need) : Lies need 0 44 fields at? := by
  refine (lies_word32 (by omega)).bind fun deviceId => ?_
  refine (Padded.lies_field (by omega)).bind fun name => ?_
  refine (lies_word32 (by omega)).bind fun latitude => ?_
  refine (lies_word32 (by omega)).bind fun longitude => ?_
  exact lies_pure need 44 _

private theorem Controls.lies_fields {need : Nat} (h : 48 ≤ need) : Lies need 45 48 fields at? := by
  refine (lies_flag (by omega)).bind fun pairing => ?_
  refine (lies_flag (by omega)).bind fun button => ?_
  refine (lies_flag (by omega)).bind fun led => ?_
  exact lies_pure need 48 _

namespace ConfigReport

/-- The fields of the two groups lie one behind the other. -/
structure Places.InOrder (places : Places) : Prop where
  offset : places.offset = places.stamp + 7
  daylightSaving : places.daylightSaving = places.stamp + 9
  hasFob : places.hasFob = places.stamp + 10
  fobActions : places.fobActions = places.stamp + 11
  hasKeypad : places.hasKeypad = places.advertising + 1
  firmware : places.firmware = places.advertising + 2
  hardware : places.hardware = places.advertising + 5

private theorem lockPlaces_inOrder : lockPlaces.InOrder := ⟨rfl, rfl, rfl, rfl, rfl, rfl, rfl⟩

private theorem openerPlaces_inOrder : openerPlaces.InOrder := ⟨rfl, rfl, rfl, rfl, rfl, rfl, rfl⟩

end ConfigReport

private theorem Clock.lies_fields {need : Nat} {places : ConfigReport.Places} (h : places.InOrder)
    (hlong : places.stamp + 14 ≤ need) : Lies need places.stamp (places.stamp + 14) fields (at? places) := by
  have hat : at? places = _ := funext fun payload => by
    rw [at?, h.offset, h.daylightSaving, h.hasFob, h.fobActions]
  rw [hat]
  refine (Stamp.lies_field (by omega)).bind fun stamp => ?_
  refine (lies_int16 (by omega)).bind fun offset => ?_
  refine (lies_byte (by omega)).bind fun daylightSaving => ?_
  refine (lies_flag (by omega)).bind fun hasFob => ?_
  refine (lies_byte (by omega)).bind fun one => ?_
  refine (lies_byte (by omega)).bind fun two => ?_
  refine (lies_byte (by omega)).bind fun three => ?_
  exact lies_pure need (places.stamp + 14) _

private theorem Build.lies_fields {need : Nat} {places : ConfigReport.Places} (h : places.InOrder)
    (hlong : places.advertising + 7 ≤ need) :
    Lies need places.advertising (places.advertising + 7) fields (at? places) := by
  have hat : at? places = _ := funext fun payload => by rw [at?, h.hasKeypad, h.firmware, h.hardware]
  rw [hat]
  refine (lies_byte (by omega)).bind fun advertising => ?_
  refine (lies_flag (by omega)).bind fun hasKeypad => ?_
  refine (lies_take (by omega)).bind fun firmware => ?_
  refine (lies_byte (by omega)).bind fun major => ?_
  refine (lies_byte (by omega)).bind fun minor => ?_
  exact lies_pure need (places.advertising + 7) _

namespace ConfigReport

private theorem tells_lockFields : Tells 74 0 lockFields (fieldsAt? lockPlaces lockSettingsAt?) := by
  have hclock : Lies 74 49 63 Clock.fields (Clock.at? lockPlaces) :=
    Clock.lies_fields lockPlaces_inOrder (by decide)
  have hbuild : Lies 74 64 71 Build.fields (Build.at? lockPlaces) :=
    Build.lies_fields lockPlaces_inOrder (by decide)
  have hzone : Lies 74 72 74 word16 (Bytes.word16At? lockPlaces.zone) := lies_word16 (by decide)
  intro payload hlong
  obtain ⟨identity, hidentityAt, hidentity⟩ := Identity.lies_fields (by decide) payload hlong
  obtain ⟨autoUnlatch, hautoUnlatchAt, hautoUnlatch⟩ := lies_flag (show 44 < 74 by decide) payload hlong
  obtain ⟨controls, hcontrolsAt, hcontrols⟩ := Controls.lies_fields (by decide) payload hlong
  obtain ⟨brightness, hbrightnessAt, hbrightness⟩ := lies_byte (show 48 < 74 by decide) payload hlong
  obtain ⟨clock, hclockAt, hclock⟩ := hclock payload hlong
  obtain ⟨singleLock, hsingleLockAt, hsingleLock⟩ := lies_flag (show 63 < 74 by decide) payload hlong
  obtain ⟨build, hbuildAt, hbuild⟩ := hbuild payload hlong
  obtain ⟨homeKit, hhomeKitAt, hhomeKit⟩ := lies_byte (show 71 < 74 by decide) payload hlong
  obtain ⟨zone, hzoneAt, hzone⟩ := hzone payload hlong
  let own := OwnSettings.lock autoUnlatch brightness singleLock (Coded.ofCode homeKit)
  refine ⟨⟨identity, controls, clock, build, zone, own⟩, ?_, ?_⟩
  · simp only [fieldsAt?, lockSettingsAt?, hidentityAt, hautoUnlatchAt, hcontrolsAt, hbrightnessAt, hclockAt,
      hsingleLockAt, hbuildAt, hhomeKitAt, hzoneAt]
    rfl
  · simp only [first?, lockFields, bind_run, hidentity, hautoUnlatch, hcontrols, hbrightness, hclock,
      hsingleLock, hbuild, hhomeKit, hzone, Option.bind_some]
    rfl

private theorem tells_openerFields : Tells 72 0 openerFields (fieldsAt? openerPlaces openerSettingsAt?) := by
  have hclock : Lies 72 48 62 Clock.fields (Clock.at? openerPlaces) :=
    Clock.lies_fields openerPlaces_inOrder (by decide)
  have hbuild : Lies 72 63 70 Build.fields (Build.at? openerPlaces) :=
    Build.lies_fields openerPlaces_inOrder (by decide)
  have hzone : Lies 72 70 72 word16 (Bytes.word16At? openerPlaces.zone) := lies_word16 (by decide)
  intro payload hlong
  obtain ⟨identity, hidentityAt, hidentity⟩ := Identity.lies_fields (by decide) payload hlong
  obtain ⟨capabilities, hcapabilitiesAt, hcapabilities⟩ := lies_byte (show 44 < 72 by decide) payload hlong
  obtain ⟨controls, hcontrolsAt, hcontrols⟩ := Controls.lies_fields (by decide) payload hlong
  obtain ⟨clock, hclockAt, hclock⟩ := hclock payload hlong
  obtain ⟨intercom, hintercomAt, hintercom⟩ := lies_byte (show 62 < 72 by decide) payload hlong
  obtain ⟨build, hbuildAt, hbuild⟩ := hbuild payload hlong
  obtain ⟨zone, hzoneAt, hzone⟩ := hzone payload hlong
  let own := OwnSettings.opener (Coded.ofCode capabilities) (Coded.ofCode intercom)
  refine ⟨⟨identity, controls, clock, build, zone, own⟩, ?_, ?_⟩
  · simp only [fieldsAt?, openerSettingsAt?, hidentityAt, hcapabilitiesAt, hcontrolsAt, hclockAt, hintercomAt,
      hbuildAt, hzoneAt]
    rfl
  · simp only [first?, openerFields, bind_run, hidentity, hcapabilities, hcontrols, hclock, hintercom, hbuild,
      hzone, Option.bind_some]
    rfl

end ConfigReport

theorem ConfigReport.read_of_carries {c : Command} (hcarries : c.Carries (.known .config)) :
    ConfigReport.read c =
      if c.payload.length = lockSize then c.readPayload lockSize lockFields
      else if c.payload.length = openerSize then c.readPayload openerSize openerFields
      else .error (.unsupportedPayload (.known .config) c.payload.length) := by
  rw [ConfigReport.read, Command.expectId, if_pos hcarries]
  rfl

theorem ConfigReport.read_iff (c : Command) :
    ((∃ report, ConfigReport.read c = .ok report) ↔
        c.Carries (.known .config) ∧ (c.payload.length = openerSize ∨ c.payload.length = lockSize)) ∧
      ∀ report, ConfigReport.read c = .ok report → ConfigReport.at? c.payload = some report := by
  apply Command.read_iff
  · rintro ⟨hcarries, hopener | hlock⟩
    · have hnot : c.payload.length ≠ lockSize := by
        rw [hopener]
        decide
      rw [read_of_carries hcarries, if_neg hnot, if_pos hopener, ConfigReport.at?, if_neg hnot, if_pos hopener]
      exact Command.readPayload_of_tells openerSize tells_openerFields (Nat.le_of_eq hopener.symm)
    · rw [read_of_carries hcarries, if_pos hlock, ConfigReport.at?, if_pos hlock]
      exact Command.readPayload_of_tells lockSize tells_lockFields (Nat.le_of_eq hlock.symm)
  · intro hrefused
    by_cases hcarries : c.Carries (.known .config)
    · obtain ⟨hopener, hlock⟩ := not_or.mp fun hlength => hrefused ⟨hcarries, hlength⟩
      rw [read_of_carries hcarries, if_neg hlock, if_neg hopener]
      exact ⟨_, rfl⟩
    · rw [ConfigReport.read, Command.expectId_of_not_carries hcarries]
      exact ⟨_, rfl⟩

namespace View

/-- The command that carries the report. -/
def name : View → CommandName
  | publicKey => .publicKey
  | challenge => .challenge
  | status => .status
  | authorization => .authorizationId
  | fault => .errorReport
  | logCount => .logEntryCount
  | logEntry => .logEntry
  | states => .keyturnerStates
  | config => .config

/-- The lengths of the payloads that are accepted. -/
def Admits (view : View) (length : Nat) : Prop :=
  match view with
  | publicKey => 32 ≤ length
  | challenge => 32 ≤ length
  | status => 1 ≤ length
  | authorization => 52 ≤ length
  | fault => 1 ≤ length
  | logCount => 3 ≤ length
  | logEntry => 48 ≤ length
  | states => 19 ≤ length
  | config => length = 72 ∨ length = 74

end View

/-- A command is accepted as a report exactly if it has the id of the report and a payload of a length that the
report admits, and then the lookup of every field finds what is read there: none goes beyond the payload. -/
theorem lookups_within (view : View) (c : Command) :
    ((∃ report, view.read c = .ok report) ↔
        c.Carries (.known view.name) ∧ view.Admits c.payload.length) ∧
      ∀ report, view.read c = .ok report → view.at? c.payload = some report := by
  cases view with
  | publicKey => exact Layout.read_iff tells_publicKey c
  | challenge => exact Layout.read_iff tells_challenge c
  | status => exact Layout.read_iff tells_status c
  | authorization => exact Layout.read_iff AuthorizationReport.tells c
  | fault => exact Layout.read_iff FaultReport.tells c
  | logCount => exact Layout.read_iff LogCount.tells c
  | logEntry => exact Layout.read_iff LogEntry.tells c
  | states => exact StateReport.read_iff c
  | config => exact ConfigReport.read_iff c

/-- A state report of nineteen bytes is accepted, though the extra fields of a lock are left out. -/
theorem lookups_within_shortest :
    let c := Command.of (.known .keyturnerStates) (List.replicate 19 0)
    ∃ report, View.states.read c = .ok report ∧ View.states.at? c.payload = some report := by
  intro c
  obtain ⟨haccepted, hfound⟩ := lookups_within .states c
  obtain ⟨report, hread⟩ := haccepted.mpr ⟨rfl, Nat.le_refl 19⟩
  exact ⟨report, hread, hfound report hread⟩

end Latchkey
