import Latchkey.Bytes

/-!
# Time zones

Devices name a time zone by its place in a fixed table.
-/

namespace Latchkey

structure Zone where
  name : String
  /-- Distance from universal time, in winter and in summer. -/
  offset : String
  abbreviations : String
  hasSummerTime : Bool
deriving DecidableEq, Repr

namespace Zone

def table : List Zone := [
  ⟨"Africa/Cairo", "UTC+2", "EET", false⟩,
  ⟨"Africa/Lagos", "UTC+1", "WAT", false⟩,
  ⟨"Africa/Maputo", "UTC+2", "CAT, SAST", false⟩,
  ⟨"Africa/Nairobi", "UTC+3", "EAT", false⟩,
  ⟨"America/Anchorage", "UTC-9/-8", "AKDT", true⟩,
  ⟨"America/Argentina/Buenos_Aires", "UTC-3", "ART, UYT", false⟩,
  ⟨"America/Chicago", "UTC-6/-5", "CDT", true⟩,
  ⟨"America/Denver", "UTC-7/-6", "MDT", true⟩,
  ⟨"America/Halifax", "UTC-4/-3", "ADT", true⟩,
  ⟨"America/Los_Angeles", "UTC-8/-7", "PDT", true⟩,
  ⟨"America/Manaus", "UTC-4", "AMT, BOT, VET, AST, GYT", false⟩,
  ⟨"America/Mexico_City", "UTC-6/-5", "CDT", true⟩,
  ⟨"America/New_York", "UTC-5/-4", "EDT", true⟩,
  ⟨"America/Phoenix", "UTC-7", "MST", false⟩,
  ⟨"America/Regina", "UTC-6", "CST", false⟩,
  ⟨"America/Santiago", "UTC-4/-3", "CLST, AMST, WARST, PYST", true⟩,
  ⟨"America/Sao_Paulo", "UTC-3", "BRT", false⟩,
  ⟨"America/St_Johns", "UTC-3½/ -2½", "NDT", true⟩,
  ⟨"Asia/Bangkok", "UTC+7", "ICT, WIB", false⟩,
  ⟨"Asia/Dubai", "UTC+4", "SAMT, GET, AZT, GST, MUT, RET, SCT, AMT-Arm", false⟩,
  ⟨"Asia/Hong_Kong", "UTC+8", "HKT", false⟩,
  ⟨"Asia/Jerusalem", "UTC+2/+3", "IDT", true⟩,
  ⟨"Asia/Karachi", "UTC+5", "PKT, YEKT, TMT, UZT, TJT, ORAT", false⟩,
  ⟨"Asia/Kathmandu", "UTC+5¾", "NPT", false⟩,
  ⟨"Asia/Kolkata", "UTC+5½", "IST", false⟩,
  ⟨"Asia/Riyadh", "UTC+3", "AST-Arabia", false⟩,
  ⟨"Asia/Seoul", "UTC+9", "KST", false⟩,
  ⟨"Asia/Shanghai", "UTC+8", "CST, ULAT, IRKT, PHT, BND, WITA", false⟩,
  ⟨"Asia/Tehran", "UTC+3½", "ARST", false⟩,
  ⟨"Asia/Tokyo", "UTC+9", "JST, WIT, PWT, YAKT", false⟩,
  ⟨"Asia/Yangon", "UTC+6½", "MMT", false⟩,
  ⟨"Australia/Adelaide", "UTC+9½/10½", "ACDT", true⟩,
  ⟨"Australia/Brisbane", "UTC+10", "AEST, PGT, VLAT", false⟩,
  ⟨"Australia/Darwin", "UTC+9½", "ACST", false⟩,
  ⟨"Australia/Hobart", "UTC+10/+11", "AEDT", true⟩,
  ⟨"Australia/Perth", "UTC+8", "AWST", false⟩,
  ⟨"Australia/Sydney", "UTC+10/+11", "AEDT", true⟩,
  ⟨"Europe/Berlin", "UTC+1/+2", "CEST", true⟩,
  ⟨"Europe/Helsinki", "UTC+2/+3", "EEST", true⟩,
  ⟨"Europe/Istanbul", "UTC+3", "TRT", false⟩,
  ⟨"Europe/London", "UTC+0/+1", "BST, IST", true⟩,
  ⟨"Europe/Moscow", "UTC+3", "MSK", false⟩,
  ⟨"Pacific/Auckland", "UTC+12/+13", "NZDT", true⟩,
  ⟨"Pacific/Guam", "UTC+10", "ChST", false⟩,
  ⟨"Pacific/Honolulu", "UTC-10", "H(A)ST", false⟩,
  ⟨"Pacific/Pago_Pago", "UTC-11", "SST", false⟩]

/-- The place of a zone in the table. -/
abbrev Id := UInt16

def ofId? (id : Id) : Option Zone := table[id.toNat]?

/-- The name of a zone, empty for an id beyond the table. -/
def nameOf (id : Id) : String := ((ofId? id).map Zone.name).getD ""

def idOfName? (name : String) : Option Id := (table.findIdx? (·.name = name)).map UInt16.ofNat

def display (id : Id) : String :=
  match ofId? id with
  | some zone =>
    s!"{zone.name} | {zone.offset} | {zone.abbreviations} | {zone.hasSummerTime}"
  | none => s!"unknown timezone {id}"

end Zone

end Latchkey
